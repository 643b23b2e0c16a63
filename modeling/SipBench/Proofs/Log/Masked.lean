import SipBench.Proofs.Log.CredentialName

/-!
# Masked texts

What a search for credentials leaves of a text.  A credential is a name and, behind a sign, a value;
the name stays and the value is masked.  The masked text has the names of the text before and no
other ones, since no name holds the sign or the last character of a mask, so that a second search
finds masks alone.

* `Kind` : the credentials that a search is for
* `Kind.IsMasked` : texts that show no value of such a credential
* `Kind.Writes` : a text and what a search makes of it
* `Kind.Writes.isMaskedFrom` : no value shows in what a search has written
* `Kind.Writes.eq_self` : a search leaves masked texts as they are
-/

namespace SipBench.Redaction

/-! ### Word characters before a name -/

theorem endsInWord_append (afterWord : Bool) (cs ds : List Char) :
    endsInWord afterWord (cs ++ ds) = endsInWord (endsInWord afterWord cs) ds :=
  List.foldl_append

theorem endsInWord_concat (afterWord : Bool) (cs : List Char) (c : Char) :
    endsInWord afterWord (cs ++ [c]) = Text.isWord c := by
  rw [endsInWord_append]
  rfl

theorem endsInWord_false_iff {cs : List Char} :
    endsInWord false cs = false ↔ ∀ c ∈ cs.getLast?, Text.isWord c = false := by
  refine ⟨fun h => ?_, endsInWord_eq_false⟩
  obtain rfl | ⟨cs, c, rfl⟩ := List.eq_nil_or_concat' cs
  · exact nofun
  · rw [endsInWord_concat] at h
    rintro d hd
    rw [List.getLast?_concat, Option.mem_some_iff] at hd
    exact hd ▸ h

theorem maskAll_skip (find : List Char → Option Mask) (afterWord : Bool) (cs rest : List Char) :
    maskAll find cs.length afterWord (cs ++ rest) =
      maskAll find 0 (endsInWord afterWord cs) rest := by
  induction cs generalizing afterWord with
  | nil => rfl
  | cons c cs ih => exact ih _

/-! ### Kinds of credentials -/

/-- A kind of credential. -/
structure Kind where
  /-- The spellings of its names. -/
  IsName : List Char → Prop
  /-- The character behind a name, with which its value begins. -/
  sign : Char
  /-- Whether a value ends where the rest of the text begins. -/
  IsValue : (value rest : List Char) → Prop
  /-- What is written in place of a value. -/
  mask : List Char

namespace Kind

/-- A credential of the kind begins here. -/
def Begins (K : Kind) (cs : List Char) : Prop :=
  ∃ name value rest, cs = name ++ value ++ rest ∧ K.IsName name ∧ K.IsValue value rest

/-- If a credential of the kind begins here, its value is masked. -/
def IsMaskedAt (K : Kind) (cs : List Char) : Prop :=
  ∀ name value rest, cs = name ++ value ++ rest → K.IsName name → K.IsValue value rest →
    value = K.mask

/-- No value of a credential of the kind shows in a text; `afterWord` tells whether a word character
precedes it. -/
def IsMaskedFrom (K : Kind) (afterWord : Bool) (text : List Char) : Prop :=
  ∀ before cs, text = before ++ cs → endsInWord afterWord before = false → K.IsMaskedAt cs

/-- What a search for a kind of credential makes of a text: characters at which no credential begins
stay, and so do the names of those that do; their values are masked.  No credential begins behind a
word character. -/
inductive Writes (K : Kind) : (afterWord : Bool) → (cs out : List Char) → Prop
  | nil (afterWord : Bool) : Writes K afterWord [] []
  | keep {afterWord : Bool} {c : Char} {cs out : List Char}
      (h : afterWord = false → ¬ K.Begins (c :: cs)) (hrest : Writes K (Text.isWord c) cs out) :
    Writes K afterWord (c :: cs) (c :: out)
  | mask {name value rest out : List Char} (hname : K.IsName name) (hvalue : K.IsValue value rest)
      (hrest : Writes K false rest out) :
    Writes K false (name ++ value ++ rest) (name ++ K.mask ++ out)

/-- What can be said of names, values and masks. -/
structure Lawful (K : Kind) : Prop where
  name_ne_nil : ∀ {name}, K.IsName name → name ≠ []
  sign_not_mem : ∀ {name}, K.IsName name → K.sign ∉ name
  head_value : ∀ {value rest}, K.IsValue value rest → ∃ more, value = K.sign :: more
  /-- Where a value ends is seen from the text. -/
  value_unique : ∀ {value rest value' rest'}, K.IsValue value rest → K.IsValue value' rest' →
    value ++ rest = value' ++ rest' → value = value'
  /-- A mask is a value itself. -/
  mask_value : ∀ {value rest out}, K.IsValue value rest → out.head? = rest.head? →
    K.IsValue K.mask out
  /-- A mask ends with a character that is in no name. -/
  mask_eq : ∃ more last, K.mask = K.sign :: (more ++ [last]) ∧ K.sign ∉ more ++ [last] ∧
    Text.isWord last = false ∧ ∀ name, K.IsName name → last ∉ name

/-- A value that a search has written comes from a value. -/
def KeepsValues (K : Kind) : Prop :=
  ∀ afterWord cs value rest, K.Writes afterWord cs (value ++ rest) → K.IsValue value rest →
    ∃ value' rest', cs = value' ++ rest' ∧ K.IsValue value' rest'

/-- A search is for a kind of credential. -/
structure FoundBy (K : Kind) (find : List Char → Option Mask) : Prop where
  sound : ∀ {cs found}, find cs = some found → ∃ name value rest, cs = name ++ value ++ rest ∧
    K.IsName name ∧ K.IsValue value rest ∧ found = ⟨name ++ K.mask, (name ++ value).length⟩
  complete : ∀ {cs}, K.Begins cs → find cs ≠ none
  /-- Behind a value, it does not matter whether its last character is a word character. -/
  after : ∀ {value rest}, K.IsValue value rest → ∀ afterWord,
    maskAll find 0 (endsInWord afterWord value) rest = maskAll find 0 false rest

variable {K : Kind} {afterWord : Bool} {cs out : List Char}

/-! ### Where no value shows -/

theorem isMaskedAt_of_not_begins (h : ¬ K.Begins cs) : K.IsMaskedAt cs :=
  fun name value rest heq hname hvalue => absurd ⟨name, value, rest, heq, hname, hvalue⟩ h

theorem IsMaskedFrom.drop {ds : List Char} (h : K.IsMaskedFrom afterWord (cs ++ ds)) :
    K.IsMaskedFrom (endsInWord afterWord cs) ds := by
  intro before rest heq hword
  rw [← endsInWord_append] at hword
  exact h (cs ++ before) rest (by rw [heq, List.append_assoc]) hword

theorem IsMaskedFrom.tail {c : Char} (h : K.IsMaskedFrom afterWord (c :: cs)) :
    K.IsMaskedFrom (Text.isWord c) cs :=
  @IsMaskedFrom.drop K afterWord [c] cs h

theorem isMaskedFrom_append {piece : List Char}
    (hpiece : ∀ before tail, piece = before ++ tail → tail ≠ [] →
      endsInWord afterWord before = false → K.IsMaskedAt (tail ++ cs))
    (h : K.IsMaskedFrom (endsInWord afterWord piece) cs) :
    K.IsMaskedFrom afterWord (piece ++ cs) := by
  intro before rest heq hword
  obtain ⟨more, rfl, rfl⟩ | ⟨tail, rfl, rfl⟩ := List.append_eq_append_iff.1 heq
  · rw [endsInWord_append] at hword
    exact h more rest rfl hword
  · by_cases htail : tail = []
    · subst htail
      rw [List.append_nil] at h
      exact h [] cs rfl hword
    · exact hpiece before tail rfl htail hword

theorem isMaskedFrom_cons {c : Char} (hc : afterWord = false → K.IsMaskedAt (c :: cs))
    (h : K.IsMaskedFrom (Text.isWord c) cs) : K.IsMaskedFrom afterWord (c :: cs) := by
  change K.IsMaskedFrom afterWord ([c] ++ cs)
  refine isMaskedFrom_append (fun before tail heq htail hword => ?_) h
  cases before with
  | nil =>
    obtain rfl : [c] = tail := heq
    exact hc hword
  | cons d before =>
    obtain ⟨-, htail'⟩ := List.append_eq_nil_iff.1 (List.cons.inj heq).2.symm
    exact absurd htail' htail

theorem isMaskedFrom_nil (hK : K.Lawful) (afterWord : Bool) : K.IsMaskedFrom afterWord [] := by
  intro before rest heq _ name value more hrest hname _
  obtain ⟨-, rfl⟩ := List.append_eq_nil_iff.1 heq.symm
  obtain ⟨hnil, -⟩ := List.append_eq_nil_iff.1 hrest.symm
  exact absurd (List.append_eq_nil_iff.1 hnil).1 (hK.name_ne_nil hname)

/-- No credential begins in a piece with a character that is in no name and without the sign. -/
theorem Lawful.not_begins (hK : K.Lawful) {piece : List Char} {d : Char} (hd : d ∈ piece)
    (hname : ∀ name, K.IsName name → d ∉ name) (hsign : K.sign ∉ piece) (rest : List Char) :
    ¬ K.Begins (piece ++ rest) := by
  rintro ⟨name, value, more, heq, hn, hvalue⟩
  obtain ⟨tail, rfl⟩ := hK.head_value hvalue
  rw [List.append_assoc, List.cons_append] at heq
  obtain ⟨before, rfl, -⟩ | ⟨after, rfl, hafter⟩ := List.append_eq_append_iff.1 heq
  · exact hname _ hn (List.mem_append_left _ hd)
  · cases after with
    | nil => exact hname name hn (by rwa [List.append_nil] at hd)
    | cons c after =>
      obtain ⟨rfl, -⟩ := List.cons.inj hafter
      exact hsign (List.mem_append_right _ List.mem_cons_self)

theorem mem_of_suffix_concat {piece tail : List Char} {d : Char} (h : tail <:+ piece ++ [d])
    (hne : tail ≠ []) : d ∈ tail := by
  obtain rfl | ⟨tail, rfl, -⟩ := List.suffix_concat_iff.1 h
  · exact absurd rfl hne
  · exact List.mem_concat_self

/-- No credential begins in an ending of such a piece. -/
theorem Lawful.not_begins_suffix (hK : K.Lawful) {piece tail : List Char} {d : Char}
    (htail : tail <:+ piece ++ [d]) (hne : tail ≠ []) (hname : ∀ name, K.IsName name → d ∉ name)
    (hsign : K.sign ∉ piece ++ [d]) (rest : List Char) : ¬ K.Begins (tail ++ rest) := by
  have hmem : d ∈ tail := mem_of_suffix_concat htail hne
  exact hK.not_begins hmem hname (fun hsigned => hsign (htail.subset hsigned)) rest

theorem Lawful.endsInWord_mask (hK : K.Lawful) (afterWord : Bool) (cs : List Char) :
    endsInWord afterWord (cs ++ K.mask) = false := by
  obtain ⟨more, last, heq, -, hword, -⟩ := hK.mask_eq
  rw [heq, ← List.cons_append, ← List.append_assoc, endsInWord_concat, hword]

/-- Behind anything without the sign, a mask is the only value. -/
theorem Lawful.isMaskedAt_mask (hK : K.Lawful) {before : List Char} (hbefore : K.sign ∉ before)
    (hvalue : K.IsValue K.mask out) : K.IsMaskedAt (before ++ K.mask ++ out) := by
  intro name value rest heq hname hother
  obtain ⟨masked, hmask⟩ := hK.head_value hvalue
  obtain ⟨shown, hshown⟩ := hK.head_value hother
  have hsplit : before ++ K.sign :: (masked ++ out) = name ++ K.sign :: (shown ++ rest) := by
    simpa only [hmask, hshown, List.append_assoc, List.cons_append] using heq
  have hsame := (Text.append_separator_inj hbefore (hK.sign_not_mem hname) hsplit).2
  refine hK.value_unique hother hvalue ?_
  rw [hmask, hshown, List.cons_append, List.cons_append, hsame]

/-- From a name to the end of the mask behind it, a search can find nothing but the mask. -/
theorem Lawful.isMaskedFrom_mask (hK : K.Lawful) {name : List Char} (hname : K.sign ∉ name)
    (hvalue : K.IsValue K.mask out) (h : K.IsMaskedFrom false out) :
    K.IsMaskedFrom afterWord (name ++ K.mask ++ out) := by
  refine isMaskedFrom_append (fun before tail heq htail _ => ?_) (by rwa [hK.endsInWord_mask])
  obtain ⟨more, last, hmask, hsign, -, hlast⟩ := hK.mask_eq
  obtain ⟨ending, rfl, rfl⟩ | ⟨piece, rfl, hpiece⟩ := List.append_eq_append_iff.1 heq.symm
  · exact hK.isMaskedAt_mask (fun hmem => hname (List.mem_append_right _ hmem)) hvalue
  · cases piece with
    | nil =>
      obtain rfl : K.mask = tail := hpiece
      have hmasked := hK.isMaskedAt_mask (List.not_mem_nil : K.sign ∉ []) hvalue
      exact hmasked
    | cons c piece =>
      -- the sign lies before the piece, and the last character of the mask in it
      have hrest : more ++ [last] = piece ++ tail := (List.cons.inj (hmask.symm.trans hpiece)).2
      exact isMaskedAt_of_not_begins
        (hK.not_begins_suffix ⟨piece, hrest.symm⟩ htail hlast hsign out)

/-! ### What is written of a name -/

theorem Writes.head? (hK : K.Lawful) (h : K.Writes afterWord cs out) : out.head? = cs.head? := by
  cases h with
  | nil => rfl
  | keep => rfl
  | @mask name value rest out hname _ _ =>
    obtain ⟨c, more, rfl⟩ := List.exists_cons_of_ne_nil (hK.name_ne_nil hname)
    rfl

theorem Writes.of_cons (hK : K.Lawful) {c : Char} (h : K.Writes afterWord cs (c :: out))
    (hname : ∀ name, K.IsName name → c ∉ name) :
    ∃ rest, cs = c :: rest ∧ K.Writes (Text.isWord c) rest out := by
  generalize hwritten : c :: out = written at h
  cases h with
  | nil => cases hwritten
  | keep _ hrest =>
    obtain ⟨rfl, rfl⟩ := List.cons.inj hwritten
    exact ⟨_, rfl, hrest⟩
  | @mask name value rest out hn _ _ =>
    obtain ⟨d, more, rfl⟩ := List.exists_cons_of_ne_nil (hK.name_ne_nil hn)
    obtain ⟨rfl, -⟩ := List.cons.inj hwritten
    exact absurd List.mem_cons_self (hname _ hn)

theorem Writes.of_clear {piece rest : List Char} (h : K.Writes afterWord (piece ++ rest) out)
    (hclear : ∀ tail, tail <:+ piece → tail ≠ [] → ¬ K.Begins (tail ++ rest)) :
    ∃ afterWord' more, out = piece ++ more ∧ K.Writes afterWord' rest more := by
  induction piece generalizing afterWord out with
  | nil => exact ⟨afterWord, out, rfl, h⟩
  | cons c piece ih =>
    have hbegins := hclear (c :: piece) List.suffix_rfl (List.cons_ne_nil c piece)
    generalize hcs : c :: piece ++ rest = cs at h hbegins
    cases h with
    | nil => cases hcs
    | keep _ hrest =>
      obtain ⟨rfl, rfl⟩ := List.cons.inj hcs
      obtain ⟨afterWord', more, rfl, hmore⟩ := ih hrest fun tail htail =>
        hclear tail (htail.trans (List.suffix_cons _ _))
      exact ⟨afterWord', more, rfl, hmore⟩
    | mask hname hvalue _ => exact absurd ⟨_, _, _, rfl, hname, hvalue⟩ hbegins

/-- **What is written of a text comes from it**: a word without the sign that is written stands in
the text, and behind it there is what the rest of the output comes from, or the word ends in the
name of a credential that is masked. -/
theorem Writes.of_append (hK : K.Lawful) {word more : List Char}
    (h : K.Writes afterWord cs (word ++ more)) (hword : K.sign ∉ word) :
    ∃ rest, cs = word ++ rest ∧ ((∃ afterWord', K.Writes afterWord' rest more) ∨
      ∃ name out, more = name ++ K.mask ++ out ∧ K.sign ∉ name ∧ K.IsValue K.mask out) := by
  generalize hout : word ++ more = out at h
  induction h generalizing word with
  | nil afterWord =>
    obtain ⟨rfl, rfl⟩ := List.append_eq_nil_iff.1 hout
    exact ⟨[], rfl, .inl ⟨afterWord, .nil afterWord⟩⟩
  | @keep afterWord c cs out hbegins hrest ih =>
    cases word with
    | nil =>
      obtain rfl : more = c :: out := hout
      exact ⟨c :: cs, rfl, .inl ⟨afterWord, .keep hbegins hrest⟩⟩
    | cons d word =>
      obtain ⟨rfl, htail⟩ := List.cons.inj hout
      obtain ⟨rest, rfl, hmore⟩ := ih (fun hmem => hword (List.mem_cons_of_mem d hmem)) htail
      exact ⟨rest, rfl, hmore⟩
  | @mask name value rest out hname hvalue hrest _ =>
    have hmask : K.IsValue K.mask out := hK.mask_value hvalue (hrest.head? hK)
    rw [List.append_assoc] at hout
    obtain ⟨tail, rfl, rfl⟩ | ⟨tail, rfl, htail⟩ := List.append_eq_append_iff.1 hout
    · refine ⟨tail ++ value ++ rest, by simp, .inr ⟨tail, out, by simp, fun hmem => ?_, hmask⟩⟩
      exact hK.sign_not_mem hname (List.mem_append_right _ hmem)
    · -- the word cannot go on into the mask, which begins with the sign
      obtain ⟨masked, heq⟩ := hK.head_value hmask
      cases tail with
      | nil =>
        obtain rfl : K.mask ++ out = more := htail
        exact ⟨value ++ rest, by simp, .inr ⟨[], out, rfl, List.not_mem_nil, hmask⟩⟩
      | cons c tail =>
        rw [heq] at htail
        obtain ⟨rfl, -⟩ := List.cons.inj htail
        exact absurd (List.mem_append_right _ List.mem_cons_self) hword

/-- **No value shows in what a search has written.** -/
theorem Writes.isMaskedFrom (hK : K.Lawful) (hkeeps : K.KeepsValues)
    (h : K.Writes afterWord cs out) : K.IsMaskedFrom afterWord out := by
  induction h with
  | nil afterWord => exact isMaskedFrom_nil hK afterWord
  | @keep afterWord c cs out hbegins hrest ih =>
    refine isMaskedFrom_cons (fun hword => ?_) ih
    intro name value rest heq hname hvalue
    have hwhole : K.Writes afterWord (c :: cs) (name ++ (value ++ rest)) := by
      rw [← List.append_assoc, ← heq]
      exact .keep hbegins hrest
    obtain ⟨shown, hshown, ⟨afterWord', hwritten⟩ | ⟨ending, out', hmore, hsign, hmask⟩⟩ :=
      hwhole.of_append hK (hK.sign_not_mem hname)
    · -- the text would have a credential here, which the search has not found
      obtain ⟨value', rest', rfl, hvalue'⟩ := hkeeps _ _ _ _ hwritten hvalue
      exact absurd ⟨name, value', rest', by rw [hshown, List.append_assoc], hname, hvalue'⟩
        (hbegins hword)
    · obtain ⟨tail, rfl⟩ := hK.head_value hvalue
      cases ending with
      | nil => exact hK.value_unique hvalue hmask hmore
      | cons d ending =>
        obtain ⟨rfl, -⟩ := List.cons.inj hmore
        exact absurd List.mem_cons_self hsign
  | @mask name value rest out hname hvalue hrest ih =>
    exact hK.isMaskedFrom_mask (hK.sign_not_mem hname) (hK.mask_value hvalue (hrest.head? hK)) ih

/-! ### A search and what it writes -/

/-- The search writes the mask of a credential that it has found, and goes on behind its value. -/
theorem FoundBy.maskAll_mask (hK : K.Lawful) {find : List Char → Option Mask}
    (hfind : K.FoundBy find) {name value rest : List Char} (hname : K.IsName name)
    (hvalue : K.IsValue value rest)
    (hfound : find (name ++ value ++ rest) = some ⟨name ++ K.mask, (name ++ value).length⟩) :
    maskAll find 0 false (name ++ value ++ rest) =
      name ++ K.mask ++ maskAll find 0 false rest := by
  obtain ⟨c, more, hmore⟩ := List.exists_cons_of_ne_nil
    (List.append_ne_nil_of_left_ne_nil (hK.name_ne_nil hname) value)
  have hstate : endsInWord (Text.isWord c) more = endsInWord (endsInWord false name) value := by
    rw [← endsInWord_append, hmore]
    rfl
  rw [hmore, List.cons_append] at hfound ⊢
  rw [maskAll, if_neg Bool.false_ne_true, hfound]
  dsimp only
  rw [List.length_cons, Nat.add_sub_cancel, maskAll_skip, hstate, hfind.after hvalue]

/-- **What a search writes.** -/
theorem writes_maskAll (hK : K.Lawful) {find : List Char → Option Mask} (hfind : K.FoundBy find)
    (cs : List Char) (afterWord : Bool) : K.Writes afterWord cs (maskAll find 0 afterWord cs) := by
  induction hlength : cs.length using Nat.strong_induction_on generalizing cs afterWord with
  | _ n ih =>
    subst hlength
    cases cs with
    | nil => exact .nil afterWord
    | cons c cs =>
      cases hfound : if afterWord then none else find (c :: cs) with
      | none =>
        rw [maskAll, hfound]
        refine .keep (fun hword hbegins => ?_) (ih _ (Nat.lt_succ_self _) cs _ rfl)
        rw [hword] at hfound
        exact hfind.complete hbegins hfound
      | some found =>
        split_ifs at hfound with hword
        obtain rfl := Bool.eq_false_iff.2 hword
        obtain ⟨name, value, rest, heq, hname, hvalue, rfl⟩ := hfind.sound hfound
        rw [heq] at hfound ⊢
        rw [hfind.maskAll_mask hK hname hvalue hfound]
        refine .mask hname hvalue (ih rest.length ?_ rest false rfl)
        have := List.length_pos_of_ne_nil (hK.name_ne_nil hname)
        rw [heq, List.length_append, List.length_append]
        omega

theorem Writes.eq_self (hK : K.Lawful) (h : K.Writes afterWord cs out)
    (hmasked : K.IsMaskedFrom afterWord cs) : out = cs := by
  induction h with
  | nil => rfl
  | @keep afterWord c cs out _ _ ih => exact congrArg (c :: ·) (ih hmasked.tail)
  | @mask name value rest out hname hvalue _ ih =>
    obtain rfl := hmasked [] _ rfl rfl name value rest rfl hname hvalue
    have hrest := hmasked.drop
    rw [hK.endsInWord_mask] at hrest
    rw [ih hrest]

end Kind

end SipBench.Redaction
