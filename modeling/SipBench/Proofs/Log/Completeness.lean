import SipBench.Proofs.Log.Masked

/-!
# Redaction is complete

No value of a credential shows in a masked text, wherever its name stands: the parameters are masked
after the headers, and although a masked parameter may join two lines, it brings no header back and
leaves the masks of the headers as they are.  A text stays as it is exactly if no value shows in it.

* `headers`, `parameters` : the two kinds of credentials
* `IsMasked` : texts that show no value of either kind
* `isMaskedFrom_headers` : the masking of parameters shows no value of a header
* `redact_complete` : masked texts are those that masking leaves as they are, and all that it gives
-/

namespace SipBench.Redaction

/-! ### The spellings of names -/

/-- A spelling of the name of a digest parameter, in any letter case. -/
def IsParameterName (name : List Char) : Prop :=
  ∃ word ∈ parameterNames, name.map Text.foldLetter = word.toList

theorem IsHeaderName.not_mem {name : List Char} (h : IsHeaderName name) {c : Char}
    (hc : ∀ word ∈ headerNames, Text.foldLetter c ∉ word.toList.dropLast) : c ∉ name := by
  obtain ⟨word, hword, hmap⟩ := h
  have hletters := hc word hword
  rw [← hmap, List.map_append, List.map_singleton, List.dropLast_concat] at hletters
  exact fun hmem => hletters (List.mem_map_of_mem hmem)

theorem IsHeaderName.ne_nil {name : List Char} (h : IsHeaderName name) : name ≠ [] := by
  rintro rfl
  have hwords : ∀ word ∈ headerNames, [':'].map Text.foldLetter ≠ word.toList := by decide
  obtain ⟨word, hword, hmap⟩ := h
  exact hwords word hword hmap

theorem IsParameterName.not_mem {name : List Char} (h : IsParameterName name) {c : Char}
    (hc : ∀ word ∈ parameterNames, Text.foldLetter c ∉ word.toList) : c ∉ name := by
  obtain ⟨word, hword, hmap⟩ := h
  exact fun hmem => hc word hword (hmap ▸ List.mem_map_of_mem hmem)

theorem IsParameterName.ne_nil {name : List Char} (h : IsParameterName name) : name ≠ [] := by
  rintro rfl
  have hwords : ∀ word ∈ parameterNames, [] ≠ word.toList := by decide
  obtain ⟨word, hword, hmap⟩ := h
  exact hwords word hword hmap

theorem map_take_of_afterWord? {word cs rest : List Char} (h : afterWord? word cs = some rest) :
    (cs.take word.length).map Text.foldLetter = word := by
  induction word generalizing cs with
  | nil => rfl
  | cons w word ih =>
    cases cs with
    | nil => cases h
    | cons c cs =>
      rw [afterWord?] at h
      split_ifs at h with hc
      rw [List.length_cons, List.take_succ_cons, List.map_cons, hc, ih h]

theorem exists_of_cutWord? {words : List String} {cs name rest : List Char}
    (h : cutWord? words cs = some (name, rest)) :
    ∃ word ∈ words, name.map Text.foldLetter = word.toList := by
  obtain ⟨word, hword, hcut⟩ := List.exists_of_findSome?_eq_some h
  obtain ⟨more, hmore, hpair⟩ := Option.map_eq_some_iff.1 hcut
  obtain ⟨rfl, rfl⟩ := Prod.mk.inj hpair
  exact ⟨word, hword, map_take_of_afterWord? hmore⟩

/-- A spelling of a word of which no other word is a beginning is cut off as a whole. -/
theorem cutWord?_of_map {words : List String} {word : String} (hword : word ∈ words)
    (hwords : ∀ other ∈ words, other.toList <+: word.toList → other = word) {name : List Char}
    (h : name.map Text.foldLetter = word.toList) : cutWord? words name = some (name, []) := by
  obtain ⟨⟨first, rest⟩, hcut⟩ := exists_cutWord? hword h
  obtain ⟨other, hother, hmap⟩ := exists_of_cutWord? hcut
  obtain rfl := cutWord?_eq_some hcut
  rw [List.map_append, hmap] at h
  obtain rfl := hwords other hother ⟨_, h⟩
  have hnil : rest.map Text.foldLetter = [] :=
    List.append_cancel_left (h.trans (List.append_nil _).symm)
  rw [hcut, List.map_eq_nil_iff.1 hnil, List.append_nil]

theorem isLower_lt {letter : Char} (h : letter.isLower = true) : letter.toNat < 0x80 := by
  have hz : letter.val ≤ 'z'.val := (of_decide_eq_true (Bool.and_eq_true_iff.1 h).2)
  exact Nat.lt_of_le_of_lt (UInt32.le_iff_toNat_le.1 hz) (by decide)

/-- The characters that match a letter of a name: its two cases, and a few letters beyond them. -/
theorem foldLetter_eq_iff {c letter : Char} (h : letter.isLower = true) :
    Text.foldLetter c = letter ↔ c = letter ∨ c = letter.toUpper ∨
      letter = 'i' ∧ (c = 'İ' ∨ c = 'ı') ∨ letter = 's' ∧ c = 'ſ' ∨
        letter = 'k' ∧ c = '\u212a' := by
  have hcases : Text.foldLetter letter = letter ∧ Text.foldLetter letter.toUpper = letter := by
    have hascii := isLower_lt h
    revert h
    exact Text.ascii_induction (p := fun c => c.isLower = true →
      Text.foldLetter c = c ∧ Text.foldLetter c.toUpper = c) (by decide) hascii
  constructor
  · rintro rfl
    unfold Text.foldLetter at h ⊢
    split_ifs with hi hs hk
    · exact .inr (.inr (.inl ⟨rfl, hi.imp Char.toNat_inj.1 Char.toNat_inj.1⟩))
    · exact .inr (.inr (.inr (.inl ⟨rfl, Char.toNat_inj.1 hs⟩)))
    · exact .inr (.inr (.inr (.inr ⟨rfl, Char.toNat_inj.1 hk⟩)))
    · rw [if_neg hi, if_neg hs, if_neg hk] at h
      have hcase : c = c.toLower ∨ c = c.toLower.toUpper := by
        have hc : c.toNat < 0x80 := lt_of_toLower_lt (isLower_lt h)
        revert h
        exact Text.ascii_induction
          (p := fun c => c.toLower.isLower = true → c = c.toLower ∨ c = c.toLower.toUpper)
          (by decide) hc
      exact hcase.imp_right .inl
  · rintro (rfl | rfl | ⟨rfl, rfl | rfl⟩ | ⟨rfl, rfl⟩ | ⟨rfl, rfl⟩)
    · exact hcases.1
    · exact hcases.2
    all_goals rfl

/-! ### Headers -/

/-- The rest of a line behind the name of an authorization header, its colon included. -/
def IsHeaderValue (value rest : List Char) : Prop :=
  ∃ line, value = ':' :: line ∧ (∀ c ∈ line, isLineEnd c = false) ∧
    ∀ c ∈ rest.head?, isLineEnd c = true

/-- The authorization headers of a text. -/
def headers : Kind := ⟨IsHeaderName, ':', IsHeaderValue, ':' :: headerMask⟩

theorem isLineEnd_headerMask : ∀ c ∈ headerMask, isLineEnd c = false := by
  have hall : headerMask.all (!isLineEnd ·) = true := by decide
  exact fun c hc => by simpa using List.all_eq_true.1 hall c hc

theorem takeWhile_line {line rest : List Char} (hline : ∀ c ∈ line, isLineEnd c = false)
    (hrest : ∀ c ∈ rest.head?, isLineEnd c = true) :
    (line ++ rest).takeWhile (!isLineEnd ·) = line := by
  have hnil : rest.takeWhile (!isLineEnd ·) = [] := by
    cases rest with
    | nil => rfl
    | cons c rest => exact List.takeWhile_cons_of_neg (by simp [hrest c rfl])
  rw [List.takeWhile_append_of_pos fun c hc => by simp [hline c hc], hnil, List.append_nil]

theorem isHeaderValue_takeWhile (cs : List Char) :
    IsHeaderValue (':' :: cs.takeWhile (!isLineEnd ·)) (cs.dropWhile (!isLineEnd ·)) := by
  refine ⟨_, rfl, fun c hc => by simpa using List.mem_takeWhile_imp hc, fun c hc => ?_⟩
  have hstop := List.head?_dropWhile_not (!isLineEnd ·) cs
  rw [Option.mem_def.1 hc] at hstop
  simpa using hstop

theorem lawful_headers : headers.Lawful where
  name_ne_nil h := h.ne_nil
  sign_not_mem h := h.not_mem (by decide)
  head_value := fun ⟨line, hvalue, _⟩ => ⟨line, hvalue⟩
  value_unique := by
    rintro _ rest _ rest' ⟨line, rfl, hline, hrest⟩ ⟨line', rfl, hline', hrest'⟩ heq
    have hsame : line ++ rest = line' ++ rest' := (List.cons.inj heq).2
    rw [← takeWhile_line hline hrest, hsame, takeWhile_line hline' hrest']
  mask_value := by
    rintro _ rest out ⟨line, rfl, -, hrest⟩ hhead
    exact ⟨headerMask, rfl, isLineEnd_headerMask, hhead ▸ hrest⟩
  mask_eq := ⟨" [CREDENTIALS-REDACTED".toList, ']', rfl, by decide, by decide,
    fun _ h => h.not_mem (by decide)⟩

theorem keepsValues_headers : headers.KeepsValues := by
  rintro afterWord cs _ rest hwrites ⟨line, rfl, -, -⟩
  obtain ⟨cs, rfl, -⟩ := hwrites.of_cons lawful_headers fun _ h => h.not_mem (by decide)
  refine ⟨_, _, ?_, isHeaderValue_takeWhile cs⟩
  rw [List.cons_append, List.takeWhile_append_dropWhile]

theorem foundBy_headers : headers.FoundBy findHeader where
  sound := by
    intro cs found hfound
    obtain ⟨⟨cut, rest⟩, hcut, rfl⟩ := Option.map_eq_some_iff.1 hfound
    obtain ⟨word, hword, hmap⟩ := exists_of_cutWord? hcut
    obtain ⟨letters, -, hcolon⟩ := headerNames_colon word hword
    rw [hcolon] at hmap
    obtain ⟨name, colon, rfl, hname, hsign⟩ := List.map_eq_append_iff.1 hmap
    obtain ⟨c, rfl, hc⟩ := List.map_eq_singleton_iff.1 hsign
    obtain rfl := Text.eq_colon_of_foldLetter hc
    refine ⟨name, _, _, ?_, ⟨word, hword, ?_⟩, isHeaderValue_takeWhile rest, ?_⟩
    · rw [← cutWord?_eq_some hcut]
      simp
    · rw [hcolon, hmap]
    · simp [headers, Nat.add_assoc, Nat.add_comm]
  complete := by
    rintro _ ⟨name, _, rest, rfl, hname, line, rfl, -, -⟩ hnone
    obtain ⟨cut, hcut⟩ := IsHeaderName.cutWord? hname
    have hcolon : ':' ∈ name ++ [':'] := List.mem_concat_self
    have happend := cutWord?_append_of_colon hcolon (line ++ rest)
    rw [hcut] at happend
    rw [findHeader, Option.map_eq_none_iff] at hnone
    have heq : name ++ ':' :: line ++ rest = name ++ [':'] ++ (line ++ rest) := by simp
    rw [heq, happend] at hnone
    cases hnone
  after := by
    rintro value rest ⟨line, -, -, hrest⟩ afterWord
    cases rest with
    | nil => rfl
    | cons c rest =>
      have hline := maskAll_append_line (hrest c rfl) (Nat.zero_le [].length)
      exact (hline _ rest).trans (hline false rest).symm

/-! ### Parameters -/

/-- A quoted value behind the name of a digest parameter, the sign before it included. -/
def IsParameterValue (value : List Char) : Prop :=
  ∃ content, value = '=' :: '"' :: (content ++ ['"']) ∧ '"' ∉ content

/-- The quoted digest parameters of a text. -/
def parameters : Kind :=
  ⟨IsParameterName, '=', fun value _ => IsParameterValue value, parameterMask⟩

theorem lawful_parameters : parameters.Lawful where
  name_ne_nil h := h.ne_nil
  sign_not_mem h := h.not_mem (by decide)
  head_value := fun ⟨_, hvalue, _⟩ => ⟨_, hvalue⟩
  value_unique := by
    rintro _ rest _ rest' ⟨content, rfl, hcontent⟩ ⟨content', rfl, hcontent'⟩ heq
    simp only [List.cons_append, List.append_assoc, List.cons.injEq, true_and, List.nil_append]
      at heq
    rw [(Text.append_separator_inj hcontent hcontent' heq).1]
  mask_value := fun _ _ => ⟨"[REDACTED]".toList, rfl, by decide⟩
  mask_eq := ⟨"\"[REDACTED]".toList, '"', rfl, by decide, by decide,
    fun _ h => h.not_mem (by decide)⟩

/-- A quote is written for every credential, and so comes from a quote. -/
theorem quote_mem_of_writes {afterWord : Bool} {cs out : List Char}
    (h : parameters.Writes afterWord cs out) (hout : '"' ∈ out) : '"' ∈ cs := by
  induction h with
  | nil => exact hout
  | keep _ _ ih =>
    obtain rfl | hout := List.mem_cons.1 hout
    · exact List.mem_cons_self
    · exact List.mem_cons_of_mem _ (ih hout)
  | mask _ hvalue _ _ =>
    obtain ⟨content, rfl, -⟩ := hvalue
    simp

theorem keepsValues_parameters : parameters.KeepsValues := by
  rintro afterWord cs _ rest hwrites ⟨content, rfl, -⟩
  obtain ⟨cs, rfl, hquote⟩ := hwrites.of_cons lawful_parameters fun _ h => h.not_mem (by decide)
  obtain ⟨cs, rfl, hvalue⟩ := hquote.of_cons lawful_parameters fun _ h => h.not_mem (by decide)
  obtain ⟨content', rest', rfl, hcontent'⟩ :=
    List.eq_append_cons_of_mem (quote_mem_of_writes hvalue (by simp))
  exact ⟨_, rest', by simp, content', rfl, hcontent'⟩

theorem foundBy_parameters : parameters.FoundBy findParameter where
  sound := by
    intro cs found hfound
    unfold findParameter at hfound
    split at hfound
    · rename_i name rest hcut
      dsimp only at hfound
      split_ifs at hfound with hclosed
      obtain rfl := Option.some.inj hfound
      -- the value ends at the first quote, since there is one
      have hquote : '"' ∈ rest := by
        by_contra hmem
        have hall : rest.takeWhile (· != '"') = rest :=
          List.takeWhile_eq_self_iff.2 fun c hc => bne_iff_ne.2 fun heq => hmem (heq ▸ hc)
        rw [hall] at hclosed
        exact lt_irrefl _ hclosed
      obtain ⟨content, more, rfl, hcontent⟩ := List.eq_append_cons_of_mem hquote
      have htake : (content ++ '"' :: more).takeWhile (· != '"') = content := by
        rw [Text.takeWhile_append_stop (by simp)]
        exact List.takeWhile_eq_self_iff.2 fun c hc => bne_iff_ne.2 fun heq => hcontent (heq ▸ hc)
      refine ⟨name, _, more, ?_, exists_of_cutWord? hcut, ⟨content, rfl, hcontent⟩, ?_⟩
      · rw [← cutWord?_eq_some hcut]
        simp
      · rw [htake]
        simp [parameters]
        omega
    · cases hfound
  complete := by
    rintro _ ⟨name, _, rest, rfl, ⟨word, hword, hmap⟩, content, rfl, -⟩ hnone
    have hwords : ∀ word ∈ parameterNames, ∀ other ∈ parameterNames,
        other.toList <+: word.toList → other = word := by decide
    have hsign : ∀ word ∈ parameterNames, Text.foldLetter '=' ∉ word.toList := by decide
    have hcut : cutWord? parameterNames (name ++ '=' :: '"' :: (content ++ '"' :: rest)) =
        some (name, '=' :: '"' :: (content ++ '"' :: rest)) := by
      rw [cutWord?_append fun word hword => afterWord?_append_cons (hsign word hword) _ _,
        cutWord?_of_map hword (hwords word hword) hmap]
      rfl
    have hclosed : ((content ++ '"' :: rest).takeWhile (· != '"')).length <
        (content ++ '"' :: rest).length := by
      rw [Text.takeWhile_append_stop (by simp), List.length_append, List.length_cons]
      have := (List.takeWhile_prefix (l := content) (· != '"')).length_le
      omega
    have heq : name ++ '=' :: '"' :: (content ++ ['"']) ++ rest =
        name ++ '=' :: '"' :: (content ++ '"' :: rest) := by simp
    rw [heq, findParameter, hcut] at hnone
    simp only [if_pos hclosed, reduceCtorEq] at hnone
  after := by
    rintro _ rest ⟨content, rfl, -⟩ afterWord
    rw [← List.cons_append, ← List.cons_append, endsInWord_concat]
    rfl

/-! ### Both kinds together -/

/-- No value of a credential shows in a text: behind every name of an authorization header that no
word character precedes, the rest of the line is the mask, and so is the content of the quotes
behind every such name of a digest parameter and an equals sign. -/
structure IsMasked (text : List Char) : Prop where
  header : ∀ before name line rest, text = before ++ (name ++ [':']) ++ line ++ rest →
    (∀ c ∈ before.getLast?, Text.isWord c = false) → IsHeaderName name →
    (∀ c ∈ line, isLineEnd c = false) → (∀ c ∈ rest.head?, isLineEnd c = true) →
    line = " [CREDENTIALS-REDACTED]".toList
  parameter : ∀ before name content rest,
    text = before ++ (name ++ ['=', '"']) ++ content ++ '"' :: rest →
    (∀ c ∈ before.getLast?, Text.isWord c = false) → IsParameterName name → '"' ∉ content →
    content = "[REDACTED]".toList

theorem isMasked_iff {text : List Char} :
    IsMasked text ↔ headers.IsMaskedFrom false text ∧ parameters.IsMaskedFrom false text := by
  constructor
  · refine fun h => ⟨?_, ?_⟩
    · rintro before _ rfl hword name _ rest rfl hname ⟨line, rfl, hline, hrest⟩
      rw [h.header before name line rest (by simp) (endsInWord_false_iff.1 hword) hname hline hrest]
      rfl
    · rintro before _ rfl hword name _ rest rfl hname ⟨content, rfl, hcontent⟩
      rw [h.parameter before name content rest (by simp) (endsInWord_false_iff.1 hword) hname
        hcontent]
      rfl
  · rintro ⟨hheaders, hparameters⟩
    refine ⟨fun before name line rest heq hword hname hline hrest => ?_,
      fun before name content rest heq hword hname hcontent => ?_⟩
    · have hmask := hheaders before (name ++ ':' :: line ++ rest) (heq.trans (by simp))
        (endsInWord_eq_false hword) name _ rest (by simp) hname ⟨line, rfl, hline, hrest⟩
      exact (List.cons.inj hmask).2
    · have hmask := hparameters before (name ++ '=' :: '"' :: (content ++ ['"']) ++ rest)
        (heq.trans (by simp)) (endsInWord_eq_false hword) name _ rest (by simp) hname
        ⟨content, rfl, hcontent⟩
      have hquoted : content ++ ['"'] = "[REDACTED]".toList ++ ['"'] :=
        (List.cons.inj (List.cons.inj hmask).2).2
      exact List.append_cancel_right hquoted

theorem not_begins_header {name : List Char} (hname : IsHeaderName name) {tail : List Char}
    (htail : tail <:+ name ++ headers.mask) (hne : tail ≠ []) (rest : List Char) :
    ¬ parameters.Begins (tail ++ rest) := by
  have hmask : name ++ headers.mask = name ++ ": [CREDENTIALS-REDACTED".toList ++ [']'] := by
    rw [List.append_assoc]
    rfl
  have hsign : '=' ∉ name ++ headers.mask :=
    List.not_mem_append (hname.not_mem (by decide)) (by decide)
  rw [hmask] at htail hsign
  exact lawful_parameters.not_begins_suffix htail hne (fun _ h => h.not_mem (by decide)) hsign rest

theorem not_begins_parameter {name : List Char} (hname : IsParameterName name) {tail : List Char}
    (htail : tail <:+ name ++ parameters.mask) (hne : tail ≠ []) (rest : List Char) :
    ¬ headers.Begins (tail ++ rest) := by
  have hmask : name ++ parameters.mask = name ++ "=\"[REDACTED]".toList ++ ['"'] := by
    rw [List.append_assoc]
    rfl
  have hsign : ':' ∉ name ++ parameters.mask :=
    List.not_mem_append (hname.not_mem (by decide)) (by decide)
  rw [hmask] at htail hsign
  exact lawful_headers.not_begins_suffix htail hne (fun _ h => h.not_mem (by decide)) hsign rest

/-- Behind a header that the masking of parameters has written there is the mask, if no value of a
header showed in the text before. -/
theorem exists_mask_of_writes {afterWord : Bool} {cs name out : List Char}
    (hname : IsHeaderName name) (h : parameters.Writes afterWord cs (name ++ ':' :: out))
    (hmasked : headers.IsMaskedAt cs) :
    ∃ more, ':' :: out = headers.mask ++ more ∧ IsHeaderValue headers.mask more := by
  have hsign : '=' ∉ name ++ [':'] := List.not_mem_append (hname.not_mem (by decide)) (by decide)
  have hwritten : parameters.Writes afterWord cs (name ++ [':'] ++ out) := by
    rwa [List.append_assoc]
  obtain ⟨shown, hshown, -⟩ := hwritten.of_append lawful_parameters hsign
  -- the header stood in the text before, where its line was the mask
  have hheader : cs = name ++ (':' :: shown.takeWhile (!isLineEnd ·)) ++
      shown.dropWhile (!isLineEnd ·) := by
    rw [hshown, List.append_assoc, List.append_assoc, List.cons_append, List.cons_append,
      List.takeWhile_append_dropWhile, List.nil_append]
  have hline := isHeaderValue_takeWhile shown
  have hmask : ':' :: shown.takeWhile (!isLineEnd ·) = headers.mask :=
    hmasked name _ _ hheader hname hline
  rw [hmask] at hheader hline
  rw [hheader] at h
  obtain ⟨afterWord', more, hout, hmore⟩ := h.of_clear fun tail htail hne =>
    not_begins_header hname htail hne _
  rw [List.append_assoc] at hout
  exact ⟨more, List.append_cancel_left hout,
    lawful_headers.mask_value hline (hmore.head? lawful_parameters)⟩

/-- **The masking of parameters shows no value of a header**: a header that stands in what it has
written stood in the text before, and its mask holds no parameter. -/
theorem isMaskedFrom_headers {afterWord : Bool} {cs out : List Char}
    (h : parameters.Writes afterWord cs out) (hmasked : headers.IsMaskedFrom afterWord cs) :
    headers.IsMaskedFrom afterWord out := by
  induction h with
  | nil => exact hmasked
  | @keep afterWord c cs out hbegins hrest ih =>
    refine Kind.isMaskedFrom_cons (fun hword => ?_) (ih hmasked.tail)
    intro name value rest heq hname hvalue
    obtain ⟨line, rfl, -, -⟩ := id hvalue
    have hout : c :: out = name ++ ':' :: (line ++ rest) := by
      rw [heq, List.append_assoc, List.cons_append]
    have hwritten : parameters.Writes afterWord (c :: cs) (name ++ ':' :: (line ++ rest)) :=
      hout ▸ .keep hbegins hrest
    obtain ⟨more, hmore, hmask⟩ :=
      exists_mask_of_writes hname hwritten (hmasked [] (c :: cs) rfl hword)
    exact lawful_headers.value_unique hvalue hmask hmore
  | @mask name value rest out hname hvalue hrest ih =>
    refine Kind.isMaskedFrom_append (fun before tail heq htail _ => ?_) ?_
    · exact Kind.isMaskedAt_of_not_begins
        (not_begins_parameter hname ⟨before, heq.symm⟩ htail out)
    · have hdrop := hmasked.drop
      have hword : endsInWord false (name ++ value) = false := by
        obtain ⟨content, rfl, -⟩ := hvalue
        rw [← List.cons_append, ← List.cons_append, ← List.append_assoc, endsInWord_concat]
        rfl
      rw [hword] at hdrop
      rw [lawful_parameters.endsInWord_mask]
      exact ih hdrop

/-! ### Masked texts -/

theorem isMasked_redactChars (cs : List Char) : IsMasked (redactChars cs) := by
  have hheaders : headers.IsMaskedFrom false (maskAll findHeader 0 false cs) :=
    (Kind.writes_maskAll lawful_headers foundBy_headers cs false).isMaskedFrom lawful_headers
      keepsValues_headers
  have hparameters := Kind.writes_maskAll lawful_parameters foundBy_parameters
    (maskAll findHeader 0 false cs) false
  exact isMasked_iff.2 ⟨isMaskedFrom_headers hparameters hheaders,
    hparameters.isMaskedFrom lawful_parameters keepsValues_parameters⟩

theorem redactChars_eq_self {cs : List Char} (h : IsMasked cs) : redactChars cs = cs := by
  obtain ⟨hheaders, hparameters⟩ := isMasked_iff.1 h
  rw [redactChars,
    (Kind.writes_maskAll lawful_headers foundBy_headers cs false).eq_self lawful_headers hheaders]
  exact (Kind.writes_maskAll lawful_parameters foundBy_parameters cs false).eq_self
    lawful_parameters hparameters

theorem isMasked_redact (text : String) : IsMasked (redact text).toList := by
  rw [redact, String.toList_ofList]
  exact isMasked_redactChars text.toList

theorem redact_eq_self_iff {text : String} : redact text = text ↔ IsMasked text.toList := by
  refine ⟨fun h => h ▸ isMasked_redact text, fun h => ?_⟩
  rw [redact, redactChars_eq_self h, String.ofList_toList]

/-- **Redaction is complete**: no value of a credential shows in what masking makes of a text,
however its name is spelled, and the texts in which none shows are those that masking leaves as they
are.  So masking does nothing more to what it has masked.  A log with redaction writes what it would
write without it, masked. -/
theorem redact_complete :
    (∀ text, IsMasked (redact text).toList ∧ redact (redact text) = redact text) ∧
      (∀ text, redact text = text ↔ IsMasked text.toList) ∧
      (∀ (f : LogFormat) (e : RawEntry),
        LogFormat.write { f with redact := true } e =
          (LogFormat.write { f with redact := false } e).map redact) ∧
      ∀ c letter : Char, letter.isLower = true → (Text.foldLetter c = letter ↔
        c = letter ∨ c = letter.toUpper ∨ letter = 'i' ∧ (c = 'İ' ∨ c = 'ı') ∨
          letter = 's' ∧ c = 'ſ' ∨ letter = 'k' ∧ c = '\u212a') := by
  refine ⟨fun text => ⟨isMasked_redact text, redact_eq_self_iff.2 (isMasked_redact text)⟩,
    fun text => redact_eq_self_iff, fun f e => ?_, fun c letter h => foldLetter_eq_iff h⟩
  unfold LogFormat.write
  cases Template.fill e.text e.values with
  | error fault => rfl
  | ok message =>
    dsimp only [bind, Except.bind]
    cases Template.fillNamed f.template (LogFormat.fields e message) <;> rfl

end SipBench.Redaction
