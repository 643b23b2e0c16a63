import SipBench.Proofs.Text.Blank

/-!
# Words and lines

* `IsWord` : a text without white space
* `IsOneLine` : a text in which no line ends
* `words_eq_pair_iff` : the texts of two words
* `isOneLine_intercalate` : pieces that are put together on one line
-/

namespace SipBench

/-- A text in which no line ends, in either style. -/
def IsOneLine (cs : List Char) : Prop := ∀ c ∈ cs, c ≠ '\r' ∧ c ≠ '\n'

/-- A text with something in it and no white space. -/
structure IsWord (cs : List Char) : Prop where
  ne_nil : cs ≠ []
  clear : ∀ c ∈ cs, Text.isBlank c = false

theorem isOneLine_iff {cs : List Char} :
    IsOneLine cs ↔ cs.all (fun c => c != '\r' && c != '\n') = true := by
  simp [IsOneLine]

theorem isWord_iff {cs : List Char} :
    IsWord cs ↔ cs ≠ [] ∧ cs.all (!Text.isBlank ·) = true := by
  simp only [List.all_eq_true, Bool.not_eq_true']
  exact ⟨fun h => ⟨h.ne_nil, h.clear⟩, fun ⟨hne, hclear⟩ => ⟨hne, hclear⟩⟩

instance (cs : List Char) : Decidable (IsOneLine cs) := decidable_of_iff' _ isOneLine_iff

instance (cs : List Char) : Decidable (IsWord cs) := decidable_of_iff' _ isWord_iff

theorem isOneLine_of_isBlank {cs : List Char} (h : ∀ c ∈ cs, Text.isBlank c = false) :
    IsOneLine cs := by
  refine fun c hc => ⟨?_, ?_⟩ <;> rintro rfl <;> exact absurd (h _ hc) (by decide)

variable {cs ds : List Char} {c : Char}

/-! ### Texts of words -/

theorem IsWord.head (h : IsWord cs) : ∃ c ∈ cs.head?, Text.isBlank c = false := by
  obtain ⟨c, rest, rfl⟩ := List.exists_cons_of_ne_nil h.ne_nil
  exact ⟨c, rfl, h.clear c List.mem_cons_self⟩

theorem IsWord.last (h : IsWord cs) : ∃ c ∈ cs.getLast?, Text.isBlank c = false := by
  obtain ⟨c, hc⟩ := Option.ne_none_iff_exists'.1 (mt List.getLast?_eq_none_iff.1 h.ne_nil)
  exact ⟨c, hc, h.clear c (List.mem_of_getLast? hc)⟩

theorem IsWord.trimBy (h : IsWord cs) {p : Char → Bool} (hp : ∀ c, p c = true → Text.isBlank c) :
    Text.trimBy p cs = cs := by
  refine Text.trimBy_of_forall fun c hc => ?_
  cases hpc : p c with
  | false => rfl
  | true => exact absurd (hp c hpc) (by simp [h.clear c hc])

/-- The first word of a text ends at the first white space behind it. -/
theorem words_eq_cons_iff {word : List Char} {rest : List (List Char)} :
    Text.words cs = word :: rest ↔ ∃ before after, cs = before ++ (word ++ after) ∧
      (∀ c ∈ before, Text.isBlank c = true) ∧ IsWord word ∧
      (∀ c ∈ after.head?, Text.isBlank c = true) ∧ Text.words after = rest := by
  constructor
  · intro h
    cases hdrop : cs.dropWhile Text.isBlank with
    | nil =>
      rw [Text.words_of_dropWhile_eq_nil hdrop] at h
      cases h
    | cons c tail =>
      rw [Text.words_of_dropWhile_eq_cons hdrop] at h
      obtain ⟨rfl, rfl⟩ := List.cons.inj h
      have hc : Text.isBlank c = false := by
        simpa [hdrop] using List.head?_dropWhile_not Text.isBlank cs
      refine ⟨cs.takeWhile Text.isBlank, tail.dropWhile (!Text.isBlank ·), ?_,
        fun d hd => List.mem_takeWhile_imp hd, ⟨by simp, ?_⟩, fun d hd => ?_, rfl⟩
      · rw [List.cons_append, List.takeWhile_append_dropWhile, ← hdrop,
          List.takeWhile_append_dropWhile]
      · refine List.forall_mem_cons.2 ⟨hc, fun d hd => ?_⟩
        simpa using List.mem_takeWhile_imp hd
      · have hstop := List.head?_dropWhile_not (!Text.isBlank ·) tail
        rw [Option.mem_def.1 hd] at hstop
        simpa using hstop
  · rintro ⟨before, after, rfl, hbefore, hword, hafter, rfl⟩
    rw [Text.words_append_of_blank hbefore, Text.words_append hafter,
      Text.words_eq_singleton hword.ne_nil hword.clear]
    rfl

/-- Two words with white space between them, and perhaps around them. -/
def IsPairOf (first second cs : List Char) : Prop :=
  IsWord first ∧ IsWord second ∧ ∃ before between after,
    cs = before ++ (first ++ (between ++ (second ++ after))) ∧ between ≠ [] ∧
      ∀ c ∈ before ++ (between ++ after), Text.isBlank c = true

theorem words_eq_pair_iff {first second : List Char} :
    Text.words cs = [first, second] ↔ IsPairOf first second cs := by
  constructor
  · intro h
    obtain ⟨before, rest, rfl, hbefore, hfirst, hrest, hwords⟩ := words_eq_cons_iff.1 h
    obtain ⟨between, after, rfl, hbetween, hsecond, -, hafter⟩ := words_eq_cons_iff.1 hwords
    refine ⟨hfirst, hsecond, before, between, after, rfl, ?_, List.forall_mem_append.2
      ⟨hbefore, List.forall_mem_append.2 ⟨hbetween, Text.words_eq_nil_iff.1 hafter⟩⟩⟩
    -- without white space between them, the second word would belong to the first
    rintro rfl
    obtain ⟨c, hc, hclear⟩ := hsecond.head
    have hblank := hrest c (by rw [List.nil_append, List.head?_append, Option.mem_def.1 hc]; rfl)
    rw [hclear] at hblank
    cases hblank
  · rintro ⟨hfirst, hsecond, before, between, after, rfl, hne, hblank⟩
    obtain ⟨hbefore, hblank⟩ := List.forall_mem_append.1 hblank
    obtain ⟨hbetween, hafter⟩ := List.forall_mem_append.1 hblank
    rw [Text.words_append_of_blank hbefore, Text.words_append_blanks hne hbetween,
      Text.words_append fun c hc => hafter c (List.mem_of_mem_head? hc),
      Text.words_eq_nil_iff.2 hafter, Text.words_eq_singleton hfirst.ne_nil hfirst.clear,
      Text.words_eq_singleton hsecond.ne_nil hsecond.clear]
    rfl

/-! ### Parts of a line -/

@[simp]
theorem isOneLine_nil : IsOneLine [] := nofun

@[simp]
theorem isOneLine_cons : IsOneLine (c :: cs) ↔ (c ≠ '\r' ∧ c ≠ '\n') ∧ IsOneLine cs :=
  List.forall_mem_cons

@[simp]
theorem isOneLine_append : IsOneLine (cs ++ ds) ↔ IsOneLine cs ∧ IsOneLine ds :=
  List.forall_mem_append

theorem IsOneLine.append (hcs : IsOneLine cs) (hds : IsOneLine ds) : IsOneLine (cs ++ ds) :=
  isOneLine_append.2 ⟨hcs, hds⟩

theorem IsOneLine.cons (hc : c ≠ '\r' ∧ c ≠ '\n') (hcs : IsOneLine cs) : IsOneLine (c :: cs) :=
  isOneLine_cons.2 ⟨hc, hcs⟩

theorem IsOneLine.subset (hds : IsOneLine ds) (h : cs ⊆ ds) : IsOneLine cs :=
  fun c hc => hds c (h hc)

/-- What is true of the characters of a separator is true of all characters between two pieces. -/
theorem forall_mem_intercalate {P : Char → Prop} {separator : List Char}
    (hseparator : ∀ c ∈ separator, P c) (pieces : List (List Char)) :
    (∀ c ∈ separator.intercalate pieces, P c) ↔ ∀ piece ∈ pieces, ∀ c ∈ piece, P c := by
  induction pieces with
  | nil => simp
  | cons piece pieces ih =>
    cases pieces with
    | nil => simp
    | cons next pieces =>
      rw [List.intercalate_cons_cons, List.forall_mem_append, List.forall_mem_append, ih,
        and_iff_left hseparator]
      exact (List.forall_mem_cons (p := fun piece => ∀ c ∈ piece, P c)).symm

/-- Pieces that are put together are one line exactly if each of them is. -/
theorem isOneLine_intercalate {separator : List Char} (h : IsOneLine separator)
    (pieces : List (List Char)) :
    IsOneLine (separator.intercalate pieces) ↔ ∀ piece ∈ pieces, IsOneLine piece :=
  forall_mem_intercalate h pieces

end SipBench
