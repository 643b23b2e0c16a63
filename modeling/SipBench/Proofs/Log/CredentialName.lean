import SipBench.Proofs.Log.Redaction
import SipBench.Proofs.Message.HeaderName

/-!
# The names of credentials

Two of the canonical names are those of headers with credentials.  Whatever spelling of such a name
a header has in a message, it is one that the masking of credentials knows once the white space
around it is gone: no character beyond ASCII is mapped to the letters of the names, and no compact
form stands for them.

* `credentialNames` : the canonical names
* `isHeaderName_trim` : the spellings that lead to them
* `canonicalName_of_words` : white space around a name makes no difference
-/

namespace SipBench

/-- The canonical names of the headers with credentials. -/
def credentialNames : List String := ["Authorization", "Proxy-Authorization"]

/-- The same names in lower case. -/
def lowerNames : List (List Char) := credentialNames.map (·.toList.map Char.toLower)

/-- The characters of the canonical names. -/
def nameLetters : List Char := "Proxy-Authorization".toList

/-- The same characters in both letter cases. -/
def caseLetters : List Char := nameLetters.map Char.toLower ++ nameLetters.map Char.toUpper

theorem subset_nameLetters : ∀ name ∈ credentialNames, name.toList ⊆ nameLetters := by
  decide

set_option maxRecDepth 4000 in
theorem isApart_nameLetters : Text.IsApart nameLetters where
  ascii := by decide
  lower := by constructor <;> decide
  upper := by constructor <;> decide
  title := by constructor <;> decide

set_option maxRecDepth 4000 in
theorem isApartLower_caseLetters : Text.IsApartLower caseLetters where
  ascii := by decide
  lower := by constructor <;> decide

set_option maxRecDepth 4000 in
theorem mem_caseLetters {c : Char} (hc : c.toNat < 0x80)
    (h : c.toLower ∈ nameLetters.map Char.toLower) : c ∈ caseLetters :=
  Text.ascii_induction
    (p := fun c => c.toLower ∈ nameLetters.map Char.toLower → c ∈ caseLetters) (by decide) hc h

namespace Text

/-! ### White space and letter case -/

theorem wordRanges_apart :
    ∀ r ∈ wordRanges.toList, ∀ b ∈ blankRanges, r.2 < b.1 ∨ b.2 < r.1 := by
  decide +kernel

theorem isWord_of_isBlank {c : Char} (h : isBlank c = true) : isWord c = false := by
  simp only [isWord]
  split_ifs with hc
  · revert h
    exact ascii_induction (p := fun c => isBlank c = true → (c.isAlphanum || c == '_') = false)
      (by decide) hc
  · rw [← Array.any_toList, List.any_eq_false]
    intro r hr
    obtain ⟨b, hb, hlow, hhigh⟩ := exists_blankRange (Nat.not_lt.1 hc) h
    have hapart := wordRanges_apart r hr b hb
    simp only [Bool.and_eq_true, decide_eq_true_eq]
    omega

theorem foldLetter_of_ascii {c : Char} (h : c.toNat < 0x80) : foldLetter c = c.toLower := by
  unfold foldLetter
  split_ifs
  all_goals first | rfl | omega

theorem foldLetter_of_isBlank {c : Char} (h : isBlank c = true) : foldLetter c = c := by
  have hlower : c.toLower = c := by
    by_cases hc : c.toNat < 0x80
    · revert h
      exact ascii_induction (p := fun c => isBlank c = true → c.toLower = c) (by decide) hc
    · exact toLower_eq_self (Nat.not_lt.1 hc)
  simp only [isBlank, Bool.or_eq_true, Bool.and_eq_true, decide_eq_true_eq, beq_iff_eq] at h
  unfold foldLetter
  split_ifs
  all_goals first | exact hlower | omega

theorem eq_colon_of_foldLetter {c : Char} (h : foldLetter c = ':') : c = ':' := by
  unfold foldLetter at h
  split_ifs at h
  all_goals first | exact absurd h (by decide) | skip
  have hc : c.toNat < 0x80 := lt_of_toLower_lt (by rw [h]; decide)
  revert h
  exact ascii_induction (p := fun c => c.toLower = ':' → c = ':') (by decide) hc

end Text

/-! ### Names with no other letters -/

/-- A long name that is spelt like a credential is that name when letter case does not count. -/
theorem map_toLower_of_spelling {long : String}
    (h : (specialSpellings.lookup long).getD (capitalizeParts long) ∈ credentialNames) :
    Text.IsAscii long.toList ∧ long.toList.map Char.toLower ∈ lowerNames := by
  cases hlookup : specialSpellings.lookup long with
  | some found =>
    have hentries : ∀ entry ∈ specialSpellings, entry.2 ∉ credentialNames := by decide
    rw [hlookup] at h
    exact absurd h (hentries _ (Text.mem_of_lookup hlookup))
  | none =>
    rw [hlookup, Option.getD_none] at h
    have hascii := isAscii_of_capitalizeParts isApart_nameLetters (subset_nameLetters _ h)
    refine ⟨hascii, ?_⟩
    rw [← map_toLower_capitalizeParts hascii]
    exact List.mem_map_of_mem h

/-- No compact form stands for the name of a credential. -/
theorem longName_eq_self {name : String}
    (h : (longName name).toList.map Char.toLower ∈ lowerNames) : longName name = name := by
  unfold longName at h ⊢
  cases hlookup : compactForms.lookup name with
  | none => rfl
  | some found =>
    have hentries : ∀ entry ∈ compactForms, entry.2.toList.map Char.toLower ∉ lowerNames := by
      decide
    rw [hlookup] at h
    exact absurd h (hentries _ (Text.mem_of_lookup hlookup))

/-- **The name of a credential is known to the masking**, in every spelling that is stored under
its canonical name. -/
theorem isHeaderName_trim {name : List Char}
    (h : canonicalName (String.ofList name) ∈ credentialNames) :
    Redaction.IsHeaderName (Text.trim name) := by
  rw [canonicalName_eq] at h
  obtain ⟨hlong, hmap⟩ := map_toLower_of_spelling h
  rw [longName_eq_self hmap, Text.lowered, Text.trimmed, String.toList_ofList, String.toList_ofList,
    String.toList_ofList] at hlong hmap
  have hletters : ∀ d ∈ Text.lower (Text.trim name), d ∈ caseLetters := by
    intro d hd
    refine mem_caseLetters (hlong d hd) ?_
    obtain ⟨credential, hcredential, heq⟩ := List.mem_map.1 hmap
    obtain ⟨c, hc, hdc⟩ := List.mem_map.1 (heq ▸ List.mem_map_of_mem hd)
    rw [← hdc]
    exact List.mem_map_of_mem (subset_nameLetters _ hcredential hc)
  have hascii : Text.IsAscii (Text.trim name) := isApartLower_caseLetters.lowerAfter hletters
  have hlower : (Text.trim name).map Text.foldLetter = (Text.trim name).map Char.toLower :=
    List.map_congr_left fun c hc => Text.foldLetter_of_ascii (hascii c hc)
  have hfold : (Text.lower (Text.trim name)).map Char.toLower =
      (Text.trim name).map Text.foldLetter := by
    rw [Text.lower_of_ascii hascii, hlower, List.map_map]
    exact List.map_congr_left fun c hc => Text.toLower_toLower (hascii c hc)
  rw [hfold] at hmap
  have hwords : ∀ letters ∈ lowerNames,
      ∃ word ∈ Redaction.headerNames, letters ++ [':'] = word.toList := by decide
  obtain ⟨word, hword, heq⟩ := hwords _ hmap
  refine ⟨word, hword, ?_⟩
  rw [List.map_append, ← heq]
  rfl

theorem Redaction.IsHeaderName.isBlank {name : List Char} (h : Redaction.IsHeaderName name) :
    ∀ c ∈ name, Text.isBlank c = false := by
  obtain ⟨word, hword, hmap⟩ := h
  have hclear : ∀ word ∈ Redaction.headerNames, word.toList.any Text.isBlank = false := by decide
  intro c hc
  by_contra hblank
  rw [Bool.not_eq_false] at hblank
  have hmem : Text.foldLetter c ∈ word.toList :=
    hmap ▸ List.mem_map_of_mem (List.mem_append_left _ hc)
  rw [Text.foldLetter_of_isBlank hblank] at hmem
  exact Bool.false_ne_true
    ((hclear word hword).symm.trans (List.any_eq_true.2 ⟨c, hmem, hblank⟩))

/-- White space around the name of a credential, folded or not, makes no difference. -/
theorem canonicalName_of_words {name written : List Char}
    (hwords : Text.words written = Text.words name)
    (h : canonicalName (String.ofList name) ∈ credentialNames) :
    canonicalName (String.ofList written) = canonicalName (String.ofList name) := by
  have htrim := Text.trim_eq_of_words hwords (isHeaderName_trim h).isBlank
  rw [canonicalName_eq, canonicalName_eq, Text.trimmed, Text.trimmed, String.toList_ofList,
    String.toList_ofList, htrim]

end SipBench
