import SipBench.Message.HeaderName
import SipBench.Proofs.Text.Blank
import SipBench.Proofs.Text.Case

/-!
# Canonical header names

A canonical name can be written in front of a colon and is found there again, and an ASCII name that
is canonical already stays as it is.  Whatever a name is made of, it stands for the length of the
body if its canonical form does.

* `IsHeaderName` : a name that does not disturb the line that it is written on
* `isHeaderName_canonicalName` : canonical names are of this kind
* `canonicalName_canonicalName` : the canonical name of an ASCII name is canonical
* `canonicalName_eq_contentLength_iff` : the names that stand for the length of the body
-/

namespace SipBench

/-- A text that can stand before the colon of a header line: it neither ends the name or the line
nor makes it a continuation. -/
structure IsHeaderName (cs : List Char) : Prop where
  ne_nil : cs ≠ []
  clear : ∀ c ∈ cs, c ≠ ':' ∧ c ≠ '\n'
  head : ∀ c ∈ cs.head?, c ≠ ' ' ∧ c ≠ '\t'

theorem isHeaderName_iff {cs : List Char} : IsHeaderName cs ↔
    cs ≠ [] ∧ cs.all (fun c => c != ':' && c != '\n') = true ∧
      cs.head?.all (fun c => c != ' ' && c != '\t') = true := by
  simp only [List.all_eq_true, Option.all_eq_true, Bool.and_eq_true, bne_iff_ne]
  exact ⟨fun h => ⟨h.ne_nil, h.clear, h.head⟩, fun ⟨hne, hclear, hhead⟩ => ⟨hne, hclear, hhead⟩⟩

instance (cs : List Char) : Decidable (IsHeaderName cs) := decidable_of_iff' _ isHeaderName_iff

theorem IsHeaderName.madeFrom {cs ds : List Char} (h : IsHeaderName cs) (hm : Text.MadeFrom cs ds) :
    IsHeaderName ds := by
  have hletter : ∀ d : Char, 0x41 ≤ d.toNat → d ≠ ':' ∧ d ≠ '\n' ∧ d ≠ ' ' ∧ d ≠ '\t' := by
    intro d hd
    refine ⟨?_, ?_, ?_, ?_⟩ <;> rintro rfl <;> exact absurd hd (by decide)
  refine ⟨hm.ne_nil h.ne_nil, fun d hd => ?_, fun d hd => ?_⟩
  · obtain hd | hd := hm.mem d hd
    · exact h.clear d hd
    · exact ⟨(hletter d hd).1, (hletter d hd).2.1⟩
  · obtain hd | hd := hm.head d hd
    · exact h.head d hd
    · exact (hletter d hd).2.2

theorem canonicalName_eq (name : String) :
    canonicalName name =
      (specialSpellings.lookup (longName (Text.lowered (Text.trimmed name)))).getD
        (capitalizeParts (longName (Text.lowered (Text.trimmed name)))) := by
  rw [canonicalName]

/-! ### Canonical names can be written -/

theorem respelt_intercalate {separator : List Char} {f : List Char → List Char}
    (hf : ∀ cs, Text.Respelt cs (f cs)) (pieces : List (List Char)) :
    Text.Respelt (separator.intercalate pieces) (separator.intercalate (pieces.map f)) := by
  induction pieces with
  | nil => exact .nil
  | cons piece pieces ih =>
    cases pieces with
    | nil => simpa using hf piece
    | cons next pieces =>
      rw [List.map_cons] at ih ⊢
      rw [List.map_cons, List.intercalate_cons_cons, List.intercalate_cons_cons]
      exact ((hf piece).append (.refl separator)).append ih

/-- Capitalising the parts of a name replaces characters by characters from `A` on. -/
theorem respelt_capitalizeParts (name : String) :
    Text.Respelt name.toList (capitalizeParts name).toList := by
  have h := @respelt_intercalate ['-'] _ Text.respelt_capitalize (Text.splitAt '-' name.toList)
  rw [Text.intercalate_splitAt] at h
  rwa [capitalizeParts, String.toList_ofList]

theorem toList_lowered_trimmed (name : String) :
    (Text.lowered (Text.trimmed name)).toList = Text.lower (Text.trim name.toList) := by
  rw [Text.lowered, Text.trimmed, String.toList_ofList, String.toList_ofList]

/-- What holds of all entries of a table and of the default holds of what is looked up. -/
theorem of_lookup {p : String → Prop} {table : List (String × String)}
    (h : ∀ entry ∈ table, p entry.2) {name otherwise : String} (hother : p otherwise) :
    p ((table.lookup name).getD otherwise) := by
  cases hlookup : table.lookup name with
  | none => exact hother
  | some found => exact h _ (Text.mem_of_lookup hlookup)

/-- The canonical form of a name with something in it, and without a colon or a line end, can be
written as a header name. -/
theorem isHeaderName_canonicalName {name : String} (hne : Text.trim name.toList ≠ [])
    (h : ∀ c ∈ name.toList, c ≠ ':' ∧ c ≠ '\n') : IsHeaderName (canonicalName name).toList := by
  have htrimmed : IsHeaderName (Text.trim name.toList) := by
    refine ⟨hne, fun c hc => h c (Text.mem_of_mem_trim hc), fun c hc => ?_⟩
    have hblank := Text.head?_trimBy hc
    constructor <;> rintro rfl <;> exact absurd hblank (by decide)
  have hlower : IsHeaderName (Text.lowered (Text.trimmed name)).toList := by
    rw [toList_lowered_trimmed]
    exact htrimmed.madeFrom (Text.respelt_lower _).madeFrom
  have hlong : IsHeaderName (longName (Text.lowered (Text.trimmed name))).toList :=
    of_lookup (p := fun s => IsHeaderName s.toList) (by decide) hlower
  rw [canonicalName_eq]
  exact of_lookup (p := fun s => IsHeaderName s.toList) (by decide)
    (hlong.madeFrom (respelt_capitalizeParts _).madeFrom)

theorem trim_canonicalName (name : String) :
    Text.trim (canonicalName name).toList = (canonicalName name).toList := by
  have hlower : Text.trim (Text.lowered (Text.trimmed name)).toList =
      (Text.lowered (Text.trimmed name)).toList := by
    rw [toList_lowered_trimmed]
    exact (Text.respelt_lower _).trim_eq_self (Text.trim_trim _)
  have hlong : Text.trim (longName (Text.lowered (Text.trimmed name))).toList =
      (longName (Text.lowered (Text.trimmed name))).toList :=
    of_lookup (p := fun s => Text.trim s.toList = s.toList) (by decide) hlower
  rw [canonicalName_eq]
  exact of_lookup (p := fun s => Text.trim s.toList = s.toList) (by decide)
    ((respelt_capitalizeParts _).trim_eq_self hlong)

/-! ### ASCII names -/

theorem map_intercalate {α β : Type} (f : α → β) (separator : List α) (pieces : List (List α)) :
    (separator.intercalate pieces).map f =
      (separator.map f).intercalate (pieces.map (·.map f)) := by
  induction pieces with
  | nil => rfl
  | cons piece pieces ih =>
    cases pieces with
    | nil => simp
    | cons next pieces =>
      rw [List.map_cons] at ih ⊢
      rw [List.map_cons, List.intercalate_cons_cons, List.intercalate_cons_cons, List.map_append,
        List.map_append, ih]

theorem isBlank_toLower {c : Char} (h : c.toNat < 0x80) :
    Text.isBlank c.toLower = Text.isBlank c :=
  Text.ascii_induction (p := fun c => Text.isBlank c.toLower = Text.isBlank c) (by decide) h

theorem trim_map_toLower {cs : List Char} (h : Text.IsAscii cs) :
    Text.trim (cs.map Char.toLower) = cs.map Char.toLower ↔ Text.trim cs = cs :=
  Text.trimBy_map_eq_self_iff fun c hc => isBlank_toLower (h c hc)

/-- A name that stands for itself: in lower case, without white space at its ends and no compact
form. -/
structure IsLongName (name : String) : Prop where
  ascii : Text.IsAscii name.toList
  lower : name.toList.map Char.toLower = name.toList
  trimmed : Text.trim name.toList = name.toList
  long : compactForms.lookup name = none

theorem isLongName_longName {name : String} (h : Text.IsAscii name.toList) :
    IsLongName (longName (Text.lowered (Text.trimmed name))) := by
  have htrim : Text.IsAscii (Text.trim name.toList) := fun c hc => h c (Text.mem_of_mem_trim hc)
  have hlower : (Text.lowered (Text.trimmed name)).toList =
      (Text.trim name.toList).map Char.toLower := by
    rw [toList_lowered_trimmed, Text.lower_of_ascii htrim]
  rw [longName]
  cases hlookup : compactForms.lookup (Text.lowered (Text.trimmed name)) with
  | none =>
    refine ⟨?_, ?_, ?_, hlookup⟩
    · rw [Option.getD_none, hlower]
      exact fun c hc => by
        obtain ⟨d, hd, rfl⟩ := List.mem_map.1 hc
        exact Text.toLower_lt (htrim d hd)
    · rw [Option.getD_none, hlower, List.map_map]
      exact List.map_congr_left fun c hc => Text.toLower_toLower (htrim c hc)
    · rw [Option.getD_none, hlower, trim_map_toLower htrim, Text.trim_trim]
  | some found =>
    -- a name that has a compact form is no compact form itself
    have hentries : ∀ entry ∈ compactForms, Text.IsAscii entry.2.toList ∧
        entry.2.toList.map Char.toLower = entry.2.toList ∧
        Text.trim entry.2.toList = entry.2.toList ∧ compactForms.lookup entry.2 = none := by
      decide
    obtain ⟨hascii, hmap, htrimmed, hlong⟩ := hentries _ (Text.mem_of_lookup hlookup)
    exact ⟨hascii, hmap, htrimmed, hlong⟩

theorem map_toLower_capitalizeParts {name : String} (h : Text.IsAscii name.toList) :
    (capitalizeParts name).toList.map Char.toLower = name.toList.map Char.toLower := by
  rw [capitalizeParts, String.toList_ofList, map_intercalate, List.map_map]
  have hparts : (Text.splitAt '-' name.toList).map ((·.map Char.toLower) ∘ Text.capitalize) =
      (Text.splitAt '-' name.toList).map (·.map Char.toLower) :=
    List.map_congr_left fun piece hpiece => Text.map_toLower_capitalize fun c hc =>
      h c (Text.mem_of_mem_splitAt hpiece hc).1
  rw [hparts, ← map_intercalate, Text.intercalate_splitAt]

/-- If capitalising the parts of a name gives letters that nothing else is mapped to, the name is
ASCII. -/
theorem isAscii_of_capitalizeParts {letters : List Char} (hl : Text.IsApart letters) {name : String}
    (h : ∀ d ∈ (capitalizeParts name).toList, d ∈ letters) : Text.IsAscii name.toList := by
  have hpieces : ∀ pieces : List (List Char),
      (∀ d ∈ ['-'].intercalate (pieces.map Text.capitalize), d ∈ letters) →
        Text.IsAscii (['-'].intercalate pieces) := by
    intro pieces
    induction pieces with
    | nil => exact fun _ => nofun
    | cons piece pieces ih =>
      cases pieces with
      | nil => simpa using @Text.IsApart.capitalize _ hl piece
      | cons next pieces =>
        simp only [List.map_cons, List.intercalate_cons_cons] at ih ⊢
        intro h
        obtain ⟨hhead, hrest⟩ := List.forall_mem_append.1 h
        obtain ⟨hpiece, -⟩ := List.forall_mem_append.1 hhead
        exact List.forall_mem_append.2
          ⟨List.forall_mem_append.2
            ⟨hl.capitalize hpiece, List.forall_mem_singleton.2 (by decide)⟩, ih hrest⟩
  rw [capitalizeParts, String.toList_ofList] at h
  have hascii := hpieces _ h
  rwa [Text.intercalate_splitAt] at hascii

/-- The spelling of a long name is the name itself when letter case does not count. -/
theorem map_toLower_spelling {name : String} (h : IsLongName name) :
    ((specialSpellings.lookup name).getD (capitalizeParts name)).toList.map Char.toLower =
      name.toList := by
  cases hlookup : specialSpellings.lookup name with
  | none => rw [Option.getD_none, map_toLower_capitalizeParts h.ascii, h.lower]
  | some found =>
    have hentries : ∀ entry ∈ specialSpellings,
        entry.2.toList.map Char.toLower = entry.1.toList := by decide
    exact hentries _ (Text.mem_of_lookup hlookup)

theorem toLower_eq_self {c : Char} (h : 0x80 ≤ c.toNat) : c.toLower = c := by
  unfold Char.toLower
  rw [dif_neg]
  rintro ⟨-, hz⟩
  have : c.val.toNat ≤ 90 := hz
  have : c.toNat = c.val.toNat := rfl
  omega

theorem lt_of_toLower_lt {c : Char} (h : c.toLower.toNat < 0x80) : c.toNat < 0x80 := by
  by_contra hc
  rw [toLower_eq_self (Nat.not_lt.1 hc)] at h
  exact hc h

/-- A name is canonical if it is the spelling of a long name. -/
theorem canonicalName_spelling {name : String} (h : IsLongName name) :
    canonicalName ((specialSpellings.lookup name).getD (capitalizeParts name)) =
      (specialSpellings.lookup name).getD (capitalizeParts name) := by
  have hmap := map_toLower_spelling h
  generalize hspelling : (specialSpellings.lookup name).getD (capitalizeParts name) = spelling
    at hmap ⊢
  have hascii : Text.IsAscii spelling.toList := fun c hc =>
    lt_of_toLower_lt (h.ascii _ (hmap ▸ List.mem_map_of_mem hc))
  have htrim : Text.trim spelling.toList = spelling.toList := by
    rw [← trim_map_toLower hascii, hmap, h.trimmed]
  -- the spelling leads back to the name that it spells
  have hlong : longName (Text.lowered (Text.trimmed spelling)) = name := by
    rw [Text.trimmed, htrim, Text.lowered, String.toList_ofList, Text.lower_of_ascii hascii, hmap,
      String.ofList_toList, longName, h.long, Option.getD_none]
  rw [canonicalName_eq, hlong]
  exact hspelling

/-- **The canonical form of an ASCII name is canonical.** -/
theorem canonicalName_canonicalName {name : String} (h : Text.IsAscii name.toList) :
    canonicalName (canonicalName name) = canonicalName name := by
  rw [canonicalName_eq name]
  exact canonicalName_spelling (isLongName_longName h)

set_option maxRecDepth 8000 in
/-- Capitalised, the long s is an S, the compact form of another name. -/
example : canonicalName "ſ" = "S" ∧ canonicalName "S" = "Subject" := by decide

/-! ### The name of the length of a body -/

/-- The letters of `Content-Length` in both cases. -/
def lengthLetters : List Char :=
  "content-length".toList ++ "content-length".toList.map Char.toUpper

set_option maxRecDepth 4000 in
theorem isApart_lengthLetters : Text.IsApart lengthLetters where
  ascii := by decide
  lower := by constructor <;> decide
  upper := by constructor <;> decide
  title := by constructor <;> decide

set_option maxRecDepth 4000 in
theorem map_toLower_subset_lengthLetters {cs : List Char} (h : Text.IsAscii cs) :
    cs.map Char.toLower ⊆ lengthLetters ↔ cs ⊆ lengthLetters := by
  have hletter : ∀ c ∈ cs, c.toLower ∈ lengthLetters ↔ c ∈ lengthLetters := fun c hc =>
    Text.ascii_induction (p := fun c => c.toLower ∈ lengthLetters ↔ c ∈ lengthLetters)
      (by decide) (h c hc)
  exact List.forall_mem_map.trans (forall₂_congr hletter)

theorem subset_lengthLetters_of_spelling {long : String}
    (h : ((specialSpellings.lookup long).getD (capitalizeParts long)).toList ⊆ lengthLetters) :
    long.toList ⊆ lengthLetters := by
  cases hlookup : specialSpellings.lookup long with
  | some found =>
    have hentries : ∀ entry ∈ specialSpellings, ¬ entry.2.toList ⊆ lengthLetters := by decide
    rw [hlookup] at h
    exact absurd h (hentries _ (Text.mem_of_lookup hlookup))
  | none =>
    rw [hlookup, Option.getD_none] at h
    have hascii := isAscii_of_capitalizeParts isApart_lengthLetters h
    rw [← map_toLower_subset_lengthLetters hascii, ← map_toLower_capitalizeParts hascii]
    exact (map_toLower_subset_lengthLetters fun c hc => isApart_lengthLetters.ascii c (h hc)).2 h

theorem subset_lengthLetters_of_longName {name : String}
    (h : (longName name).toList ⊆ lengthLetters) : name.toList ⊆ lengthLetters := by
  rw [longName] at h
  cases hlookup : compactForms.lookup name with
  | some found =>
    have hentries : ∀ entry ∈ compactForms, entry.2.toList ⊆ lengthLetters →
        entry.1.toList ⊆ lengthLetters := by decide
    rw [hlookup] at h
    exact hentries _ (Text.mem_of_lookup hlookup) h
  | none => rwa [hlookup] at h

/-- A name that is spelt with the letters of `Content-Length` alone has no other ones. -/
theorem trim_subset_lengthLetters {name : String}
    (h : (canonicalName name).toList ⊆ lengthLetters) :
    Text.trim name.toList ⊆ lengthLetters := by
  rw [canonicalName_eq] at h
  have hlower := subset_lengthLetters_of_longName (subset_lengthLetters_of_spelling h)
  rw [toList_lowered_trimmed] at hlower
  have hascii : Text.IsAscii (Text.trim name.toList) := isApart_lengthLetters.lowerAfter hlower
  rwa [Text.lower_of_ascii hascii, map_toLower_subset_lengthLetters hascii] at hlower

theorem canonicalName_trimmed (name : String) :
    canonicalName (Text.trimmed name) = canonicalName name := by
  rw [canonicalName_eq, canonicalName_eq, Text.trimmed, Text.trimmed, String.toList_ofList,
    Text.trim_trim]

/-- Canonical once more, a name is that of the length if it was before. -/
theorem canonicalName_eq_contentLength_iff (name : String) :
    canonicalName (canonicalName name) = "Content-Length" ↔
      canonicalName name = "Content-Length" := by
  constructor
  · intro h
    have houter : (canonicalName (canonicalName name)).toList ⊆ lengthLetters := by
      rw [h]
      decide
    have hinner : (canonicalName name).toList ⊆ lengthLetters := by
      rw [← trim_canonicalName]
      exact trim_subset_lengthLetters houter
    have hascii : Text.IsAscii (Text.trimmed name).toList := by
      rw [Text.trimmed, String.toList_ofList]
      exact fun c hc => isApart_lengthLetters.ascii c (trim_subset_lengthLetters hinner hc)
    rwa [← canonicalName_trimmed name, canonicalName_canonicalName hascii,
      canonicalName_trimmed] at h
  · intro h
    rw [h]
    decide

end SipBench
