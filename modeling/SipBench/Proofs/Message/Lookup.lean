import SipBench.Proofs.Message.HeaderName
import SipBench.Proofs.Message.Length
import SipBench.Proofs.Message.StartLine

/-!
# Headers that are added and found

Two ASCII names have the same canonical form exactly if they are the same name but for white space
around them, letter case and compact forms.  A header that was added is therefore found under every
other writing of its name and under no other name, behind the headers that were there before.

* `SameName` : two writings of one name
* `canonicalName_eq_iff` : canonical forms tell names apart, and nothing else
* `Message.withHeaders` : a chain of copies
* `Message.headersNamed_chain` : what is found in the last of them
-/

namespace SipBench

/-! ### Writings of a name -/

/-- The name that is written: without the white space around it, in lower case, and the long name if
it is a compact form. -/
def writtenName (name : String) : String :=
  longName (String.ofList ((Text.trim name.toList).map Char.toLower))

/-- Two writings of one name. -/
def SameName (a b : String) : Prop := writtenName a = writtenName b

instance : DecidableRel SameName := fun a b =>
  inferInstanceAs (Decidable (writtenName a = writtenName b))

theorem longName_lowered {name : String} (h : Text.IsAscii name.toList) :
    longName (Text.lowered (Text.trimmed name)) = writtenName name := by
  have htrim : Text.IsAscii (Text.trim name.toList) := fun c hc => h c (Text.mem_of_mem_trim hc)
  rw [writtenName, ← Text.lower_of_ascii htrim, ← toList_lowered_trimmed, String.ofList_toList]

theorem map_toLower_canonicalName {name : String} (h : Text.IsAscii name.toList) :
    (canonicalName name).toList.map Char.toLower = (writtenName name).toList := by
  rw [canonicalName_eq, map_toLower_spelling (isLongName_longName h), longName_lowered h]

/-- **Canonical forms tell names apart**, and nothing but names. -/
theorem canonicalName_eq_iff {a b : String} (ha : Text.IsAscii a.toList)
    (hb : Text.IsAscii b.toList) : canonicalName a = canonicalName b ↔ SameName a b := by
  constructor
  · intro h
    rw [SameName, ← String.toList_inj, ← map_toLower_canonicalName ha,
      ← map_toLower_canonicalName hb, h]
  · intro h
    rw [canonicalName_eq, canonicalName_eq, longName_lowered ha, longName_lowered hb, h]

example : SameName "l" " CONTENT-length" ∧ ¬ SameName "l-" "content-length" := by decide

/-! ### Chains of copies -/

/-- What the constructor of a message makes of a start line: a response without a phrase gets the
one of the registry. -/
def StartLine.completed : StartLine → StartLine
  | .response status reason => Message.statusLine status reason
  | start => start

theorem StartLine.completed_of_parse {line : List Char} {start : StartLine}
    (h : StartLine.parse line = .ok start) : start.completed = start := by
  rcases StartLine.parse_eq_ok h with
    ⟨_, _, third, code, _, _, _, _, rfl⟩ | ⟨_, _, _, _, _, _, _, _, rfl⟩
  · obtain ⟨phrase, hphrase, hsame, -⟩ := statusLine_eq (.int code) (String.ofList third)
    rw [hphrase]
    exact hsame
  · rfl

namespace Message

variable {m : Message}

/-- A copy with one more header, as the constructor makes it. -/
def copyWith (m : Message) (header : String × String) : Message :=
  { m.withHeader header.1 header.2 with start := m.start.completed }

/-- A chain of copies, each with one more header. -/
def withHeaders (m : Message) (added : List (String × String)) : Message := added.foldl copyWith m

/-- The constructor has nothing to fill in, neither in the first message nor in any copy. -/
theorem withHeaders_eq_foldl (h : m.start.completed = m.start) (added : List (String × String)) :
    m.withHeaders added = added.foldl (fun m header => m.withHeader header.1 header.2) m := by
  induction added generalizing m with
  | nil => rfl
  | cons header added ih =>
    have hcopy : m.copyWith header = m.withHeader header.1 header.2 := by
      rw [copyWith, h]
      rfl
    rw [List.foldl_cons, ← ih (m := m.withHeader header.1 header.2) h, ← hcopy]
    rfl

/-- **A chain of copies changes nothing but the headers**, to which it adds in its order. -/
theorem foldl_withHeader (m : Message) (added : List (String × String)) :
    added.foldl (fun m header => m.withHeader header.1 header.2) m =
      { m with headers := m.headers ++ added.map fun header =>
          Header.canonical header.1 header.2 } := by
  induction added generalizing m with
  | nil =>
    rw [List.map_nil, List.append_nil]
    rfl
  | cons header added ih =>
    rw [List.foldl_cons, ih, withHeader, List.append_assoc, List.singleton_append, List.map_cons]

/-- Of the headers that were added, those are found whose name is written in another way. -/
theorem filter_canonical {name : String} (hname : Text.IsAscii name.toList)
    {added : List (String × String)} (hadded : ∀ header ∈ added, Text.IsAscii header.1.toList) :
    (added.map fun header => Header.canonical header.1 header.2).filter
        (·.name == canonicalName name) =
      (added.filter (SameName ·.1 name)).map fun header =>
        ⟨canonicalName name, Text.trimmed header.2⟩ := by
  have hfound : ∀ header ∈ added,
      (canonicalName header.1 == canonicalName name) = decide (SameName header.1 name) := by
    intro header hmem
    rw [Bool.eq_iff_iff, beq_iff_eq, decide_eq_true_iff,
      canonicalName_eq_iff (hadded header hmem) hname]
  rw [List.filter_map]
  simp only [Function.comp_def, Header.canonical]
  rw [← List.filter_congr hfound]
  refine List.map_congr_left fun header hmem => ?_
  have hsame : canonicalName header.1 = canonicalName name :=
    beq_iff_eq.1 (List.mem_filter.1 hmem).2
  rw [hsame]

/-- **A header is found under every writing of its name, and under no other name.**  Two ASCII names
have the same canonical form exactly if they are writings of one name, and a canonical form stays as
it is.  So in a chain of copies of a message that was read, each with one more header, those are
found under a name that the message had under it, and then, in their order, those that were added
under any writing of it; nothing else is changed, whether the constructor runs again or not. -/
theorem headersNamed_chain :
    (∀ a b : String, Text.IsAscii a.toList → Text.IsAscii b.toList →
      (canonicalName a = canonicalName b ↔ SameName a b)) ∧
    (∀ a : String, Text.IsAscii a.toList → canonicalName (canonicalName a) = canonicalName a) ∧
    ∀ raw source m, parse raw source = .ok m → ∀ added : List (String × String),
      (∀ q : String, Text.IsAscii q.toList → (∀ header ∈ added, Text.IsAscii header.1.toList) →
        (m.withHeaders added).headersNamed q =
          m.headersNamed q ++ (added.filter (SameName ·.1 q)).map fun header =>
            ⟨canonicalName q, Text.trimmed header.2⟩) ∧
      m.withHeaders added = added.foldl (fun m header => m.withHeader header.1 header.2) m ∧
      m.withHeaders added =
        { m with headers := m.headers ++ added.map fun header =>
            ⟨canonicalName header.1, Text.trimmed header.2⟩ } := by
  refine ⟨fun a b => canonicalName_eq_iff, fun a => canonicalName_canonicalName,
    fun raw source m h added => ?_⟩
  have hstart : m.start.completed = m.start :=
    StartLine.completed_of_parse (parse_eq_ok_iff.1 h).1
  have hfold := withHeaders_eq_foldl hstart added
  have hchain := hfold.trans (foldl_withHeader m added)
  refine ⟨fun q hq hadded => ?_, hfold, hchain⟩
  rw [hchain, headersNamed, List.filter_append, filter_canonical hq hadded]
  rfl

end Message

end SipBench
