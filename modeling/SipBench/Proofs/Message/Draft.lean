import SipBench.Proofs.Message.Octets
import SipBench.Proofs.Message.RoundTrip
import SipBench.Proofs.Text.Line

/-!
# Messages written line by line

A message that somebody writes, line by line and with any octets after the empty line, is read as
what was written: the style of the line ends, the folding of the headers and the octets of the body
make no difference.

* `FirstLine`, `Field`, `Draft` : what is written
* `Draft.octets` : how it is written
* `Draft.IsPlain.split_octets` : the head and the body are found
* `Draft.parse_octets` : the message is read
-/

namespace SipBench

theorem IsOneLine.fits {cs : List Char} (h : IsOneLine cs) (style : LineStyle) :
    style.Fits '\r' '\n' cs :=
  ⟨fun hmem => (h _ hmem).2 rfl, fun _ hmem => (h _ hmem).1 rfl⟩

theorem not_mem_of_isBlank {cs : List Char} (h : ∀ c ∈ cs, Text.isBlank c = false) : ' ' ∉ cs :=
  fun hmem => absurd (h _ hmem) (by decide)

/-! ### Start lines -/

/-- A start line as it is written: a request with a method and an address, or a response with the
digits of its code and a phrase. -/
inductive FirstLine where
  | request (method uri : String)
  | status (digits reason : String)

namespace FirstLine

open Message (sipVersion)

/-- The line that is written. -/
def line : FirstLine → List Char
  | request method uri => method.toList ++ ' ' :: (uri.toList ++ ' ' :: sipVersion.toList)
  | status digits reason => sipVersion.toList ++ ' ' :: (digits.toList ++ ' ' :: reason.toList)

/-- The start line that is meant. -/
def start : FirstLine → StartLine
  | request method uri => .request method uri
  | status digits reason => .response (.int (Nat.ofDigitChars 10 digits.toList 0)) reason

/-- A start line that can be written: words for the method and the address, and the method is not
the protocol version; or no more digits than are accepted, and a phrase without white space at its
ends. -/
inductive IsPlain : FirstLine → Prop where
  | request {method uri : String} (hmethod : IsWord method.toList) (huri : IsWord uri.toList)
      (hversion : StartLine.isVersion method.toList = false) : IsPlain (.request method uri)
  | status {digits reason : String} (hne : digits ≠ "")
      (hdigits : ∀ c ∈ digits.toList, c.isDigit = true)
      (hlength : digits.toList.length ≤ Text.maxDigits) (hreason : reason ≠ "")
      (htrimmed : Text.trim reason.toList = reason.toList) (hline : IsOneLine reason.toList) :
      IsPlain (.status digits reason)

theorem isOneLine_sipVersion : IsOneLine sipVersion.toList := by decide

theorem IsPlain.isOneLine {f : FirstLine} (h : f.IsPlain) : IsOneLine f.line := by
  have hspace : ' ' ≠ '\r' ∧ ' ' ≠ '\n' := by decide
  cases h with
  | request hmethod huri =>
    have hfirst := isOneLine_of_isBlank hmethod.clear
    have hsecond := isOneLine_of_isBlank huri.clear
    exact hfirst.append (.cons hspace (hsecond.append (.cons hspace isOneLine_sipVersion)))
  | status hne hdigits hlength hreason htrimmed hline =>
    have hsecond := isOneLine_of_isBlank fun c hc => Text.isBlank_of_isDigit (hdigits c hc)
    exact isOneLine_sipVersion.append (.cons hspace (hsecond.append (.cons hspace hline)))

theorem IsPlain.head {f : FirstLine} (h : f.IsPlain) :
    ∃ c ∈ f.line.head?, Text.isBlank c = false := by
  have happend {cs ds : List Char} (hcs : ∃ c ∈ cs.head?, Text.isBlank c = false) :
      ∃ c ∈ (cs ++ ds).head?, Text.isBlank c = false := by
    obtain ⟨c, hc, hblank⟩ := hcs
    exact ⟨c, by rw [List.head?_append, Option.mem_def.1 hc]; rfl, hblank⟩
  cases h with
  | request hmethod => exact happend hmethod.head
  | status => exact happend StartLine.head?_sipVersion

theorem IsPlain.parse_line {f : FirstLine} (h : f.IsPlain) :
    StartLine.parse (Text.trim f.line) = .ok f.start := by
  cases h with
  | request hmethod huri hversion =>
    rw [line, StartLine.trim_line hmethod.head
        (StartLine.getLast?_append_cons StartLine.getLast?_sipVersion _),
      StartLine.parse_request hversion (not_mem_of_isBlank hmethod.clear)
        (not_mem_of_isBlank huri.clear) StartLine.isVersion_sipVersion,
      String.ofList_toList, String.ofList_toList, start]
  | @status digits reason hne hdigits hlength hreason htrimmed =>
    obtain ⟨c, hc⟩ := Option.ne_none_iff_exists'.1
      (mt List.getLast?_eq_none_iff.1 (mt String.toList_eq_nil_iff.1 hreason))
    have hlast : ∃ c ∈ reason.toList.getLast?, Text.isBlank c = false :=
      ⟨c, hc, (Text.trimBy_eq_self_iff.1 htrimmed).2 c hc⟩
    have hspace : ' ' ∉ digits.toList :=
      not_mem_of_isBlank fun c hc => Text.isBlank_of_isDigit (hdigits c hc)
    have hcode : Text.readInteger (String.ofList digits.toList) =
        .ok (Nat.ofDigitChars 10 digits.toList 0 : Int) := by
      rw [String.ofList_toList, Text.readInteger_digits hne hdigits hlength]
    have hphrase : reason.isEmpty = false := by simpa using hreason
    rw [line, StartLine.trim_line StartLine.head?_sipVersion
        (StartLine.getLast?_append_cons hlast _),
      StartLine.parse_response StartLine.isVersion_sipVersion (by decide) hspace hcode,
      String.ofList_toList, Message.statusLine, hphrase]
    rfl

end FirstLine

/-! ### Header fields -/

/-- A header field as it is written: its name, the text after the colon and the lines that continue
it. -/
structure Field where
  name : String
  value : String
  more : List String := []

namespace Field

/-- The line with the name. -/
def line (f : Field) : List Char := f.name.toList ++ ':' :: f.value.toList

/-- The lines that are written. -/
def lines (f : Field) : List (List Char) := f.line :: f.more.map String.toList

/-- The header that is meant: each continuation adds a blank and what is left of it when it is
trimmed. -/
def header (f : Field) : Header :=
  Message.Header.canonical f.name
    (String.ofList (joined f.value.toList (f.more.map String.toList)))

theorem name_header (f : Field) : f.header.name = canonicalName f.name := by
  rw [header, Message.Header.canonical]

/-- A field that can be written: its name holds neither white space nor a colon, its lines hold no
line end, and the lines that continue it begin with a blank or a tab. -/
structure IsPlain (f : Field) : Prop where
  name : ∀ c ∈ f.name.toList, Text.isBlank c = false ∧ c ≠ ':'
  value : IsOneLine f.value.toList
  more : ∀ l ∈ f.more, isContinuation l.toList = true ∧ IsOneLine l.toList

theorem isPlain_iff {f : Field} : f.IsPlain ↔
    f.name.toList.all (fun c => !Text.isBlank c && c != ':') = true ∧ IsOneLine f.value.toList ∧
      f.more.all (fun l => isContinuation l.toList && decide (IsOneLine l.toList)) = true := by
  simp only [List.all_eq_true, Bool.and_eq_true, Bool.not_eq_true', bne_iff_ne, decide_eq_true_eq]
  exact ⟨fun h => ⟨h.name, h.value, h.more⟩, fun ⟨hname, hvalue, hmore⟩ => ⟨hname, hvalue, hmore⟩⟩

instance (f : Field) : Decidable f.IsPlain := decidable_of_iff' _ isPlain_iff

theorem IsPlain.isBlank {f : Field} (h : f.IsPlain) : ∀ c ∈ f.name.toList, Text.isBlank c = false :=
  fun c hc => (h.name c hc).1

theorem IsPlain.colon {f : Field} (h : f.IsPlain) : ':' ∉ f.name.toList :=
  fun hmem => (h.name _ hmem).2 rfl

theorem IsPlain.lines {f : Field} (h : f.IsPlain) : ∀ l ∈ f.lines, l ≠ [] ∧ IsOneLine l := by
  refine List.forall_mem_cons.2 ⟨⟨by simp [line], ?_⟩, List.forall_mem_map.2 fun l hl => ?_⟩
  · exact (isOneLine_of_isBlank h.isBlank).append (.cons (by decide) h.value)
  · obtain ⟨hcontinues, hline⟩ := h.more l hl
    refine ⟨fun hempty => ?_, hline⟩
    rw [hempty] at hcontinues
    cases hcontinues

theorem IsPlain.line {f : Field} (h : f.IsPlain) (hname : f.name ≠ "") :
    isContinuation f.line = false := by
  obtain ⟨c, cs, hcons⟩ := List.exists_cons_of_ne_nil (mt String.toList_eq_nil_iff.1 hname)
  have hblank := h.isBlank c (hcons ▸ List.mem_cons_self)
  rw [Field.line, hcons, List.cons_append, isContinuation]
  refine Bool.or_eq_false_iff.2 ⟨beq_false_of_ne ?_, beq_false_of_ne ?_⟩ <;> rintro rfl
  · exact absurd hblank (by decide)
  · exact absurd hblank (by decide)

theorem IsPlain.parse_joined {f : Field} (h : f.IsPlain) (hname : f.name ≠ "") :
    Header.parse (joined f.line (f.more.map String.toList)) = .ok f.header := by
  have hjoined : joined f.line (f.more.map String.toList) =
      f.name.toList ++ ':' :: joined f.value.toList (f.more.map String.toList) := by
    simp [joined, Field.line]
  have hne : Text.trim f.name.toList ≠ [] := by
    rw [Text.trim, Text.trimBy_of_forall h.isBlank]
    simpa using hname
  rw [hjoined, Header.parse_append h.colon, if_neg hne, String.ofList_toList]
  rfl

end Field

/-- Fields are read as the headers that are meant. -/
theorem mapM_parse_joined {fields : List Field} (h : ∀ f ∈ fields, f.IsPlain ∧ f.name ≠ "") :
    (fields.map fun f => joined f.line (f.more.map String.toList)).mapM Header.parse =
      .ok (fields.map Field.header) := by
  induction fields with
  | nil => rfl
  | cons f fields ih =>
    obtain ⟨⟨hplain, hname⟩, hrest⟩ := List.forall_mem_cons.1 h
    rw [List.map_cons, List.mapM_cons, hplain.parse_joined hname, ih hrest]
    rfl

theorem unfold_lines {fields : List Field} (h : ∀ f ∈ fields, f.IsPlain ∧ f.name ≠ "") :
    unfold (fields.flatMap Field.lines) =
      fields.map fun f => joined f.line (f.more.map String.toList) := by
  have hgroups : ∀ g ∈ fields.map fun f => (f.line, f.more.map String.toList),
      g.1 ≠ [] ∧ isContinuation g.1 = false ∧ ∀ l ∈ g.2, isContinuation l = true := by
    refine List.forall_mem_map.2 fun f hf => ⟨?_, ?_, List.forall_mem_map.2 fun l hl => ?_⟩
    · exact ((h f hf).1.lines _ List.mem_cons_self).1
    · exact (h f hf).1.line (h f hf).2
    · exact ((h f hf).1.more l hl).1
  have hunfold := unfold_groups _ hgroups
  rwa [List.flatMap_map, List.map_map] at hunfold

/-! ### Messages -/

/-- A message as it is written. -/
structure Draft where
  style : LineStyle
  start : FirstLine
  fields : List Field
  body : List UInt8

namespace Draft

/-- The lines of the head. -/
def lines (d : Draft) : List (List Char) := d.start.line :: d.fields.flatMap Field.lines

/-- The head: the lines, with a line end between any two. -/
def head (d : Draft) : List Char := (d.style.ending '\r' '\n').intercalate d.lines

/-- The octets that are written: the head and the empty line in UTF-8, and the body as it is. -/
def octets (d : Draft) : List UInt8 :=
  Text.Utf8.encode (d.head ++ d.style.ending '\r' '\n' ++ d.style.ending '\r' '\n') ++ d.body

/-- The message that is meant, with the given octets for its body. -/
def message (d : Draft) (body : List UInt8) (source : Value) : Message :=
  ⟨d.start.start, d.fields.map Field.header, body, source⟩

/-- A message that can be written. -/
structure IsPlain (d : Draft) : Prop where
  start : d.start.IsPlain
  fields : ∀ f ∈ d.fields, f.IsPlain

theorem IsPlain.lines {d : Draft} (h : d.IsPlain) : ∀ line ∈ d.lines, line ≠ [] ∧ IsOneLine line := by
  refine List.forall_mem_cons.2 ⟨⟨?_, h.start.isOneLine⟩, fun line hline => ?_⟩
  · obtain ⟨c, hc, -⟩ := h.start.head
    exact List.ne_nil_of_mem (List.mem_of_mem_head? hc)
  · obtain ⟨f, hf, hline⟩ := List.mem_flatMap.1 hline
    exact (h.fields f hf).lines line hline

theorem octets_eq (d : Draft) :
    d.octets = (d.style.ending 0x0d 0x0a).intercalate (d.lines.map Text.Utf8.encode) ++
      (d.style.ending 0x0d 0x0a ++ (d.style.ending 0x0d 0x0a ++ d.body)) := by
  simp only [octets, head, Text.Utf8.encode_append, Text.Utf8.encode_intercalate, encode_ending,
    List.append_assoc]

theorem IsPlain.dropWhile_octets {d : Draft} (h : d.IsPlain) :
    d.octets.dropWhile (fun b => b == 0x0d || b == 0x0a) = d.octets := by
  obtain ⟨c, cs, hstart⟩ := List.exists_cons_of_ne_nil (h.lines _ List.mem_cons_self).1
  have hc := h.start.isOneLine c (hstart ▸ List.mem_cons_self)
  obtain ⟨more, hmore⟩ := intercalate_append_eq (d.style.ending '\r' '\n') d.start.line
    (d.fields.flatMap Field.lines) (d.style.ending '\r' '\n')
  rw [octets, head, Draft.lines, List.append_assoc, hmore, hstart, List.cons_append]
  exact dropWhile_encode_append hc _ _

theorem IsPlain.split_octets {d : Draft} (h : d.IsPlain) :
    (RawMessage.octets d.octets).split = (d.head, d.body) := by
  have hlines : ∀ line ∈ d.lines.map Text.Utf8.encode,
      line ≠ [] ∧ d.style.Fits 0x0d 0x0a line := by
    refine List.forall_mem_map.2 fun line hline => ?_
    obtain ⟨hne, hone⟩ := h.lines line hline
    exact ⟨mt Text.Utf8.encode_eq_nil.1 hne, (hone.fits d.style).encode⟩
  have hne : d.lines.map Text.Utf8.encode ≠ [] := by simp [Draft.lines]
  simp only [RawMessage.split]
  rw [h.dropWhile_octets, octets_eq, splitHead_intercalate (by decide) hne hlines, ← encode_ending,
    ← Text.Utf8.encode_intercalate, Text.Utf8.decodeLossy_encode, head]

/-- What was written is read, but for a body of another length than is declared. -/
theorem parse_eq {d : Draft} (h : d.IsPlain) (hnamed : ∀ f ∈ d.fields, f.name ≠ "")
    (source : Value) :
    Message.parse (.octets d.octets) source =
      (declaredBody (d.fields.map Field.header) d.body).map (d.message · source) := by
  have hfields : ∀ f ∈ d.fields, f.IsPlain ∧ f.name ≠ "" := fun f hf =>
    ⟨h.fields f hf, hnamed f hf⟩
  have hhead : headLines d.head = d.lines :=
    headLines_intercalate (by simp [Draft.lines]) fun line hline => (h.lines line hline).2.fits _
  rw [Message.parse, h.split_octets, Message.ofHead, hhead, Draft.lines, List.headD_cons,
    List.tail_cons, h.start.parse_line, unfold_lines hfields, mapM_parse_joined hfields]
  rfl

theorem find?_header_eq_none {fields : List Field}
    (h : ∀ f ∈ fields, canonicalName f.name ≠ "Content-Length") :
    (fields.map Field.header).find? (·.name == "Content-Length") = none := by
  refine List.find?_eq_none.2 (List.forall_mem_map.2 fun f hf => ?_)
  rw [Field.name_header, beq_iff_eq]
  exact h f hf

theorem find?_header_eq_some {before : List Field} {f : Field} (after : List Field)
    (hbefore : ∀ g ∈ before, canonicalName g.name ≠ "Content-Length")
    (hf : canonicalName f.name = "Content-Length") :
    ((before ++ f :: after).map Field.header).find? (·.name == "Content-Length") =
      some f.header := by
  have hname : (f.header.name == "Content-Length") = true := by
    rw [Field.name_header, beq_iff_eq]
    exact hf
  rw [List.map_append, List.find?_append, find?_header_eq_none hbefore, Option.none_or,
    List.map_cons, List.find?_cons]
  simp only [hname]

/-- **What was written is read**: the start line, one header for each field in their order, with the
canonical name and the unfolded value, and the body octet by octet if no field declares its length.
The first field that declares one is believed if it is an integer and there are as many octets; any
other message with such a field is refused. -/
theorem parse_octets {d : Draft} (h : d.IsPlain) (hnamed : ∀ f ∈ d.fields, f.name ≠ "")
    (source : Value) :
    ((∀ f ∈ d.fields, canonicalName f.name ≠ "Content-Length") →
      Message.parse (.octets d.octets) source = .ok (d.message d.body source)) ∧
    ∀ before f after, d.fields = before ++ f :: after →
      (∀ g ∈ before, canonicalName g.name ≠ "Content-Length") →
      canonicalName f.name = "Content-Length" →
      (∀ n : Nat, Text.readInteger f.header.value = .ok n → n ≤ d.body.length →
        Message.parse (.octets d.octets) source = .ok (d.message (d.body.take n) source)) ∧
      (∀ length, Text.readInteger f.header.value = .ok length → d.body.length < length →
        Message.parse (.octets d.octets) source =
          .error (.bodyTooShort length d.body.length)) ∧
      ∀ reason, Text.readInteger f.header.value = .error reason →
        Message.parse (.octets d.octets) source =
          .error (.invalidLength f.header.value reason) := by
  rw [parse_eq h hnamed]
  refine ⟨fun hnone => ?_, fun before f after hfields hbefore hf => ?_⟩
  · simp only [declaredBody, find?_header_eq_none hnone]
    rfl
  have hfind := find?_header_eq_some after hbefore hf
  rw [hfields]
  refine ⟨fun n hread hn => ?_, fun length hread hlength => ?_, fun reason hread => ?_⟩
  · have hlength : ¬ (d.body.length : Int) < n := by omega
    simp only [declaredBody, hfind, hread, hlength, ↓reduceIte]
    rw [clip_of_nonneg (by omega), Int.natAbs_natCast]
    rfl
  · simp only [declaredBody, hfind, hread, hlength, ↓reduceIte]
    rfl
  · simp only [declaredBody, hfind, hread]
    rfl

/-- A response with a folded header, a body of two octets and a declared length of one. -/
theorem parse_octets_folded :
    Message.parse (.octets (Draft.octets ⟨.lf, .status "200" "OK",
        [⟨"v", " x", ["\ty"]⟩, ⟨"l", " 1", []⟩], [0x0a, 0xff]⟩)) .none =
      .ok ⟨.response (.int 200) "OK", [⟨"Via", "x y"⟩, ⟨"Content-Length", "1"⟩], [0x0a],
        .none⟩ := by
  have hstart : FirstLine.IsPlain (.status "200" "OK") := by
    refine .status (by decide) (List.all_eq_true.1 ?_) (by decide) (by decide) (by decide) ?_
    · decide
    · decide
  have hplain : IsPlain ⟨.lf, .status "200" "OK", [⟨"v", " x", ["\ty"]⟩, ⟨"l", " 1", []⟩],
      [0x0a, 0xff]⟩ :=
    ⟨hstart, List.forall_mem_cons.2 ⟨by decide, List.forall_mem_singleton.2 (by decide)⟩⟩
  have hread : Text.readInteger (Field.header ⟨"l", " 1", []⟩).value = .ok ((1 : Nat) : Int) := by
    with_unfolding_all rfl
  exact ((parse_octets hplain (by decide) .none).2 [_] _ [] rfl (by decide) (by decide)).1 1 hread
    (by decide)

/-- A field without a name is refused, and so is one that declares more octets than there are. -/
theorem parse_octets_refused :
    (IsPlain ⟨.crlf, .request "OPTIONS" "sip:a", [⟨"", " x", []⟩], []⟩ ∧
      Message.parse (.octets (Draft.octets
          ⟨.crlf, .request "OPTIONS" "sip:a", [⟨"", " x", []⟩], []⟩)) .none =
        .error (.malformedHeader ": x")) ∧
    IsPlain ⟨.crlf, .request "OPTIONS" "sip:a", [⟨"l", " 2", []⟩], [0xff]⟩ ∧
      Message.parse (.octets (Draft.octets
          ⟨.crlf, .request "OPTIONS" "sip:a", [⟨"l", " 2", []⟩], [0xff]⟩)) .none =
        .error (.bodyTooShort 2 1) := by
  have hstart : FirstLine.IsPlain (.request "OPTIONS" "sip:a") :=
    .request (by decide) (by decide) (by decide)
  have hnameless : Field.IsPlain ⟨"", " x", []⟩ := by decide
  have hlength : Field.IsPlain ⟨"l", " 2", []⟩ := by decide
  refine ⟨⟨⟨hstart, List.forall_mem_singleton.2 hnameless⟩, ?_⟩,
    ⟨hstart, List.forall_mem_singleton.2 hlength⟩, ?_⟩
  · with_unfolding_all rfl
  · with_unfolding_all rfl

end Draft

end SipBench
