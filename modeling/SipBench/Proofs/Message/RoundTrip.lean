import Mathlib.Data.List.Find
import SipBench.Proofs.Message.HeaderName
import SipBench.Proofs.Message.Lines
import SipBench.Proofs.Message.StartLine
import SipBench.Proofs.Text.Utf8

/-!
# Messages that are written and read

A message that was read is written so that it is read again.  Its parts are read one by one: the
start line, each header line and the body, whose length is declared.

* `Header.IsRead` : what is known of a header that was read
* `Message.withLength` : the message as it is written, with a Content-Length header
* `Message.parse_text` : writing and reading
-/

namespace SipBench

theorem bind_eq_ok {ε α β : Type} {x : Except ε α} {f : α → Except ε β} {b : β} :
    x >>= f = .ok b ↔ ∃ a, x = .ok a ∧ f a = .ok b := by
  cases x with
  | error e => simp [bind, Except.bind]
  | ok a => simp [bind, Except.bind]

theorem bind_eq_error {ε α β : Type} {x : Except ε α} {f : α → Except ε β} {e : ε} :
    x >>= f = .error e ↔ x = .error e ∨ ∃ a, x = .ok a ∧ f a = .error e := by
  cases x with
  | error e' => simp [bind, Except.bind]
  | ok a => simp [bind, Except.bind]

theorem exists_of_mem_mapM {ε α β : Type} {f : α → Except ε β} {xs : List α} {ys : List β}
    (h : xs.mapM f = .ok ys) {y : β} (hy : y ∈ ys) : ∃ x ∈ xs, f x = .ok y := by
  induction xs generalizing ys with
  | nil =>
    cases h
    cases hy
  | cons x xs ih =>
    simp only [List.mapM_cons, bind_eq_ok] at h
    obtain ⟨first, hfirst, rest, hrest, h⟩ := h
    cases h
    obtain rfl | hy := List.mem_cons.1 hy
    · exact ⟨x, List.mem_cons_self, hfirst⟩
    · obtain ⟨z, hz, hread⟩ := ih hrest hy
      exact ⟨z, List.mem_cons_of_mem x hz, hread⟩

theorem exists_mapM_eq_ok_iff {ε α β : Type} {f : α → Except ε β} {xs : List α} :
    (∃ ys, xs.mapM f = .ok ys) ↔ ∀ x ∈ xs, ∃ y, f x = .ok y := by
  induction xs with
  | nil => exact ⟨fun _ => nofun, fun _ => ⟨[], rfl⟩⟩
  | cons x xs ih =>
    rw [List.forall_mem_cons, ← ih]
    simp only [List.mapM_cons, bind_eq_ok]
    constructor
    · rintro ⟨-, y, hy, ys, hys, -⟩
      exact ⟨⟨y, hy⟩, ys, hys⟩
    · rintro ⟨⟨y, hy⟩, ys, hys⟩
      exact ⟨y :: ys, y, hy, ys, hys, rfl⟩

theorem mapM_append_of_error {ε α β : Type} {f : α → Except ε β} {xs : List α} {e : ε}
    (h : xs.mapM f = .error e) (ys : List α) : (xs ++ ys).mapM f = .error e := by
  rw [List.mapM_append, h]
  rfl

/-! ### Header lines -/

/-- A header that was read: its name can be written before a colon, and its value, without white
space at its ends, after it. -/
structure Header.IsRead (h : Header) : Prop where
  name : IsHeaderName h.name.toList
  clear : '\n' ∉ h.value.toList
  trimmed : Text.trim h.value.toList = h.value.toList

theorem Header.parse_of_not_mem {line : List Char} (h : ':' ∉ line) :
    Header.parse line = .error (.malformedHeader (String.ofList line)) := by
  rw [Header.parse, Text.cutAt_of_not_mem h]

/-- A line is read as a name and a value, unless the name is blank. -/
theorem Header.parse_append {name : List Char} (h : ':' ∉ name) (value : List Char) :
    Header.parse (name ++ ':' :: value) =
      if Text.trim name = [] then .error (.malformedHeader (String.ofList (name ++ ':' :: value)))
      else .ok (Message.Header.canonical (String.ofList name) (String.ofList value)) := by
  rw [Header.parse, Text.cutAt_append h]
  simp only [List.isEmpty_iff]

theorem Header.parse_eq_ok {line : List Char} {h : Header} (hparse : Header.parse line = .ok h) :
    ∃ name value, line = name ++ ':' :: value ∧ ':' ∉ name ∧ Text.trim name ≠ [] ∧
      h.name = canonicalName (String.ofList name) ∧
      h.value = String.ofList (Text.trim value) := by
  by_cases hmem : ':' ∈ line
  · obtain ⟨name, value, rfl, hcolon⟩ := List.eq_append_cons_of_mem hmem
    rw [Header.parse_append hcolon] at hparse
    split_ifs at hparse with hname
    rw [Except.ok.injEq, Message.Header.canonical, Text.trimmed, String.toList_ofList] at hparse
    exact ⟨name, value, rfl, hcolon, hname, by rw [← hparse], by rw [← hparse]⟩
  · rw [Header.parse_of_not_mem hmem] at hparse
    cases hparse

theorem Header.isRead_of_parse {line : List Char} {h : Header} (hline : '\n' ∉ line)
    (hparse : Header.parse line = .ok h) : h.IsRead := by
  obtain ⟨name, value, rfl, hcolon, hne, hname, hvalue⟩ := Header.parse_eq_ok hparse
  simp only [List.mem_append, List.mem_cons, not_or] at hline
  have hwritten : IsHeaderName (canonicalName (String.ofList name)).toList := by
    refine isHeaderName_canonicalName (by rwa [String.toList_ofList]) fun c hc => ?_
    rw [String.toList_ofList] at hc
    exact ⟨fun heq => hcolon (heq ▸ hc), fun heq => hline.1 (heq ▸ hc)⟩
  refine ⟨hname ▸ hwritten, ?_, ?_⟩
  · rw [hvalue, String.toList_ofList]
    exact fun hmem => hline.2.2 (Text.mem_of_mem_trim hmem)
  · rw [hvalue, String.toList_ofList, Text.trim_trim]

theorem Header.toList_line (h : Header) :
    h.line.toList = h.name.toList ++ ':' :: ' ' :: h.value.toList := by
  simp [Header.line]

theorem Header.IsRead.line {h : Header} (hread : h.IsRead) :
    h.line.toList ≠ [] ∧ '\n' ∉ h.line.toList ∧ isContinuation h.line.toList = false := by
  obtain ⟨c, cs, hname⟩ := List.exists_cons_of_ne_nil hread.name.ne_nil
  have hhead := hread.name.head c (by rw [hname]; rfl)
  rw [Header.toList_line]
  refine ⟨by simp, ?_, ?_⟩
  · simp only [List.mem_append, List.mem_cons, not_or]
    exact ⟨fun hmem => (hread.name.clear _ hmem).2 rfl, by decide, by decide, hread.clear⟩
  · rw [hname, List.cons_append, isContinuation]
    simp [hhead]

/-- A header as it is stored: it was read, and its name is a canonical one. -/
structure Header.IsStored (h : Header) : Prop extends h.IsRead where
  canonical : ∃ name, h.name = canonicalName name

theorem Header.IsRead.stored {h : Header} (hread : h.IsRead)
    (hname : canonicalName h.name = h.name) : h.IsStored :=
  ⟨hread, h.name, hname.symm⟩

/-- What is read from the line of a header. -/
def Header.reread (h : Header) : Header := ⟨canonicalName h.name, h.value⟩

theorem Header.reread_eq_self {h : Header} (hname : canonicalName h.name = h.name) :
    h.reread = h := by
  rw [Header.reread, hname]

theorem Header.IsStored.parse_line {h : Header} (hstored : h.IsStored) :
    Header.parse h.line.toList = .ok h.reread := by
  have hcolon : ':' ∉ h.name.toList := fun hmem => (hstored.name.clear _ hmem).1 rfl
  have hname : Text.trim h.name.toList = h.name.toList := by
    obtain ⟨name, hname⟩ := hstored.canonical
    rw [hname, trim_canonicalName]
  have hvalue : Text.trim (' ' :: h.value.toList) = h.value.toList := by
    rw [Text.trim_cons_blank (by decide), hstored.trimmed]
  rw [Header.toList_line, Header.parse_append hcolon, hname, if_neg hstored.name.ne_nil,
    Message.Header.canonical, Text.trimmed, String.toList_ofList, String.ofList_toList, hvalue,
    String.ofList_toList, Header.reread]

theorem isRead_of_mapM {lines : List (List Char)} {headers : List Header}
    (hlines : ∀ line ∈ lines, '\n' ∉ line) (h : lines.mapM Header.parse = .ok headers) :
    ∀ header ∈ headers, header.IsRead := by
  intro header hheader
  obtain ⟨line, hline, hparse⟩ := exists_of_mem_mapM h hheader
  exact Header.isRead_of_parse (hlines line hline) hparse

theorem mapM_parse_line {headers : List Header} (h : ∀ header ∈ headers, header.IsStored) :
    (headers.map (·.line.toList)).mapM Header.parse = .ok (headers.map Header.reread) := by
  induction headers with
  | nil => rfl
  | cons header headers ih =>
    obtain ⟨hheader, hheaders⟩ := List.forall_mem_cons.1 h
    rw [List.map_cons, List.mapM_cons, hheader.parse_line, ih hheaders]
    rfl

/-! ### Declared lengths -/

theorem canonicalName_contentLength : canonicalName "Content-Length" = "Content-Length" := by
  decide

theorem clip_of_nonneg {length : Int} (h : 0 ≤ length) (body : List UInt8) :
    clip length body = body.take length.natAbs := by
  rw [clip, if_neg (Int.not_lt.2 h)]

theorem find?_reread {headers : List Header} (h : ∀ header ∈ headers, header.IsStored) :
    (headers.map Header.reread).find? (·.name == "Content-Length") =
      (headers.find? (·.name == "Content-Length")).map Header.reread := by
  have hname : ∀ header ∈ headers,
      (header.reread.name == "Content-Length") = (header.name == "Content-Length") := by
    intro header hmem
    obtain ⟨name, hname⟩ := (h header hmem).canonical
    rw [Header.reread, hname, Bool.eq_iff_iff, beq_iff_eq, beq_iff_eq,
      canonicalName_eq_contentLength_iff]
  rw [List.find?_map]
  exact congrArg _ (List.find?_congr hname)

/-- What is read from their lines declares the length that the headers declare. -/
theorem declaredBody_reread {headers : List Header} (h : ∀ header ∈ headers, header.IsStored)
    (body : List UInt8) :
    declaredBody (headers.map Header.reread) body = declaredBody headers body := by
  rw [declaredBody, declaredBody, find?_reread h]
  cases headers.find? (·.name == "Content-Length") with
  | none => simp only [Option.map_none]
  | some header => simp only [Option.map_some, Header.reread]

namespace Message

/-- The message with a header that tells the length of its body. -/
def withLength (m : Message) : Message :=
  { m with headers := m.headers ++
      if (m.headersNamed "Content-Length").isEmpty then
        [⟨"Content-Length", toString m.body.length⟩]
      else [] }

theorem header?_contentLength (m : Message) :
    m.header? "Content-Length" = m.headers.find? (·.name == "Content-Length") := by
  rw [header?, headersNamed, canonicalName_contentLength, List.head?_filter]

theorem withLength_of_some {m : Message} {header : Header}
    (h : m.header? "Content-Length" = some header) : m.withLength = m := by
  have hne : (m.headersNamed "Content-Length").isEmpty = false := by
    rw [header?] at h
    rw [List.isEmpty_eq_false_iff]
    exact List.ne_nil_of_mem (List.mem_of_mem_head? h)
  rw [withLength, hne, if_neg (by simp), List.append_nil]

theorem withLength_of_none {m : Message} (h : m.header? "Content-Length" = none) :
    m.withLength =
      { m with headers := m.headers ++ [⟨"Content-Length", toString m.body.length⟩] } := by
  rw [header?, List.head?_eq_none_iff] at h
  rw [withLength, h, List.isEmpty_nil, if_pos rfl]

/-- A declared body that was cut to its length is as long as declared. -/
theorem declaredBody_declaredBody {headers : List Header} {received body : List UInt8}
    {header : Header} {length : Int}
    (hfind : headers.find? (·.name == "Content-Length") = some header)
    (hread : Text.readInteger header.value = .ok length) (hlength : 0 ≤ length)
    (h : declaredBody headers received = .ok body) : declaredBody headers body = .ok body := by
  simp only [declaredBody, hfind, hread] at h ⊢
  split_ifs at h with hshort
  rw [Except.ok.injEq, clip_of_nonneg hlength] at h
  subst h
  have hsize : (received.take length.natAbs).length = length.natAbs := by
    rw [List.length_take]
    omega
  rw [if_neg (by omega), clip_of_nonneg hlength, List.take_take, Nat.min_self]

theorem readInteger_of_declaredBody {headers : List Header} {received body : List UInt8}
    {header : Header} (hfind : headers.find? (·.name == "Content-Length") = some header)
    (h : declaredBody headers received = .ok body) :
    ∃ length, Text.readInteger header.value = .ok length := by
  simp only [declaredBody, hfind] at h
  split at h
  · cases h
  · exact ⟨_, by assumption⟩

/-- The body is as long as the message with its length declares. -/
theorem declaredBody_withLength {m : Message} {received : List UInt8}
    (h : declaredBody m.headers received = .ok m.body) (hlength : 0 ≤ m.contentLength)
    (hsize : m.body.length < 10 ^ Text.maxDigits) :
    declaredBody m.withLength.headers m.body = .ok m.body := by
  cases hheader : m.header? "Content-Length" with
  | none =>
    have hread : Text.readInteger (toString m.body.length) = .ok (m.body.length : Int) :=
      Text.readInteger_toString (i := m.body.length) hsize
    have hfind : m.withLength.headers.find? (·.name == "Content-Length") =
        some ⟨"Content-Length", toString m.body.length⟩ := by
      rw [withLength_of_none hheader, List.find?_append, ← header?_contentLength, hheader]
      rfl
    simp only [declaredBody, hfind, hread]
    rw [if_neg (by omega), clip_of_nonneg (by omega), Int.natAbs_natCast, List.take_length]
  | some header =>
    rw [withLength_of_some hheader]
    have hfind := header?_contentLength m ▸ hheader
    obtain ⟨length, hread⟩ := readInteger_of_declaredBody hfind h
    have hdeclared : m.contentLength = length := by
      rw [contentLength, headerValue?, hheader, Option.map_some, Option.bind_some,
        Text.readInteger?, hread]
      rfl
    exact declaredBody_declaredBody hfind hread (hdeclared ▸ hlength) h

/-! ### Messages -/

theorem headerLines_eq (m : Message) : m.headerLines = m.withLength.headers.map Header.line := by
  rw [headerLines, withLength]
  split_ifs
  · rw [List.map_append]
    rfl
  · rw [List.append_nil, List.append_nil]

theorem header?_withLength (m : Message) :
    ∃ header, m.withLength.header? "Content-Length" = some header := by
  cases hheader : m.header? "Content-Length" with
  | none =>
    rw [withLength_of_none hheader, header?_contentLength, List.find?_append,
      ← header?_contentLength, hheader]
    exact ⟨_, rfl⟩
  | some header => exact ⟨header, by rw [withLength_of_some hheader, hheader]⟩

theorem withLength_withLength (m : Message) : m.withLength.withLength = m.withLength := by
  obtain ⟨header, hheader⟩ := header?_withLength m
  exact withLength_of_some hheader

theorem text_withLength (m : Message) : m.withLength.text = m.text := by
  rw [text, text, headerLines_eq, withLength_withLength, headerLines_eq m]
  rfl

/-- The message of a head and a body is made up of the parts that are read from them. -/
theorem ofHead_eq_ok_iff {head : List Char} {body : List UInt8} {source : Value} {m : Message} :
    ofHead head body source = .ok m ↔
      StartLine.parse (Text.trim ((headLines head).headD [])) = .ok m.start ∧
      (unfold (headLines head).tail).mapM Header.parse = .ok m.headers ∧
      declaredBody m.headers body = .ok m.body ∧ m.source = source := by
  simp only [ofHead, bind_eq_ok]
  constructor
  · rintro ⟨start, hstart, headers, hheaders, kept, hbody, h⟩
    cases h
    exact ⟨hstart, hheaders, hbody, rfl⟩
  · rintro ⟨hstart, hheaders, hbody, rfl⟩
    exact ⟨_, hstart, _, hheaders, _, hbody, rfl⟩

theorem isRead_of_ofHead {head : List Char} {body : List UInt8} {source : Value} {m : Message}
    (h : ofHead head body source = .ok m) : ∀ header ∈ m.headers, header.IsRead := by
  obtain ⟨-, hheaders, -⟩ := ofHead_eq_ok_iff.1 h
  exact isRead_of_mapM (not_mem_of_mem_unfold fun line hline =>
    not_mem_of_mem_headLines (List.mem_of_mem_tail hline)) hheaders

/-- What holds of the headers and of every length holds with the length of the body. -/
theorem forall_withLength {p : Header → Prop} {m : Message} (h : ∀ header ∈ m.headers, p header)
    (hlength : ∀ n : Nat, p ⟨"Content-Length", toString n⟩) :
    ∀ header ∈ m.withLength.headers, p header := by
  cases hheader : m.header? "Content-Length" with
  | none =>
    rw [withLength_of_none hheader]
    exact List.forall_mem_append.2 ⟨h, List.forall_mem_singleton.2 (hlength _)⟩
  | some header => rwa [withLength_of_some hheader]

theorem isRead_length (n : Nat) : Header.IsRead ⟨"Content-Length", toString n⟩ := by
  refine ⟨?_, ?_, ?_⟩
  · have hname : IsHeaderName "Content-Length".toList := by decide
    exact hname
  · exact fun hmem => absurd (Text.isBlank_of_mem_toString (i := n) hmem) (by decide)
  · exact Text.trimBy_of_forall fun c hc => Text.isBlank_of_mem_toString (i := n) hc

theorem isRead_withLength {m : Message}
    (h : ∀ header ∈ m.headers, header.IsRead ∧ canonicalName header.name = header.name) :
    ∀ header ∈ m.withLength.headers,
      header.IsRead ∧ canonicalName header.name = header.name :=
  forall_withLength h fun n => ⟨isRead_length n, canonicalName_contentLength⟩

theorem toList_text {m : Message} {start : String} (hstart : startText m.start = some start)
    {cs : List Char} (hbody : m.body = Text.Utf8.encode cs) :
    m.text.toList =
      lineEnd.intercalate (start.toList :: m.withLength.headers.map (·.line.toList)) ++
        (lineEnd ++ (lineEnd ++ cs)) := by
  obtain ⟨header, hheader⟩ := header?_withLength m
  obtain ⟨first, rest, hheaders⟩ : ∃ first rest, m.withLength.headers = first :: rest := by
    rw [header?_contentLength] at hheader
    exact List.exists_cons_of_ne_nil (List.ne_nil_of_mem (List.mem_of_find?_eq_some hheader))
  have hlineEnd : "\r\n".toList = lineEnd := by decide
  have hempty : "\r\n\r\n".toList = lineEnd ++ lineEnd := by decide
  rw [text, hstart, headerLines_eq, hheaders, hbody, Text.Utf8.decodeLossy_encode]
  simp [String.toList_intercalate, hlineEnd, hempty, Function.comp_def]

/-- Lines that can be written are read from the text that they are written to. -/
theorem ofHead_lines_eq_ok_iff {first : List Char} {start : StartLine} {headers : List Header}
    (hclear : '\n' ∉ first) (hstart : StartLine.parse (Text.trim first) = .ok start)
    (hheaders : ∀ header ∈ headers, header.IsStored) {body : List UInt8} {source : Value}
    {m : Message} :
    ofHead (lineEnd.intercalate (first :: headers.map (·.line.toList))) body source = .ok m ↔
      ∃ kept, declaredBody headers body = .ok kept ∧
        m = ⟨start, headers.map Header.reread, kept, source⟩ := by
  have hlines : ∀ line ∈ headers.map (·.line.toList),
      line ≠ [] ∧ '\n' ∉ line ∧ isContinuation line = false :=
    List.forall_mem_map.2 fun header hmem => (hheaders header hmem).line
  have hclears : ∀ line ∈ first :: headers.map (·.line.toList), '\n' ∉ line :=
    List.forall_mem_cons.2 ⟨hclear, fun line hline => (hlines line hline).2.1⟩
  rw [ofHead_eq_ok_iff, ← ending_crlf,
    headLines_intercalate (by simp) fun line hline => fits_crlf (hclears line hline),
    List.headD_cons, hstart, List.tail_cons,
    unfold_eq_self fun line hline => ⟨(hlines line hline).1, (hlines line hline).2.2⟩,
    mapM_parse_line hheaders]
  constructor
  · rintro ⟨hstart, hread, hbody, rfl⟩
    cases hstart
    rw [← Except.ok.inj hread, declaredBody_reread hheaders] at hbody
    exact ⟨m.body, hbody, by rw [Except.ok.inj hread]⟩
  · rintro ⟨kept, hbody, rfl⟩
    exact ⟨rfl, rfl, by rwa [declaredBody_reread hheaders], rfl⟩

theorem ofHead_intercalate {start : List Char} {m : Message} {source : Value}
    (hclear : '\n' ∉ start) (hstart : StartLine.parse (Text.trim start) = .ok m.start)
    (hheaders : ∀ header ∈ m.headers, header.IsRead ∧ canonicalName header.name = header.name)
    (hbody : declaredBody m.headers m.body = .ok m.body) :
    ofHead (lineEnd.intercalate (start :: m.headers.map (·.line.toList))) m.body source =
      .ok { m with source } := by
  have hreread : m.headers.map Header.reread = m.headers :=
    (List.map_congr_left fun header hmem => Header.reread_eq_self (hheaders header hmem).2).trans
      (List.map_id _)
  have hstored : ∀ header ∈ m.headers, header.IsStored := fun header hmem =>
    (hheaders header hmem).1.stored (hheaders header hmem).2
  refine (ofHead_lines_eq_ok_iff hclear hstart hstored).2 ⟨m.body, hbody, ?_⟩
  rw [hreread]

/-- The text of a message that was read is split where its head ends. -/
theorem split_text {m : Message} {start : String} (hstart : startText m.start = some start)
    (hfirst : StartLine.IsFirstLine start.toList)
    (hheaders : ∀ header ∈ m.withLength.headers, header.IsRead)
    (hbody : ∃ cs, m.body = Text.Utf8.encode cs) :
    (RawMessage.text m.text).split =
      (lineEnd.intercalate (start.toList :: m.withLength.headers.map (·.line.toList)), m.body) := by
  obtain ⟨cs, hcs⟩ := hbody
  obtain ⟨c, hc, hblank⟩ := hfirst.head
  have hlines : ∀ line ∈ start.toList :: m.withLength.headers.map (·.line.toList),
      line ≠ [] ∧ '\n' ∉ line := by
    have hne : start.toList ≠ [] := List.ne_nil_of_mem (List.mem_of_mem_head? hc)
    refine List.forall_mem_cons.2 ⟨⟨hne, hfirst.clear⟩, List.forall_mem_map.2 fun header hmem => ?_⟩
    exact ⟨(hheaders header hmem).line.1, (hheaders header hmem).line.2.1⟩
  have hhead : m.text.toList.head? = some c := by
    obtain ⟨more, hmore⟩ := intercalate_append_eq lineEnd start.toList
      (m.withLength.headers.map (·.line.toList)) (lineEnd ++ cs)
    rw [toList_text hstart hcs, hmore, List.head?_append, Option.mem_def.1 hc]
    rfl
  -- the text does not begin with a line end, so that none is dropped
  have hdrop : m.text.toList.dropWhile (fun c => c == '\r' || c == '\n') = m.text.toList := by
    refine Text.dropWhile_eq_self fun d hd => ?_
    obtain rfl : c = d := Option.some.inj (hhead.symm.trans hd)
    refine Bool.or_eq_false_iff.2 ⟨beq_false_of_ne ?_, beq_false_of_ne ?_⟩ <;> rintro rfl
    · exact absurd hblank (by decide)
    · exact absurd hblank (by decide)
  rw [RawMessage.split, hdrop, toList_text hstart hcs, ← ending_crlf,
    splitHead_intercalate (by decide) (by simp) fun line hline =>
      ⟨(hlines line hline).1, fits_crlf (hlines line hline).2⟩, hcs]

/-- **A message that was read is written so that it is read again**: with the start line, the
headers in their order and the body that it had, and with a Content-Length header at the end if it
had none.  This holds if the body is text, if no negative length is declared and if the header names
are canonical, as they are when they were written in ASCII.  Written again it is the same text.  The
length of a body is read back if it has no more than 4300 digits, as it has in any memory. -/
theorem parse_text {raw : RawMessage} {source : Value} {m : Message}
    (h : parse raw source = .ok m) (hbody : ∃ cs, m.body = Text.Utf8.encode cs)
    (hnames : ∀ header ∈ m.headers, canonicalName header.name = header.name)
    (hlength : 0 ≤ m.contentLength) (hsize : m.body.length < 10 ^ Text.maxDigits)
    (source' : Value) :
    parse (.text m.text) source' = .ok { m.withLength with source := source' } ∧
      { m.withLength with source := source' }.text = m.text ∧
      ∀ name : String, Text.IsAscii name.toList →
        canonicalName (canonicalName name) = canonicalName name := by
  obtain ⟨hstart, -, hdeclared, -⟩ := ofHead_eq_ok_iff.1 h
  have hclear : '\n' ∉ Text.trim ((headLines raw.split.1).headD []) := by
    intro hmem
    cases hlines : headLines raw.split.1 with
    | nil => simp [hlines, Text.trim, Text.trimBy] at hmem
    | cons line lines =>
      rw [hlines] at hmem
      exact not_mem_of_mem_headLines (hlines ▸ List.mem_cons_self) (Text.mem_of_mem_trim hmem)
  obtain ⟨start, htext, hfirst, hread⟩ :=
    StartLine.parse_startText hclear (Text.trim_trim _) hstart
  have hheaders := isRead_withLength fun header hmem =>
    ⟨isRead_of_ofHead h header hmem, hnames header hmem⟩
  refine ⟨?_, text_withLength m, fun _ => canonicalName_canonicalName⟩
  rw [parse, split_text htext hfirst (fun header hmem => (hheaders header hmem).1) hbody]
  exact ofHead_intercalate (m := m.withLength) hfirst.clear hread hheaders
    (declaredBody_withLength hdeclared hlength hsize)

/-- A request with a compact header name, a folded line and an empty line in its body. -/
theorem parse_text_folded : ∃ m : Message,
    parse (.text "OPTIONS sip:a SIP/2.0\r\nv: x\r\n y\r\n\r\nb\n\nc") .none = .ok m ∧
      m.text = "OPTIONS sip:a SIP/2.0\r\nVia: x y\r\nContent-Length: 4\r\n\r\nb\n\nc" ∧
      parse (.text m.text) .none = .ok { m.withLength with source := .none } ∧
      { m.withLength with source := .none }.text = m.text ∧
      ∀ name : String, Text.IsAscii name.toList →
        canonicalName (canonicalName name) = canonicalName name := by
  have hread : parse (.text "OPTIONS sip:a SIP/2.0\r\nv: x\r\n y\r\n\r\nb\n\nc") .none =
      .ok ⟨.request "OPTIONS" "sip:a", [⟨"Via", "x y"⟩], Text.Utf8.encode "b\n\nc".toList,
        .none⟩ := by
    with_unfolding_all rfl
  have hsize : 4 < 10 ^ Text.maxDigits :=
    Nat.lt_of_lt_of_le (by decide) (Nat.le_self_pow (by decide) 10)
  refine ⟨_, hread, ?_, parse_text hread ⟨_, rfl⟩ (by decide) (by decide) hsize .none⟩
  with_unfolding_all rfl

end Message

end SipBench
