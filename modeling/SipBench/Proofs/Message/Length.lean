import SipBench.Proofs.Message.Octets
import SipBench.Proofs.Message.RoundTrip

/-!
# Declared and actual lengths

The body of a message that was read is the beginning of what follows the first empty line, as long
as declared; a length that no such beginning has is refused.  A length below zero is the exception:
it is taken for the number of octets to be left out at the end.

* `CutAtEmptyLine` : a text or octets with the first empty line taken out
* `DeclaresLength` : what the first header on the length of the body says
* `Message.parse_contentLength` : the length that a message declares and the length of its body
-/

namespace SipBench

/-! ### What follows the first empty line -/

/-- `cs` is `head`, an empty line and `rest`, and no empty line begins earlier; or no line of `cs`
is empty, and there is no rest. -/
inductive CutAtEmptyLine {α : Type} (cr lf : α) (cs head rest : List α) : Prop
  | found (style : LineStyle)
    (h : cs = head ++ (style.ending cr lf ++ (style.ending cr lf ++ rest)))
    (first : ∀ before (style : LineStyle) after,
      cs = before ++ (style.ending cr lf ++ (style.ending cr lf ++ after)) →
        head.length ≤ before.length)
  | missing (h : cs = head) (hrest : rest = [])
    (none : ∀ before (style : LineStyle) after,
      cs ≠ before ++ (style.ending cr lf ++ (style.ending cr lf ++ after)))

section

variable {α : Type} [BEq α] [LawfulBEq α] {cr lf : α}

theorem afterEmptyLine?_eq_some {cs rest : List α} (h : afterEmptyLine? cr lf cs = some rest) :
    ∃ style : LineStyle, cs = style.ending cr lf ++ (style.ending cr lf ++ rest) := by
  unfold afterEmptyLine? at h
  split_ifs at h with hcrlf hlf
  · obtain ⟨more, rfl⟩ := List.isPrefixOf_iff_prefix.1 hcrlf
    cases h
    exact ⟨.crlf, rfl⟩
  · obtain ⟨more, rfl⟩ := List.isPrefixOf_iff_prefix.1 hlf
    cases h
    exact ⟨.lf, rfl⟩

theorem cutAtEmptyLine_splitHead (hcrlf : cr ≠ lf) (cs : List α) :
    CutAtEmptyLine cr lf cs (splitHead cr lf cs).1 (splitHead cr lf cs).2 := by
  induction cs with
  | nil =>
    refine .missing rfl rfl fun before style after h => ?_
    have hnil := (List.append_eq_nil_iff.1 (List.append_eq_nil_iff.1 h.symm).2).1
    cases style <;> cases hnil
  | cons c cs ih =>
    cases hempty : afterEmptyLine? cr lf (c :: cs) with
    | some rest =>
      obtain ⟨style, hstyle⟩ := afterEmptyLine?_eq_some hempty
      rw [splitHead_of_afterEmptyLine? hempty]
      exact .found style hstyle fun _ _ _ _ => Nat.zero_le _
    | none =>
      rw [splitHead_cons hempty]
      -- an empty line of the whole does not begin at its first character
      have htail : ∀ before (style : LineStyle) after,
          c :: cs = before ++ (style.ending cr lf ++ (style.ending cr lf ++ after)) →
          ∃ before', before = c :: before' ∧
            cs = before' ++ (style.ending cr lf ++ (style.ending cr lf ++ after)) := by
        intro before style after h
        cases before with
        | nil =>
          rw [h, List.nil_append, afterEmptyLine?_ending hcrlf] at hempty
          cases hempty
        | cons d before =>
          obtain ⟨rfl, rfl⟩ := List.cons.inj h
          exact ⟨before, rfl, rfl⟩
      cases ih with
      | found style h first =>
        refine .found style (congrArg (c :: ·) h) fun before style after hbefore => ?_
        obtain ⟨before, rfl, hcs⟩ := htail before style after hbefore
        exact Nat.succ_le_succ (first before style after hcs)
      | missing h hrest none =>
        refine .missing (congrArg (c :: ·) h) hrest fun before style after hbefore => ?_
        obtain ⟨before, rfl, hcs⟩ := htail before style after hbefore
        exact none before style after hcs

end

namespace RawMessage

/-- The octets of a raw message. -/
def bytes : RawMessage → List UInt8
  | text s => Text.Utf8.encode s.toList
  | octets bytes => bytes

/-- `rest` follows the first empty line of a raw message; line ends in front of the message do not
count. -/
def Follows (raw : RawMessage) (rest : List UInt8) : Prop :=
  ∃ head, CutAtEmptyLine 0x0d 0x0a (raw.bytes.dropWhile fun b => b == 0x0d || b == 0x0a) head rest

theorem split_bytes (raw : RawMessage) : (octets raw.bytes).split = raw.split := by
  cases raw with
  | text s => exact split_octets_encode s
  | octets bytes => rfl

theorem follows_split (raw : RawMessage) : raw.Follows raw.split.2 := by
  rw [← split_bytes]
  exact ⟨_, cutAtEmptyLine_splitHead (by decide) _⟩

/-- What is read from the first line. -/
def start (raw : RawMessage) : Except ParseError StartLine :=
  StartLine.parse (Text.trim ((headLines raw.split.1).headD []))

/-- What is read from the other lines of the head. -/
def headers (raw : RawMessage) : Except ParseError (List Header) :=
  (unfold (headLines raw.split.1).tail).mapM Header.parse

end RawMessage

/-! ### Declared lengths -/

/-- The first of the headers on the length of the body gives an integer. -/
def DeclaresLength (headers : List Header) (length : Int) : Prop :=
  ∃ header, headers.find? (·.name == "Content-Length") = some header ∧
    Text.readInteger header.value = .ok length

/-- The first header on the length of the body, if there is one, gives the length of some beginning
of `rest`. -/
def LengthAgrees (headers : List Header) (rest : List UInt8) : Prop :=
  headers.find? (·.name == "Content-Length") = none ∨
    ∃ body, body <+: rest ∧ DeclaresLength headers body.length

/-- The first header on the length of the body gives an integer below zero. -/
def DeclaresNegative (headers : List Header) : Prop :=
  ∃ length, DeclaresLength headers length ∧ length < 0

theorem clip_prefix (length : Int) (body : List UInt8) : clip length body <+: body := by
  unfold clip
  split_ifs <;> exact List.take_prefix _ _

theorem length_clip_of_nonneg {length : Int} (h : 0 ≤ length) {body : List UInt8}
    (hle : length ≤ body.length) : ((clip length body).length : Int) = length := by
  rw [clip_of_nonneg h, List.length_take]
  omega

section

variable {headers : List Header} {rest body : List UInt8}

theorem DeclaresLength.unique {length other : Int} (h : DeclaresLength headers length)
    (h' : DeclaresLength headers other) : length = other := by
  obtain ⟨header, hfind, hread⟩ := h
  obtain ⟨header', hfind', hread'⟩ := h'
  obtain rfl := Option.some.inj (hfind.symm.trans hfind')
  exact Except.ok.inj (hread.symm.trans hread')

theorem not_declares_of_none (hfind : headers.find? (·.name == "Content-Length") = none)
    (length : Int) : ¬ DeclaresLength headers length := by
  rintro ⟨header, hsome, -⟩
  exact absurd (hfind.symm.trans hsome) nofun

/-- The body is all that there is, or the part of it that is declared. -/
theorem declaredBody_eq_ok (h : declaredBody headers rest = .ok body) :
    headers.find? (·.name == "Content-Length") = none ∧ body = rest ∨
    ∃ length, DeclaresLength headers length ∧ length ≤ rest.length ∧ body = clip length rest := by
  unfold declaredBody at h
  split at h
  · rename_i hfind
    cases h
    exact .inl ⟨hfind, rfl⟩
  · rename_i header hfind
    split at h
    · cases h
    · rename_i length hread
      split_ifs at h with hshort
      cases h
      exact .inr ⟨length, ⟨header, hfind, hread⟩, Int.not_lt.1 hshort, rfl⟩

/-- There is a body exactly if the declared length is that of a beginning of what there is, or is
below zero. -/
theorem exists_declaredBody_iff (headers : List Header) (rest : List UInt8) :
    (∃ body, declaredBody headers rest = .ok body) ↔
      LengthAgrees headers rest ∨ DeclaresNegative headers := by
  constructor
  · rintro ⟨body, h⟩
    obtain ⟨hfind, -⟩ | ⟨length, hdeclares, hle, -⟩ := declaredBody_eq_ok h
    · exact .inl (.inl hfind)
    · obtain hneg | hnonneg := Int.lt_or_le length 0
      · exact .inr ⟨length, hdeclares, hneg⟩
      · refine .inl (.inr ⟨clip length rest, clip_prefix _ _, ?_⟩)
        rwa [length_clip_of_nonneg hnonneg hle]
  · rintro ((hfind | ⟨body, hprefix, header, hfind, hread⟩) |
      ⟨length, ⟨header, hfind, hread⟩, hneg⟩)
    · exact ⟨rest, by simp only [declaredBody, hfind]⟩
    · have hle := hprefix.length_le
      exact ⟨_, by simp only [declaredBody, hfind, hread]; exact if_neg (by omega)⟩
    · exact ⟨_, by simp only [declaredBody, hfind, hread]; exact if_neg (by omega)⟩

end

namespace Message

theorem contentLength_of_none {m : Message}
    (h : m.headers.find? (·.name == "Content-Length") = none) :
    m.contentLength = m.body.length := by
  rw [contentLength, headerValue?, header?_contentLength, h]
  rfl

theorem contentLength_of_declares {m : Message} {length : Int}
    (h : DeclaresLength m.headers length) : m.contentLength = length := by
  obtain ⟨header, hfind, hread⟩ := h
  rw [contentLength, headerValue?, header?_contentLength, hfind, Option.map_some, Option.bind_some,
    Text.readInteger?, hread]
  rfl

/-- The body that a message was read with is as long as the message declares, but for a length below
zero. -/
theorem contentLength_of_declaredBody {m : Message} {rest : List UInt8}
    (h : declaredBody m.headers rest = .ok m.body) :
    m.contentLength = m.body.length ↔ ¬ DeclaresNegative m.headers := by
  obtain ⟨hfind, -⟩ | ⟨length, hdeclares, hle, hbody⟩ := declaredBody_eq_ok h
  · refine iff_of_true (contentLength_of_none hfind) ?_
    exact fun ⟨length, hdeclares, _⟩ => not_declares_of_none hfind length hdeclares
  · rw [contentLength_of_declares hdeclares]
    obtain hneg | hnonneg := Int.lt_or_le length 0
    · exact iff_of_false (by omega) fun hnot => hnot ⟨length, hdeclares, hneg⟩
    · refine iff_of_true ?_ ?_
      · rw [hbody, length_clip_of_nonneg hnonneg hle]
      · rintro ⟨other, hother, hneg⟩
        have := hdeclares.unique hother
        omega

/-- What is read is read from the first line, the other lines of the head and what follows it. -/
theorem parse_eq_ok_iff {raw : RawMessage} {source : Value} {m : Message} :
    parse raw source = .ok m ↔ raw.start = .ok m.start ∧ raw.headers = .ok m.headers ∧
      declaredBody m.headers raw.split.2 = .ok m.body ∧ m.source = source :=
  ofHead_eq_ok_iff

/-- **A message is as long as it declares**, unless it declares a length below zero: its body begins
what follows the first empty line, and the number of its octets is the declared length.  A message
is read exactly if its lines can be read and some beginning of what follows has the length that its
first header on the length declares, or that is, again, below zero; every other one is refused. -/
theorem parse_contentLength (raw : RawMessage) (source : Value) :
    ∃ rest, raw.Follows rest ∧
      (∀ m, parse raw source = .ok m → raw.headers = .ok m.headers ∧ m.body <+: rest ∧
        (m.contentLength = m.body.length ↔ ¬ DeclaresNegative m.headers)) ∧
      ((∃ m, parse raw source = .ok m) ↔
        ∃ start headers, raw.start = .ok start ∧ raw.headers = .ok headers ∧
          (LengthAgrees headers rest ∨ DeclaresNegative headers)) := by
  refine ⟨raw.split.2, raw.follows_split, fun m h => ?_, ?_, ?_⟩
  · obtain ⟨-, hheaders, hbody, -⟩ := parse_eq_ok_iff.1 h
    refine ⟨hheaders, ?_, contentLength_of_declaredBody hbody⟩
    obtain ⟨-, hall⟩ | ⟨length, -, -, hclip⟩ := declaredBody_eq_ok hbody
    · rw [hall]
    · exact hclip ▸ clip_prefix _ _
  · rintro ⟨m, h⟩
    obtain ⟨hstart, hheaders, hbody, -⟩ := parse_eq_ok_iff.1 h
    exact ⟨m.start, m.headers, hstart, hheaders,
      (exists_declaredBody_iff m.headers raw.split.2).1 ⟨m.body, hbody⟩⟩
  · rintro ⟨start, headers, hstart, hheaders, hlength⟩
    obtain ⟨body, hbody⟩ := (exists_declaredBody_iff headers raw.split.2).2 hlength
    exact ⟨⟨start, headers, body, source⟩, parse_eq_ok_iff.2 ⟨hstart, hheaders, hbody, rfl⟩⟩

/-- A declared length below zero is not refused: it leaves out the last octet. -/
theorem parse_negative_length :
    parse (.text "OPTIONS sip:a SIP/2.0\r\nContent-Length: -1\r\n\r\nabc") .none =
      .ok ⟨.request "OPTIONS" "sip:a", [⟨"Content-Length", "-1"⟩], [0x61, 0x62], .none⟩ ∧
    contentLength ⟨.request "OPTIONS" "sip:a", [⟨"Content-Length", "-1"⟩], [0x61, 0x62], .none⟩ =
      -1 := by
  constructor
  · with_unfolding_all rfl
  · with_unfolding_all rfl

end Message

end SipBench
