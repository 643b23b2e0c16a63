import SipBench.Check
import SipBench.Proofs.Message.Length

/-!
# Messages with another body

A message keeps its headers when its body is replaced, and among them a header that declares the
length of the body that was there before.  The length of the new body, the check that there is one
and what is read from the text of the message agree with the new body as far as that header does.

* `LengthFits` : no other length than that of the body is declared
* `Message.parse_text_eq_ok_iff` : what is read from the text of a message
* `Message.withBody_consistent` : how far a message agrees with its new body
-/

namespace SipBench

/-- If a length is declared, it is the length of the body. -/
def LengthFits (headers : List Header) (body : List UInt8) : Prop :=
  headers.find? (·.name == "Content-Length") = none ∨ DeclaresLength headers body.length

/-- If a length is declared, it is above zero exactly if there is a body. -/
def PresenceFits (headers : List Header) (body : List UInt8) : Prop :=
  headers.find? (·.name == "Content-Length") = none ∨
    ∃ length, DeclaresLength headers length ∧ (0 < length ↔ body ≠ [])

theorem clip_eq_self_iff {length : Int} {body : List UInt8} (hle : length ≤ body.length) :
    clip length body = body ↔ length = body.length ∨ length < 0 ∧ body = [] := by
  by_cases hneg : length < 0
  · rw [clip, if_pos hneg, List.take_eq_self_iff, ← List.length_eq_zero_iff]
    omega
  · rw [clip, if_neg hneg, List.take_eq_self_iff]
    omega

/-- A body is kept as it is if its length is the declared one, or if nothing can be left out of
it. -/
theorem declaredBody_eq_self_iff {headers : List Header} {body : List UInt8} :
    declaredBody headers body = .ok body ↔
      LengthFits headers body ∨ DeclaresNegative headers ∧ body = [] := by
  constructor
  · intro h
    rcases declaredBody_eq_ok h with ⟨hfind, -⟩ | ⟨length, hdeclares, hle, hclip⟩
    · exact .inl (.inl hfind)
    rcases (clip_eq_self_iff hle).1 hclip.symm with rfl | ⟨hneg, hnil⟩
    · exact .inl (.inr hdeclares)
    · exact .inr ⟨⟨length, hdeclares, hneg⟩, hnil⟩
  · rintro ((hfind | ⟨header, hfind, hread⟩) | ⟨⟨length, ⟨header, hfind, hread⟩, hneg⟩, rfl⟩)
    · simp only [declaredBody, hfind]
    · simp only [declaredBody, hfind, hread, lt_irrefl, if_false]
      rw [(clip_eq_self_iff le_rfl).2 (.inl rfl)]
    · have hle : length ≤ ([] : List UInt8).length := Int.le_of_lt hneg
      simp only [declaredBody, hfind, hread, Int.not_lt.2 hle, if_false]
      rw [(clip_eq_self_iff hle).2 (.inr ⟨hneg, rfl⟩)]

namespace Message

/-! ### Reading what is written -/

/-- The start line of a message that was read is written so that it is read again. -/
theorem exists_startText {raw : RawMessage} {source : Value} {m : Message}
    (h : parse raw source = .ok m) :
    ∃ start, startText m.start = some start ∧ StartLine.IsFirstLine start.toList ∧
      StartLine.parse (Text.trim start.toList) = .ok m.start := by
  obtain ⟨hstart, -⟩ := parse_eq_ok_iff.1 h
  refine StartLine.parse_startText ?_ (Text.trim_trim _) hstart
  intro hmem
  have hfirst := Text.mem_of_mem_trim hmem
  cases hlines : headLines raw.split.1 with
  | nil =>
    rw [hlines] at hfirst
    cases hfirst
  | cons line lines =>
    rw [hlines] at hfirst
    exact not_mem_of_mem_headLines (hlines ▸ List.mem_cons_self) hfirst

theorem isStored_of_parse {raw : RawMessage} {source : Value} {m : Message}
    (h : parse raw source = .ok m) : ∀ header ∈ m.headers, header.IsStored := by
  intro header hheader
  obtain ⟨-, hheaders, -⟩ := parse_eq_ok_iff.1 h
  obtain ⟨line, -, hline⟩ := exists_of_mem_mapM hheaders hheader
  obtain ⟨name, -, -, -, -, hname, -⟩ := Header.parse_eq_ok hline
  exact ⟨isRead_of_ofHead h header hheader, _, hname⟩

/-- **What is read from the text of a message**: its start line, its headers under the canonical
forms of their names, and as much of its body as they declare. -/
theorem parse_text_eq_ok_iff {m : Message} {start : String}
    (hstart : startText m.start = some start) (hfirst : StartLine.IsFirstLine start.toList)
    (hread : StartLine.parse (Text.trim start.toList) = .ok m.start)
    (hheaders : ∀ header ∈ m.headers, header.IsStored) (hbody : ∃ cs, m.body = Text.Utf8.encode cs)
    {source : Value} {m' : Message} :
    parse (.text m.text) source = .ok m' ↔
      ∃ kept, declaredBody m.withLength.headers m.body = .ok kept ∧
        m' = ⟨m.start, m.withLength.headers.map Header.reread, kept, source⟩ := by
  have hstored : ∀ header ∈ m.withLength.headers, header.IsStored :=
    forall_withLength hheaders fun n => (isRead_length n).stored canonicalName_contentLength
  rw [parse, split_text hstart hfirst (fun header hmem => (hstored header hmem).toIsRead) hbody]
  exact ofHead_lines_eq_ok_iff hfirst.clear hread hstored

/-- The length that is written where none is declared fits the body. -/
theorem declaredBody_withLength_iff {m : Message} (hsize : m.body.length < 10 ^ Text.maxDigits) :
    declaredBody m.withLength.headers m.body = .ok m.body ↔
      declaredBody m.headers m.body = .ok m.body := by
  cases hheader : m.header? "Content-Length" with
  | none =>
    have hfind := header?_contentLength m ▸ hheader
    have hkept : declaredBody m.headers m.body = .ok m.body := by
      simp only [declaredBody, hfind]
    have hnonneg : 0 ≤ m.contentLength := by
      rw [contentLength_of_none hfind]
      exact Int.natCast_nonneg _
    exact iff_of_true (declaredBody_withLength hkept hnonneg hsize) hkept
  | some header => rw [withLength_of_some hheader]

/-! ### Another body -/

section

variable {raw : RawMessage} {source : Value} {m : Message}

theorem declares_of_parse (h : parse raw source = .ok m) :
    m.headers.find? (·.name == "Content-Length") = none ∨
      ∃ length, DeclaresLength m.headers length := by
  obtain ⟨-, -, hbody, -⟩ := parse_eq_ok_iff.1 h
  rcases declaredBody_eq_ok hbody with ⟨hfind, -⟩ | ⟨length, hdeclares, -⟩
  · exact .inl hfind
  · exact .inr ⟨length, hdeclares⟩

theorem contentLength_withBody_iff (h : parse raw source = .ok m) (body : List UInt8) :
    (m.withBody body).contentLength = body.length ↔ LengthFits m.headers body := by
  rcases declares_of_parse h with hfind | ⟨length, hdeclares⟩
  · have hnone : (m.withBody body).contentLength = body.length := contentLength_of_none hfind
    exact iff_of_true hnone (.inl hfind)
  · have hkept : (m.withBody body).contentLength = length := contentLength_of_declares hdeclares
    rw [hkept]
    constructor
    · rintro rfl
      exact .inr hdeclares
    · rintro (hfind | hfits)
      · exact absurd hdeclares (not_declares_of_none hfind length)
      · exact hdeclares.unique hfits

theorem passes_bodyPresent_iff (m : Message) (label : Option String) :
    MessageCheck.bodyPresent.run (.message m) label = .ok () ↔ 0 < m.contentLength := by
  rw [← Int.not_le]
  by_cases hlength : m.contentLength ≤ 0
  · simp [MessageCheck.run, MessageCheck.finding, Check.report, hlength]
  · simp [MessageCheck.run, MessageCheck.finding, Check.report, hlength]

/-- The check finds the new body, and finds none where there is none, as far as the declared length
tells it. -/
theorem passes_bodyPresent_withBody_iff (h : parse raw source = .ok m) (body : List UInt8)
    (label : Option String) :
    (MessageCheck.bodyPresent.run (.message (m.withBody body)) label = .ok () ↔ body ≠ []) ↔
      PresenceFits m.headers body := by
  rw [passes_bodyPresent_iff]
  rcases declares_of_parse h with hfind | ⟨length, hdeclares⟩
  · have hnone : (m.withBody body).contentLength = body.length := contentLength_of_none hfind
    rw [hnone, Int.natCast_pos, List.length_pos_iff]
    exact iff_of_true Iff.rfl (.inl hfind)
  · have hkept : (m.withBody body).contentLength = length := contentLength_of_declares hdeclares
    rw [hkept]
    constructor
    · exact fun hfits => .inr ⟨length, hdeclares, hfits⟩
    · rintro (hfind | ⟨other, hother, hfits⟩)
      · exact absurd hdeclares (not_declares_of_none hfind length)
      · rwa [hdeclares.unique hother]

/-- The new body is read from the text of the message as far as its declared length allows. -/
theorem exists_parse_withBody_iff (h : parse raw source = .ok m) {body : List UInt8}
    (hbody : ∃ cs, body = Text.Utf8.encode cs) (hsize : body.length < 10 ^ Text.maxDigits)
    (source' : Value) :
    (∃ m', parse (.text (m.withBody body).text) source' = .ok m' ∧ m'.body = body) ↔
      LengthFits m.headers body ∨ DeclaresNegative m.headers ∧ body = [] := by
  obtain ⟨start, htext, hfirst, hread⟩ := exists_startText h
  have hheaders := isStored_of_parse h
  have hparse {m' : Message} := @parse_text_eq_ok_iff (m.withBody body) start htext hfirst hread
    hheaders hbody source' m'
  rw [← declaredBody_eq_self_iff]
  refine Iff.trans ?_ (@declaredBody_withLength_iff (m.withBody body) hsize)
  constructor
  · rintro ⟨m', hm', heq⟩
    obtain ⟨kept, hkept, rfl⟩ := hparse.1 hm'
    obtain rfl : kept = body := heq
    exact hkept
  · exact fun hkept => ⟨_, hparse.2 ⟨body, hkept, rfl⟩, rfl⟩

/-- **A message agrees with its new body** exactly as far as the length does that it declared
before.  It tells the length of the new body if it declared none or the same one; the check that
there is a body is right if it declared none or one that is above zero when there is a body; and the
new body, if it is text, is read again from the text of the message if no other length is declared,
or if it is empty and a length below zero is declared. -/
theorem withBody_consistent (h : parse raw source = .ok m) (body : List UInt8) :
    ((m.withBody body).contentLength = body.length ↔ LengthFits m.headers body) ∧
      (∀ label,
        (MessageCheck.bodyPresent.run (.message (m.withBody body)) label = .ok () ↔ body ≠ []) ↔
          PresenceFits m.headers body) ∧
      ∀ cs, body = Text.Utf8.encode cs → body.length < 10 ^ Text.maxDigits → ∀ source',
        (∃ m', parse (.text (m.withBody body).text) source' = .ok m' ∧ m'.body = body) ↔
          LengthFits m.headers body ∨ DeclaresNegative m.headers ∧ body = [] :=
  ⟨contentLength_withBody_iff h body, passes_bodyPresent_withBody_iff h body,
    fun cs hcs hsize source' => exists_parse_withBody_iff h ⟨cs, hcs⟩ hsize source'⟩

end

/-- A message that declares no length tells that of every new body. -/
theorem withBody_consistent_undeclared : ∃ m : Message,
    parse (.text "OPTIONS sip:a SIP/2.0\r\n\r\nab") .none = .ok m ∧
      (m.withBody [0xff]).contentLength = 1 ∧
      MessageCheck.bodyPresent.run (.message (m.withBody [0xff])) none = .ok () := by
  have hread : parse (.text "OPTIONS sip:a SIP/2.0\r\n\r\nab") .none =
      .ok ⟨.request "OPTIONS" "sip:a", [], [0x61, 0x62], .none⟩ := by
    with_unfolding_all rfl
  obtain ⟨hlength, hpresent, -⟩ := withBody_consistent hread [0xff]
  exact ⟨_, hread, hlength.2 (.inl rfl), ((hpresent none).2 (.inl rfl)).2 (by decide)⟩

/-- A message with a body of one octet: with two, one of them is lost when the message is read
again, and with none the message seems to have a body and cannot be read. -/
theorem withBody_stale_length :
    let m : Message := ⟨.request "OPTIONS" "sip:a", [⟨"Content-Length", "1"⟩], [0x61], .none⟩
    parse (.text "OPTIONS sip:a SIP/2.0\r\nContent-Length: 1\r\n\r\na") .none = .ok m ∧
      (m.withBody [0x61, 0x62]).contentLength = 1 ∧
      parse (.text (m.withBody [0x61, 0x62]).text) .none = .ok m ∧
      MessageCheck.bodyPresent.run (.message (m.withBody [])) none = .ok () ∧
      parse (.text (m.withBody []).text) .none = .error (.bodyTooShort 1 0) := by
  refine ⟨?_, ?_, ?_, ?_, ?_⟩
  all_goals with_unfolding_all rfl

end Message

end SipBench
