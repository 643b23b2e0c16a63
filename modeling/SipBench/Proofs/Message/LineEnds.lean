import SipBench.Proofs.Message.Draft
import SipBench.Proofs.Message.HeadLines
import SipBench.Proofs.Message.Length
import SipBench.Proofs.Text.Lossy

/-!
# Mixed line ends

Every line of a head may end in either style, and so may the empty line that ends the head.  Between
the lines the styles make no difference.  The empty line, however, is looked for together with the
line end in front of it, and is only known in the style of that one.

* `HeadLine`, `MixedHead` : the lines of a head and the styles of their ends
* `MixedHead.meant` : what the lines stand for, whatever their ends
* `MixedHead.outcome` : what is read
* `MixedHead.parse_line_ends` : where the line ends make no difference
-/

namespace SipBench

/-! ### Heads with any line ends -/

/-- A line of a head: it is not empty, and there is no line end in it. -/
structure HeadLine where
  octets : List UInt8
  ne_nil : octets ≠ []
  no_cr : 0x0d ∉ octets
  no_lf : 0x0a ∉ octets

namespace HeadLine

/-- The line as text. -/
def text (l : HeadLine) : List Char := Text.Utf8.decodeLossy l.octets

theorem text_ne_nil (l : HeadLine) : l.text ≠ [] := Text.Utf8.decodeLossy_ne_nil l.ne_nil

theorem isOneLine_text (l : HeadLine) : IsOneLine l.text := by
  refine fun c hc => ⟨?_, ?_⟩
  · rintro rfl
    exact l.no_cr (Text.Utf8.mem_of_mem_decodeLossy (by decide) (by decide) hc)
  · rintro rfl
    exact l.no_lf (Text.Utf8.mem_of_mem_decodeLossy (by decide) (by decide) hc)

theorem fits (l : HeadLine) (style : LineStyle) : style.Fits 0x0d 0x0a l.octets :=
  ⟨l.no_lf, fun _ => l.no_cr⟩

theorem exists_cons (l : HeadLine) (rest : List UInt8) :
    ∃ b bs, l.octets ++ rest = b :: bs ∧ b ≠ 0x0d ∧ b ≠ 0x0a := by
  obtain ⟨b, bs, hl⟩ := List.exists_cons_of_ne_nil l.ne_nil
  refine ⟨b, bs ++ rest, by rw [hl]; rfl, ?_, ?_⟩
  · rintro rfl
    exact l.no_cr (hl ▸ List.mem_cons_self)
  · rintro rfl
    exact l.no_lf (hl ▸ List.mem_cons_self)

end HeadLine

/-- A head in which every line ends in a style of its own: the lines before the last one, the last
one with its end, and the style of the empty line. -/
structure MixedHead where
  before : List (HeadLine × LineStyle)
  last : HeadLine
  lastEnd : LineStyle
  blank : LineStyle

namespace MixedHead

/-- Lines with their ends. -/
def written (lines : List (HeadLine × LineStyle)) : List UInt8 :=
  lines.flatMap fun l => l.1.octets ++ l.2.ending 0x0d 0x0a

/-- The octets of a message with this head. -/
def octets (d : MixedHead) (body : List UInt8) : List UInt8 :=
  written d.before ++ (d.last.octets ++
    (d.lastEnd.ending 0x0d 0x0a ++ (d.blank.ending 0x0d 0x0a ++ body)))

/-- The lines as text, without the last one. -/
def textsBefore (d : MixedHead) : List (List Char) := d.before.map (·.1.text)

/-- The lines as text. -/
def texts (d : MixedHead) : List (List Char) := d.textsBefore ++ [d.last.text]

/-- The message that the lines and the body stand for, whatever the line ends. -/
def meant (d : MixedHead) (body : List UInt8) (source : Value) : Except ParseError Message :=
  Message.ofLines d.texts body source

/-- What is read from a message with this head.  The empty line is looked for together with the line
end in front of it: without a carriage return of its own it leaves that of the last line where it
is, and with one it is not found after a line feed alone, so that the body is read on as head lines
up to the next empty line. -/
def outcome (d : MixedHead) (body : List UInt8) (source : Value) : Except ParseError Message :=
  match d.lastEnd, d.blank with
  | .crlf, .lf => Message.ofLines (d.textsBefore ++ [d.last.text ++ ['\r']]) body source
  | .lf, .crlf =>
    let cut := splitHead 0x0d 0x0a (0x0d :: 0x0a :: body)
    Message.ofLines (d.texts ++ headLines (Text.Utf8.decodeLossy cut.1)) cut.2 source
  | _, _ => d.meant body source

theorem written_cons (l : HeadLine × LineStyle) (lines : List (HeadLine × LineStyle))
    (rest : List UInt8) :
    written (l :: lines) ++ rest =
      l.1.octets ++ (l.2.ending 0x0d 0x0a ++ (written lines ++ rest)) := by
  simp [written]

theorem exists_cons_written (lines : List (HeadLine × LineStyle)) (last : HeadLine)
    (rest : List UInt8) :
    ∃ b bs, written lines ++ (last.octets ++ rest) = b :: bs ∧ b ≠ 0x0d ∧ b ≠ 0x0a := by
  cases lines with
  | nil => exact last.exists_cons rest
  | cons l lines =>
    rw [written_cons]
    exact l.1.exists_cons _

theorem noLineEnd_written (lines : List (HeadLine × LineStyle)) (last : HeadLine)
    (rest : List UInt8) : NoLineEnd 0x0d 0x0a (written lines ++ (last.octets ++ rest)) := by
  obtain ⟨b, bs, hcons, hcr, hlf⟩ := exists_cons_written lines last rest
  rw [hcons]
  refine ⟨fun hbegins => ?_, fun hbegins => ?_⟩
  · exact hlf (List.cons_prefix_cons.1 hbegins).1.symm
  · exact hcr (List.cons_prefix_cons.1 hbegins).1.symm

theorem splitHead_written (lines : List (HeadLine × LineStyle)) (last : HeadLine)
    (style : LineStyle) (rest : List UInt8) :
    splitHead 0x0d 0x0a (written lines ++ (last.octets ++ (style.ending 0x0d 0x0a ++ rest))) =
      (written lines ++ (last.octets ++ (splitHead 0x0d 0x0a (style.ending 0x0d 0x0a ++ rest)).1),
        (splitHead 0x0d 0x0a (style.ending 0x0d 0x0a ++ rest)).2) := by
  induction lines with
  | nil => exact splitHead_line (by decide) (last.fits style) rest
  | cons l lines ih =>
    rw [written_cons, splitHead_line (by decide) (l.1.fits l.2),
      splitHead_ending l.2 (by decide) (noLineEnd_written lines last _), ih, written_cons]

theorem ending_ascii (style : LineStyle) (rest : List UInt8) :
    ∀ b ∈ (style.ending 0x0d 0x0a ++ rest).head?, b.toNat < 0x80 := by
  cases style <;> simp [LineStyle.ending]

theorem decodeLossy_ending (style : LineStyle) (rest : List UInt8) :
    Text.Utf8.decodeLossy (style.ending 0x0d 0x0a ++ rest) =
      style.ending '\r' '\n' ++ Text.Utf8.decodeLossy rest := by
  cases style with
  | crlf =>
    have hlf := Text.Utf8.decodeLossy_cons (b := 0x0a) (by decide) rest
    exact (Text.Utf8.decodeLossy_cons (by decide) _).trans (congrArg _ hlf)
  | lf => exact Text.Utf8.decodeLossy_cons (by decide) rest

theorem headLines_written (lines : List (HeadLine × LineStyle)) (rest : List UInt8) :
    headLines (Text.Utf8.decodeLossy (written lines ++ rest)) =
      lines.map (·.1.text) ++ headLines (Text.Utf8.decodeLossy rest) := by
  induction lines with
  | nil => rfl
  | cons l lines ih =>
    rw [written_cons, Text.Utf8.decodeLossy_append _ (ending_ascii _ _), decodeLossy_ending]
    refine (headLines_line (l.1.isOneLine_text.fits l.2) _).trans ?_
    rw [ih, List.map_cons, List.cons_append]

section

variable {d : MixedHead} {body : List UInt8} {raw : RawMessage}

/-- A message with this head is cut at or after the end of the last line. -/
theorem split (h : raw.bytes = d.octets body) :
    let cut := splitHead 0x0d 0x0a (d.lastEnd.ending 0x0d 0x0a ++
      (d.blank.ending 0x0d 0x0a ++ body))
    raw.split = (Text.Utf8.decodeLossy (written d.before ++ (d.last.octets ++ cut.1)), cut.2) := by
  obtain ⟨b, bs, hcons, hcr, hlf⟩ := exists_cons_written d.before d.last
    (d.lastEnd.ending 0x0d 0x0a ++ (d.blank.ending 0x0d 0x0a ++ body))
  have hdrop : (d.octets body).dropWhile (fun b => b == 0x0d || b == 0x0a) = d.octets body := by
    rw [octets, hcons, List.dropWhile_cons_of_neg (by simp [hcr, hlf])]
  rw [← RawMessage.split_bytes, h]
  simp only [RawMessage.split, hdrop]
  rw [octets, splitHead_written]

/-- What is read from a message with this head, whose last line may have octets behind it. -/
theorem parse_of_cut (h : raw.bytes = d.octets body) {behind rest : List UInt8}
    (hcut : splitHead 0x0d 0x0a (d.lastEnd.ending 0x0d 0x0a ++
      (d.blank.ending 0x0d 0x0a ++ body)) = (behind, rest))
    (hbehind : ∀ b ∈ behind.head?, b.toNat < 0x80) (source : Value) :
    Message.parse raw source = Message.ofLines
      (d.textsBefore ++ headLines (d.last.text ++ Text.Utf8.decodeLossy behind)) rest source := by
  rw [Message.parse, split h, hcut, Message.ofHead_eq_ofLines, headLines_written,
    Text.Utf8.decodeLossy_append _ hbehind]
  rfl

/-- In the style of the last line end, the empty line is found where it is. -/
theorem parse_of_same (hends : d.lastEnd = d.blank) (h : raw.bytes = d.octets body)
    (source : Value) : Message.parse raw source = d.meant body source := by
  have hcut : splitHead 0x0d 0x0a (d.lastEnd.ending 0x0d 0x0a ++
      (d.blank.ending 0x0d 0x0a ++ body)) = ([], body) := by
    rw [hends]
    exact splitHead_of_afterEmptyLine? (afterEmptyLine?_ending (by decide) body)
  have hline : headLines (d.last.text ++ Text.Utf8.decodeLossy []) = [d.last.text] := by
    rw [show Text.Utf8.decodeLossy [] = [] from rfl, List.append_nil]
    exact headLines_of_not_mem fun hmem => (d.last.isOneLine_text _ hmem).2 rfl
  rw [parse_of_cut h hcut nofun, hline]
  rfl

theorem parse_of_crlf_lf (hlast : d.lastEnd = .crlf) (hblank : d.blank = .lf)
    (h : raw.bytes = d.octets body) (source : Value) :
    Message.parse raw source =
      Message.ofLines (d.textsBefore ++ [d.last.text ++ ['\r']]) body source := by
  have hcut : splitHead 0x0d 0x0a (d.lastEnd.ending 0x0d 0x0a ++
      (d.blank.ending 0x0d 0x0a ++ body)) = ([0x0d], body) := by
    rw [hlast, hblank]
    rfl
  have hascii : ∀ b ∈ [(0x0d : UInt8)].head?, b.toNat < 0x80 := by simp
  have hcr : Text.Utf8.decodeLossy [0x0d] = ['\r'] := by decide
  have hline : '\n' ∉ d.last.text ++ ['\r'] := by
    intro hmem
    rcases List.mem_append.1 hmem with hmem | hmem
    · exact (d.last.isOneLine_text _ hmem).2 rfl
    · exact absurd hmem (by decide)
  rw [parse_of_cut h hcut hascii, hcr, headLines_of_not_mem hline]

theorem parse_of_lf_crlf (hlast : d.lastEnd = .lf) (hblank : d.blank = .crlf)
    (h : raw.bytes = d.octets body) (source : Value) :
    let cut := splitHead 0x0d 0x0a (0x0d :: 0x0a :: body)
    Message.parse raw source =
      Message.ofLines (d.texts ++ headLines (Text.Utf8.decodeLossy cut.1)) cut.2 source := by
  intro cut
  have hcut : splitHead 0x0d 0x0a (d.lastEnd.ending 0x0d 0x0a ++
      (d.blank.ending 0x0d 0x0a ++ body)) = (0x0a :: cut.1, cut.2) := by
    rw [hlast, hblank]
    exact splitHead_cons rfl
  have hascii : ∀ b ∈ (0x0a :: cut.1).head?, b.toNat < 0x80 := by simp
  have hline : headLines (d.last.text ++ Text.Utf8.decodeLossy (0x0a :: cut.1)) =
      d.last.text :: headLines (Text.Utf8.decodeLossy cut.1) := by
    rw [Text.Utf8.decodeLossy_cons (by decide)]
    exact headLines_line (d.last.isOneLine_text.fits .lf) _
  rw [parse_of_cut h hcut hascii, hline, texts, List.append_assoc]
  rfl

theorem parse_eq_outcome (h : raw.bytes = d.octets body) (source : Value) :
    Message.parse raw source = d.outcome body source := by
  rw [outcome]
  cases hlast : d.lastEnd <;> cases hblank : d.blank
  · exact parse_of_same (hlast.trans hblank.symm) h source
  · exact parse_of_crlf_lf hlast hblank h source
  · exact parse_of_lf_crlf hlast hblank h source
  · exact parse_of_same (hlast.trans hblank.symm) h source

end

/-! ### Where the line ends make no difference -/

theorem textsBefore_ne_nil (d : MixedHead) : ∀ line ∈ d.textsBefore, line ≠ [] := by
  intro line hline
  obtain ⟨l, -, rfl⟩ := List.mem_map.1 hline
  exact l.1.text_ne_nil

theorem texts_ne_nil (d : MixedHead) : d.texts ≠ [] := by simp [texts]

section

variable {d : MixedHead}

/-- If the carriage return of the last line end is left, it is noticed in a header line that is
refused. -/
theorem outcome_eq_meant_iff_of_crlf (hlast : d.lastEnd = .crlf) (hblank : d.blank = .lf)
    (body : List UInt8) (source : Value) :
    d.outcome body source = d.meant body source ↔ Message.RefusedBefore d.texts ∨
      ¬ Message.RefusedAtEnd d.textsBefore d.last.text := by
  rw [outcome, hlast, hblank]
  exact Message.ofLines_concat_cr_iff d.textsBefore_ne_nil d.last.text_ne_nil body source

/-- If the empty line is not found, some bodies are read as what they are not, unless nothing after
the head is read. -/
theorem outcome_eq_meant_iff_of_lf (hlast : d.lastEnd = .lf) (hblank : d.blank = .crlf) :
    (∀ body source, d.outcome body source = d.meant body source) ↔
      Message.RefusedBefore d.texts := by
  simp only [outcome, hlast, hblank]
  constructor
  · intro h
    by_contra hbefore
    obtain ⟨first, rest, htexts⟩ := List.exists_cons_of_ne_nil d.texts_ne_nil
    rw [htexts] at hbefore
    obtain ⟨line, hline, hne⟩ := Message.exists_ofLines_ne hbefore
    -- there is no empty line in either line, so that all of it is taken for head lines
    have hcut : ∀ line ∈ [['x'], [' ', 'x']],
        splitHead 0x0d 0x0a (0x0d :: 0x0a :: Text.Utf8.encode line) =
          (0x0d :: 0x0a :: Text.Utf8.encode line, []) ∧
        headLines (Text.Utf8.decodeLossy (0x0d :: 0x0a :: Text.Utf8.encode line)) = [[], line] := by
      decide
    have heq := h (Text.Utf8.encode line) .none
    rw [(hcut line hline).1, (hcut line hline).2, meant, htexts] at heq
    exact hne _ _ _ heq
  · intro hbefore body source
    exact hbefore.ofLines_append d.texts_ne_nil _ _ body source

theorem outcome_eq_meant_iff (d : MixedHead) :
    (∀ body source, d.outcome body source = d.meant body source) ↔
      d.lastEnd = d.blank ∨ Message.RefusedBefore d.texts ∨
        d.blank = .lf ∧ ¬ Message.RefusedAtEnd d.textsBefore d.last.text := by
  cases hlast : d.lastEnd <;> cases hblank : d.blank
  · exact iff_of_true (by simp [outcome, hlast, hblank]) (.inl rfl)
  · simp only [outcome_eq_meant_iff_of_crlf hlast hblank]
    simp
  · rw [outcome_eq_meant_iff_of_lf hlast hblank]
    simp
  · exact iff_of_true (by simp [outcome, hlast, hblank]) (.inl rfl)

end

/-- **What line ends do.**  A message whose head has any line ends is read as `outcome` tells.  That
is what its lines and its body stand for, whatever the body, exactly in three cases: the last line
and the empty line end in the same style, whatever the other lines do; the message is refused for
what stands before the last header line; or the empty line has no carriage return and the last line
is not refused as a header line of its own. -/
theorem parse_line_ends (d : MixedHead) :
    (∀ body raw source, raw.bytes = d.octets body →
      Message.parse raw source = d.outcome body source) ∧
    ((∀ body source, d.outcome body source = d.meant body source) ↔
      d.lastEnd = d.blank ∨ Message.RefusedBefore d.texts ∨
        d.blank = .lf ∧ ¬ Message.RefusedAtEnd d.textsBefore d.last.text) :=
  ⟨fun _ _ source h => parse_eq_outcome h source, outcome_eq_meant_iff d⟩

/-- The body is read as a header line if the empty line is not found, and the carriage return in
front of an empty line is shown as a part of the last header line. -/
theorem parse_mixed_line_ends :
    let m : Message := ⟨.request "OPTIONS" "sip:a", [⟨"Via", "x"⟩], [0x62], .none⟩
    Message.parse (.text "OPTIONS sip:a SIP/2.0\r\nVia: x\r\n\r\nb") .none = .ok m ∧
      Message.parse (.text "OPTIONS sip:a SIP/2.0\nVia: x\n\nb") .none = .ok m ∧
      Message.parse (.text "OPTIONS sip:a SIP/2.0\nVia: x\n\r\nb") .none =
        .error (.malformedHeader "b") ∧
      Message.parse (.text "OPTIONS sip:a SIP/2.0\r\nVia x\r\n\r\nb") .none =
        .error (.malformedHeader "Via x") ∧
      Message.parse (.text "OPTIONS sip:a SIP/2.0\r\nVia x\r\n\nb") .none =
        .error (.malformedHeader "Via x\r") := by
  refine ⟨?_, ?_, ?_, ?_, ?_⟩
  all_goals with_unfolding_all rfl

end MixedHead

end SipBench
