import SipBench.Proofs.Message.RoundTrip

/-!
# Reading the lines of a head

What is read from lines, and what is left of it when more lines follow.  A line that is refused is
refused at once: what follows it is not looked at, unless it continues the line.

* `Message.ofLines` : the message with the given lines in its head
* `Message.RefusedBefore`, `Message.RefusedAtEnd` : where lines are refused
* `Message.RefusedBefore.ofLines_append` : nothing that follows is looked at
* `Message.ofLines_concat_cr_iff` : a carriage return at the end
* `Message.exists_ofLines_ne` : one more line
-/

namespace SipBench

/-! ### Header lines that are continued -/

theorem Header.parse_refused {line more : List Char} {e : ParseError}
    (h : Header.parse line = .error e) (hmore : ':' ∉ more) :
    Header.parse (line ++ more) = .error (.malformedHeader (String.ofList (line ++ more))) := by
  by_cases hcolon : ':' ∈ line
  · obtain ⟨name, value, rfl, hname⟩ := List.eq_append_cons_of_mem hcolon
    rw [Header.parse_append hname] at h
    split_ifs at h with hblank
    rw [List.append_assoc, List.cons_append, Header.parse_append hname, if_pos hblank]
  · refine Header.parse_of_not_mem fun hmem => ?_
    rcases List.mem_append.1 hmem with hmem | hmem
    · exact hcolon hmem
    · exact hmore hmem

theorem Header.parse_eq_error {line : List Char} {e : ParseError}
    (h : Header.parse line = .error e) : e = .malformedHeader (String.ofList line) := by
  have hrefused := Header.parse_refused h (List.not_mem_nil (a := ':'))
  rw [List.append_nil, h] at hrefused
  exact Except.error.inj hrefused

theorem Header.parse_append_blank {line : List Char} {h : Header} {c : Char}
    (hparse : Header.parse line = .ok h) (hc : Text.isBlank c = true) :
    Header.parse (line ++ [c]) = .ok h := by
  obtain ⟨name, value, rfl, hname, hne, -⟩ := Header.parse_eq_ok hparse
  rw [Header.parse_append hname, if_neg hne] at hparse
  rw [List.append_assoc, List.cons_append, Header.parse_append hname, if_neg hne, ← hparse]
  simp only [Message.Header.canonical, Text.trimmed, String.toList_ofList,
    Text.trim_append_blank hc]

/-! ### Reading lines -/

namespace Message

/-- The message with the given lines in its head and the given octets after it. -/
def ofLines (lines : List (List Char)) (body : List UInt8) (source : Value) :
    Except ParseError Message := do
  let start ← StartLine.parse (Text.trim (lines.headD []))
  let headers ← (unfold lines.tail).mapM Header.parse
  return ⟨start, headers, ← declaredBody headers body, source⟩

theorem ofHead_eq_ofLines (head : List Char) (body : List UInt8) (source : Value) :
    ofHead head body source = ofLines (headLines head) body source :=
  rfl

/-- The first line, or a header line before the last one, is refused. -/
def RefusedBefore (lines : List (List Char)) : Prop :=
  (∃ e, StartLine.parse (Text.trim (lines.headD [])) = .error e) ∨
    ∃ line ∈ (unfold lines.tail).dropLast, ∃ e, Header.parse line = .error e

/-- The last line is a header line of its own, and it is refused. -/
structure RefusedAtEnd (lines : List (List Char)) (last : List Char) : Prop where
  header : lines ≠ []
  own : lines.length = 1 ∨ isContinuation last = false
  refused : ∃ e, Header.parse last = .error e

section

variable {first last : List Char} {rest before : List (List Char)}

theorem exists_of_not_refusedBefore (h : ¬ RefusedBefore (first :: rest)) :
    ∃ start headers, StartLine.parse (Text.trim first) = .ok start ∧
      (unfold rest).dropLast.mapM Header.parse = .ok headers := by
  simp only [RefusedBefore, List.headD_cons, List.tail_cons, not_or, not_exists, not_and] at h
  have hlines : ∀ line ∈ (unfold rest).dropLast, ∃ header, Header.parse line = .ok header := by
    intro line hline
    cases hparse : Header.parse line with
    | error e => exact absurd hparse (h.2 line hline e)
    | ok header => exact ⟨header, rfl⟩
  obtain ⟨headers, hheaders⟩ := exists_mapM_eq_ok_iff.2 hlines
  cases hstart : StartLine.parse (Text.trim first) with
  | error e => exact absurd hstart (h.1 e)
  | ok start => exact ⟨start, headers, rfl, hheaders⟩

/-- What is refused in the first line or in a header line is refused whatever follows. -/
theorem exists_ofLines_eq_error (h : (∃ e, StartLine.parse (Text.trim first) = .error e) ∨
    ∃ line ∈ before, ∃ e, Header.parse line = .error e) :
    ∃ e, ∀ rest, before <+: unfold rest → ∀ body source,
      ofLines (first :: rest) body source = .error e := by
  cases hstart : StartLine.parse (Text.trim first) with
  | error e =>
    refine ⟨e, fun rest _ body source => ?_⟩
    rw [ofLines, List.headD_cons, hstart]
    rfl
  | ok start =>
    rcases h with ⟨e, hrefused⟩ | ⟨line, hline, e, hrefused⟩
    · rw [hstart] at hrefused
      cases hrefused
    cases hbefore : before.mapM Header.parse with
    | ok headers =>
      obtain ⟨header, hread⟩ := exists_mapM_eq_ok_iff.1 ⟨headers, hbefore⟩ line hline
      rw [hrefused] at hread
      cases hread
    | error e =>
      refine ⟨e, fun rest hprefix body source => ?_⟩
      obtain ⟨behind, hbehind⟩ := hprefix
      rw [ofLines, List.headD_cons, List.tail_cons, hstart, ← hbehind, mapM_append_of_error hbefore]
      rfl

/-- What is refused before the last header line is refused whatever follows. -/
theorem RefusedBefore.ofLines_append {lines : List (List Char)} (h : RefusedBefore lines)
    (hne : lines ≠ []) (more : List (List Char)) (body body' : List UInt8) (source : Value) :
    ofLines (lines ++ more) body source = ofLines lines body' source := by
  obtain ⟨first, rest, rfl⟩ := List.exists_cons_of_ne_nil hne
  rw [RefusedBefore, List.headD_cons, List.tail_cons] at h
  obtain ⟨e, hrefused⟩ := exists_ofLines_eq_error h
  have hinit := List.dropLast_prefix (unfold rest)
  rw [List.cons_append, hrefused _ (isPrefix_unfold_append rest more), hrefused _ hinit]

theorem ofLines_congr {rest' : List (List Char)}
    (h : (unfold rest).mapM Header.parse = (unfold rest').mapM Header.parse)
    (body : List UInt8) (source : Value) :
    ofLines (first :: rest) body source = ofLines (first :: rest') body source := by
  simp only [ofLines, List.headD_cons, List.tail_cons, h]

theorem ofLines_refused {start : StartLine} {headers : List Header} {e : ParseError}
    (hstart : StartLine.parse (Text.trim first) = .ok start)
    (hbefore : before.mapM Header.parse = .ok headers) (hrest : unfold rest = before ++ [last])
    (hlast : Header.parse last = .error e) (body : List UInt8) (source : Value) :
    ofLines (first :: rest) body source = .error e := by
  rw [ofLines, List.headD_cons, List.tail_cons, hstart, hrest, List.mapM_append, hbefore,
    List.mapM_cons, hlast]
  rfl

/-- Only the declared length can be refused when all lines are read. -/
theorem ofLines_ne_malformedHeader {start : StartLine} {headers : List Header}
    (hstart : StartLine.parse (Text.trim first) = .ok start)
    (hheaders : (unfold rest).mapM Header.parse = .ok headers) (line : String)
    (body : List UInt8) (source : Value) :
    ofLines (first :: rest) body source ≠ .error (.malformedHeader line) := by
  intro h
  rw [ofLines, List.headD_cons, List.tail_cons, hstart, hheaders] at h
  rcases bind_eq_error.1 (show declaredBody headers body >>= _ = _ from h) with
    hbody | ⟨_, -, hkept⟩
  · unfold declaredBody at hbody
    split at hbody
    · cases hbody
    · split at hbody
      · cases hbody
      · split_ifs at hbody
        cases hbody
  · cases hkept

/-- A carriage return behind a header line is noticed only if that line is refused. -/
theorem ofLines_concat_cr_iff_of_own (hlast : last ≠ [])
    (hown : unfold rest = [] ∨ isContinuation last = false) (body : List UInt8) (source : Value) :
    ofLines (first :: (rest ++ [last ++ ['\r']])) body source =
        ofLines (first :: (rest ++ [last])) body source ↔
      RefusedBefore (first :: (rest ++ [last])) ∨ ¬ ∃ e, Header.parse last = .error e := by
  have hlf := unfold_concat_own hlast hown
  have hcr := @unfold_concat_own rest (last ++ ['\r']) (by simp)
    (by rwa [isContinuation_append hlast])
  cases hparse : Header.parse last with
  | ok header =>
    have hread := Header.parse_append_blank hparse (c := '\r') (by decide)
    refine iff_of_true (ofLines_congr ?_ body source) (.inr fun ⟨e, he⟩ => nomatch he)
    rw [hlf, hcr, List.mapM_append, List.mapM_append, List.mapM_cons, List.mapM_cons, hparse, hread]
  | error e =>
    have hdrop : (unfold (rest ++ [last])).dropLast = unfold rest := by
      rw [hlf, List.dropLast_concat]
    by_cases hbefore : RefusedBefore (first :: (rest ++ [last]))
    · refine iff_of_true ?_ (.inl hbefore)
      rw [RefusedBefore, List.headD_cons, List.tail_cons, hdrop] at hbefore
      obtain ⟨e', hrefused⟩ := exists_ofLines_eq_error hbefore
      rw [hrefused _ (hcr ▸ List.prefix_append _ _), hrefused _ (hlf ▸ List.prefix_append _ _)]
    · refine iff_of_false (fun heq => ?_) ?_
      · obtain ⟨start, headers, hstart, hheaders⟩ := exists_of_not_refusedBefore hbefore
        rw [hdrop] at hheaders
        rw [ofLines_refused hstart hheaders hcr (Header.parse_refused hparse (by decide)),
          ofLines_refused hstart hheaders hlf hparse, Header.parse_eq_error hparse] at heq
        have hline :=
          String.ofList_injective (ParseError.malformedHeader.inj (Except.error.inj heq))
        simp at hline
      · exact not_or.2 ⟨hbefore, fun hnot => hnot ⟨e, rfl⟩⟩

/-- A carriage return behind the last line is noticed only where that line is a header line of its
own and is refused. -/
theorem ofLines_concat_cr_iff {lines : List (List Char)} (hlines : ∀ line ∈ lines, line ≠ [])
    (hlast : last ≠ []) (body : List UInt8) (source : Value) :
    ofLines (lines ++ [last ++ ['\r']]) body source = ofLines (lines ++ [last]) body source ↔
      RefusedBefore (lines ++ [last]) ∨ ¬ RefusedAtEnd lines last := by
  cases lines with
  | nil =>
    have htrim : Text.trim (last ++ ['\r']) = Text.trim last :=
      Text.trim_append_blank (by decide) last
    refine iff_of_true ?_ (.inr fun h => h.header rfl)
    simp only [ofLines, List.nil_append, List.headD_cons, htrim, List.tail_cons]
  | cons first rest =>
    rw [List.cons_append, List.cons_append]
    by_cases hown : unfold rest = [] ∨ isContinuation last = false
    · rw [ofLines_concat_cr_iff_of_own hlast hown]
      refine or_congr_right (not_congr
        ⟨fun hrefused => ⟨by simp, ?_, hrefused⟩, RefusedAtEnd.refused⟩)
      refine hown.imp_left fun hnil => ?_
      -- a line that is not empty would have been kept
      rcases List.eq_nil_or_concat rest with rfl | ⟨before, line, rfl⟩
      · rfl
      · rw [List.concat_eq_append] at hnil hlines
        exact absurd hnil (unfold_concat_ne_nil before (hlines line (by simp)))
    · obtain ⟨hrest, hcontinues⟩ := not_or.1 hown
      obtain ⟨before, line, hunfold⟩ := (List.eq_nil_or_concat (unfold rest)).resolve_left hrest
      rw [List.concat_eq_append] at hunfold
      rw [Bool.not_eq_false] at hcontinues
      -- a continuation is trimmed before it is joined
      have hcr := unfold_concat_continuation hunfold
        ((isContinuation_append hlast ['\r']).trans hcontinues)
      rw [Text.trim_append_blank (by decide),
        ← unfold_concat_continuation hunfold hcontinues] at hcr
      refine iff_of_true (ofLines_congr (by rw [hcr]) body source) (.inr fun h => hown ?_)
      rcases h.own with hlength | hline
      · exact .inl (by rw [List.length_eq_zero_iff.1 (Nat.succ.inj hlength)]; rfl)
      · exact .inr hline

/-- An empty line and one more line do make a difference, if what comes before is read: the line is
refused, or continues one that is refused. -/
theorem exists_ofLines_ne (h : ¬ RefusedBefore (first :: rest)) :
    ∃ line ∈ [['x'], [' ', 'x']], ∀ body body' source,
      ofLines (first :: (rest ++ [[], line])) body source ≠
        ofLines (first :: rest) body' source := by
  obtain ⟨start, headers, hstart, hheaders⟩ := exists_of_not_refusedBefore h
  have hempty (line : List Char) :
      unfold (rest ++ [[], line]) = unfold ((rest ++ [[]]) ++ [line]) := by
    rw [List.append_assoc]
    rfl
  by_cases hread : ∃ all, (unfold rest).mapM Header.parse = .ok all
  · obtain ⟨all, hall⟩ := hread
    refine ⟨['x'], by simp, fun body body' source heq => ?_⟩
    have hmore : unfold (rest ++ [[], ['x']]) = unfold rest ++ [['x']] := by
      rw [hempty, unfold_concat_own (by simp) (.inr rfl), unfold_concat_nil]
    rw [ofLines_refused hstart hall hmore (Header.parse_of_not_mem (by decide))] at heq
    exact ofLines_ne_malformedHeader hstart hall _ body' source heq.symm
  · refine ⟨[' ', 'x'], by simp, fun body body' source heq => ?_⟩
    rcases List.eq_nil_or_concat (unfold rest) with hnil | ⟨before, last, hunfold⟩
    · exact hread ⟨[], by rw [hnil]; rfl⟩
    rw [List.concat_eq_append] at hunfold
    rw [hunfold, List.dropLast_concat] at hheaders
    cases hparse : Header.parse last with
    | ok header =>
      refine hread ⟨headers ++ [header], ?_⟩
      rw [hunfold, List.mapM_append, hheaders, List.mapM_cons, hparse]
      rfl
    | error e =>
      have hmore : unfold (rest ++ [[], [' ', 'x']]) = before ++ [last ++ [' ', 'x']] := by
        have hnil : unfold (rest ++ [[]]) = before ++ [last] := by rw [unfold_concat_nil, hunfold]
        have htrim : Text.trim [' ', 'x'] = ['x'] := by decide
        rw [hempty, unfold_concat_continuation hnil rfl, htrim]
      rw [ofLines_refused hstart hheaders hmore (Header.parse_refused hparse (by decide)),
        ofLines_refused hstart hheaders hunfold hparse, Header.parse_eq_error hparse] at heq
      have hline := String.ofList_injective (ParseError.malformedHeader.inj (Except.error.inj heq))
      simp at hline

end

end Message

end SipBench
