import SipBench.Proofs.Await.Nested
import SipBench.Proofs.Bench.Loggers
import SipBench.Proofs.Value

/-!
# Records of the audit trail

Every entry of the audit trail is one record of the log.  Its text is put together from its fields,
and a value that is a text is shown as it is.  So a record is one line exactly if the names and the
texts that it shows are.

* `Audit.isOneLine_line_iff` : when an entry is one line
* `Audit.isOpen_configure` : a set-up opens the audit trail
* `Audit.lines_logAll_entry` : an entry is one record
* `Await.run_noted` : an await ends with the note about its outcome
* `Await.Ending.isOneLine_note_iff` : when that note is one line
* `Audit.record_isOneLine_iff` : what a script and its awaits write
-/

namespace SipBench

/-! ### Fields -/

namespace Audit

/-- A field whose name and value are shown on one line: only a text may have several. -/
def IsOneLineField (field : String × Value) : Prop :=
  IsOneLine field.1.toList ∧ ∀ text, field.2 = .text text → IsOneLine text.toList

variable {fields : Fields} {event name : String} {value : Value}

theorem isOneLine_pair_iff :
    IsOneLine s!"{name}={value.shown}".toList ↔ IsOneLineField (name, value) := by
  simp [IsOneLineField, Value.isOneLine_shown_iff, toString]

theorem isOneLine_fieldText_iff :
    IsOneLine (fieldText name value).toList ↔ IsOneLineField (name, value) := by
  unfold fieldText
  split
  · rename_i n
    simp [IsOneLineField, Double.isOneLine_fixed, toString]
  · exact isOneLine_pair_iff

theorem lookup_eq_some_iff (hnodup : (fields.map Prod.fst).Nodup) :
    fields.lookup name = some value ↔ (name, value) ∈ fields := by
  constructor
  · intro h
    obtain ⟨before, after, rfl, -⟩ := List.lookup_eq_some_iff.1 h
    simp
  · intro h
    obtain ⟨before, after, rfl⟩ := List.append_of_mem h
    refine List.lookup_eq_some_iff.2 ⟨before, after, rfl, fun field hfield => ?_⟩
    rw [List.map_append, List.nodup_append] at hnodup
    have hne := hnodup.2.2 field.1 (List.mem_map_of_mem hfield) name (by simp)
    simpa using hne.symm

theorem mem_written_iff (hnodup : (fields.map Prod.fst).Nodup) {field : String × Value} :
    field ∈ written fields ↔ field ∈ fields ∧ field.1 ≠ "timestamp" := by
  have hleading : field ∈ leading.filterMap (fun name => (fields.lookup name).map (name, ·)) ↔
      field ∈ fields ∧ field.1 ∈ leading := by
    simp only [List.mem_filterMap, Option.map_eq_some_iff, lookup_eq_some_iff hnodup]
    constructor
    · rintro ⟨name, hname, value, hfield, rfl⟩
      exact ⟨hfield, hname⟩
    · rintro ⟨hfield, hname⟩
      exact ⟨field.1, hname, field.2, hfield, rfl⟩
  rw [written, List.mem_append, hleading, List.mem_filter, Bool.and_eq_true, bne_iff_ne,
    Bool.not_eq_true', ← Bool.not_eq_true, List.contains_iff_mem]
  by_cases hmem : field.1 ∈ leading
  · have hname : field.1 ≠ "timestamp" := by
      rintro heq
      rw [heq] at hmem
      exact absurd hmem (by decide)
    simp [hmem, hname]
  · simp [hmem]

/-- A correlation id that is made up stays on the line. -/
theorem isOneLine_withCorrelation_iff :
    (∀ field ∈ withCorrelation fields, field.1 ≠ "timestamp" → IsOneLineField field) ↔
      ∀ field ∈ fields, field.1 ≠ "timestamp" → IsOneLineField field := by
  unfold withCorrelation
  split_ifs
  · rfl
  · refine List.forall_mem_append.trans (and_iff_left ?_)
    rintro _ hfield -
    cases List.mem_singleton.1 hfield
    refine ⟨by decide, ?_⟩
    rintro _ ⟨⟩
    decide

theorem nodup_append_new (hnodup : (fields.map Prod.fst).Nodup)
    (hnew : (fields.lookup name).isSome = false) :
    ((fields ++ [(name, value)]).map Prod.fst).Nodup := by
  rw [List.map_append, List.nodup_append]
  refine ⟨hnodup, by simp, ?_⟩
  rintro _ hfirst _ hsecond rfl
  obtain ⟨⟨name, value⟩, hfield, rfl⟩ := List.mem_map.1 hfirst
  cases List.mem_singleton.1 hsecond
  rw [(lookup_eq_some_iff hnodup).2 hfield] at hnew
  cases hnew

theorem nodup_withCorrelation (hnodup : (fields.map Prod.fst).Nodup) :
    ((withCorrelation fields).map Prod.fst).Nodup := by
  unfold withCorrelation
  split_ifs with h
  · exact hnodup
  · exact nodup_append_new hnodup (Bool.eq_false_iff.2 h)

/-- **An entry is one line** exactly if its event and all names and texts that it shows are. -/
theorem isOneLine_line_iff (hnodup : (fields.map Prod.fst).Nodup) :
    IsOneLine (line event fields).toList ↔ IsOneLine event.toList ∧
      ∀ field ∈ fields, field.1 ≠ "timestamp" → IsOneLineField field := by
  rw [line, String.toList_intercalate, isOneLine_intercalate (by decide), List.forall_mem_map,
    List.forall_mem_cons, List.forall_mem_map]
  simp only [isOneLine_fieldText_iff, mem_written_iff (nodup_withCorrelation hnodup), and_imp]
  rw [isOneLine_withCorrelation_iff]
  simp [toString]

/-! ### Records -/

/-- The logger of the audit trail. -/
def logger : String := "sip_test_util.logging_audit.audit"

@[simp]
theorem entry_logger (event : String) (fields : Fields) : (entry event fields).logger = logger :=
  rfl

@[simp]
theorem entry_message (event : String) (fields : Fields) :
    (entry event fields).message = line event fields := rfl

end Audit

/-- A log entry of the library as a record. -/
def LogEntry.record (e : LogEntry) : LogLine := ⟨e.level.name, e.logger, e.message⟩

theorem Level.nameOfNumber_number (level : Level) : nameOfNumber level.number = level.name := by
  cases level <;> rfl

namespace Bench

theorem lines_logAll {b : Bench} {e : LogEntry} (hown : Desk.isOwn e.logger = true)
    (hlevel : b.desk.effectiveLevel e.logger ≤ e.level.number) :
    (b.logAll [e]).lines = e.record :: b.lines := by
  have hthrough : b.lineOf? e.raw = some e.record := by
    -- the text of an entry of the library comes without values, so that no place is filled
    rw [lineOf?, if_pos (by simpa [LogEntry.raw, hown] using hlevel)]
    simp only [LogEntry.raw, Template.fill, List.isEmpty_nil, if_true, Level.nameOfNumber_number]
    rfl
  show (b.lineOf? e.raw).toList ++ b.lines = _
  rw [hthrough]
  rfl

end Bench

namespace Audit

/-- The loggers let the entries of the audit trail through. -/
def IsOpen (d : Desk) : Prop := d.LetsThrough logger Level.info.number

/-- Whatever a script does, the audit trail stays open. -/
theorem isOpen_invariant : Desk.Invariant IsOpen :=
  Desk.letsThrough_invariant (by decide) (by decide)

/-- A set-up opens the audit trail, unless a logger was given a level above that of the entries. -/
theorem isOpen_configure {d : Desk} {files : Files} {request : LogRequest}
    {environment : Option String}
    (h : (d.configure Files.access files request environment).1 = .ok ())
    (hown : ∀ logger, d.ownLevel logger ≤ Level.info.number) :
    IsOpen (d.configure Files.access files request environment).2.1 :=
  Desk.letsThrough_configure h hown (by decide) logger

theorem lines_logAll_entry {b : Bench} (hb : IsOpen b.desk) (event : String) (fields : Fields) :
    (b.logAll [entry event fields]).lines = (entry event fields).record :: b.lines := by
  have hown : Desk.isOwn logger = true := by decide
  have hlevel : Level.info.number ≤ (entry event fields).level.number := by
    show Level.info.number ≤ (if isFailure fields then Level.error else .info).number
    split_ifs <;> decide
  exact Bench.lines_logAll hown (hb.trans hlevel)

end Audit

/-! ### The step -/

theorem nodup_setField {fields : Audit.Fields} (hnodup : (fields.map Prod.fst).Nodup)
    (name : String) (value : Value) : ((Json.setField fields name value).map Prod.fst).Nodup := by
  unfold Json.setField
  split_ifs with hthere
  · have hnames : (fields.map fun f => if f.1 == name then (name, value) else f).map Prod.fst =
        fields.map Prod.fst := by
      rw [List.map_map]
      refine List.map_congr_left fun f _ => ?_
      by_cases hf : f.1 = name <;> simp [hf]
    rwa [hnames]
  · exact Audit.nodup_append_new hnodup (Bool.eq_false_iff.2 hthere)

theorem LogStep.nodup_detailsOf (details : List (String × Value)) :
    ((detailsOf details).map Prod.fst).Nodup :=
  List.foldlRecOn (motive := fun fields : Audit.Fields => (fields.map Prod.fst).Nodup) details _
    List.nodup_nil fun _ hnodup d _ => nodup_setField hnodup d.1 d.2

/-- A step on the audit trail writes one record and answers with it, unless there is a field that
cannot be written. -/
theorem Session.run_audit {s : Session} (hs : Audit.IsOpen s.state.desk) (event : String)
    (details : List (String × Value)) :
    let fields := LogStep.detailsOf details
    let record := (Audit.entry event fields).record
    let (outcome, after) := (Step.log (.audit event details)).run s
    match Audit.refusal? fields with
    | some fault => outcome.result = .error fault ∧ after.state.lines = s.state.lines
    | none =>
      outcome.result = .ok (.audited [record]) ∧ after.state.lines = record :: s.state.lines := by
  intro fields record
  have hlines := Audit.lines_logAll_entry hs event fields
  rw [Step.run, Step.maxDepth, Step.runWithin]
  simp only [plainly, act, LogStep.run, fields]
  cases Audit.refusal? (LogStep.detailsOf details) with
  | some fault => exact ⟨rfl, rfl⟩
  | none =>
    refine ⟨?_, hlines⟩
    have hgained : gained (record :: s.state.lines) s.state.lines.length = [record] := by
      simp [gained]
    rw [← hgained, ← hlines]
    rfl

/-! ### Awaits -/

namespace Await

/-- The texts that the outcome of an await shows beside its description. -/
def Ending.texts {τ α : Type} : Ending τ α → List String
  | .failed f => f.kind.name :: f.message :: (f.cause?.map fun c => [c.1, c.2]).getD []
  | _ => []

variable {σ α : Type} {world : World σ Number} {P : σ → Prop}

/-- The rounds of an await end with the note about its outcome. -/
theorem poll_noted (h : world.Keeps P) {condition : Condition σ α}
    (hcondition : ∀ s, P s → P (condition s).2) (interval start deadline : Number)
    (fuel attempts : ℕ) {s : σ} (hs : P s) :
    let ended := poll world interval condition start deadline fuel attempts s
    ∃ duration count, ∀ note ∈ ended.1.note? duration count,
      ∃ before, P before ∧ ended.2 = world.note note before := by
  induction fuel generalizing attempts s with
  | zero =>
    refine ⟨start, attempts, fun note hnote => ?_⟩
    cases hnote
  | succ fuel ih =>
    have hafter := hcondition s hs
    rw [poll]
    simp only
    cases hverdict : Verdict.of (condition s).1 with
    | holds value =>
      refine ⟨(world.now (condition s).2).1 - start, attempts + 1, ?_⟩
      rintro _ ⟨⟩
      exact ⟨_, h.now _ hafter, rfl⟩
    | ended fault =>
      refine ⟨(world.now (condition s).2).1 - start, attempts + 1, ?_⟩
      by_cases hfault : fault.severity = .interruption
      · simp only [failed, if_pos hfault, Ending.note?]
        rintro _ ⟨⟩
      · simp only [failed, if_neg hfault, Ending.note?, elapsed]
        rintro _ ⟨⟩
        exact ⟨_, h.now _ hafter, rfl⟩
    | notYet last =>
      have hnow := h.now _ (noteNotYet_keeps h (attempts + 1) last hafter)
      simp only
      split_ifs
      -- the deadline has passed, or the rounds go on after a sleep
      · refine ⟨(world.now (world.now (noteNotYet world (attempts + 1) last (condition s).2)).2).1 -
          start, attempts + 1, ?_⟩
        rintro _ ⟨⟩
        exact ⟨_, h.now _ hnow, rfl⟩
      · exact ih (attempts + 1) (h.sleep _ _ hnow)

/-- So does the whole await. -/
theorem run_noted (h : world.Keeps P) {condition : Condition σ α}
    (hcondition : ∀ s, P s → P (condition s).2) (fuel : ℕ) (polling : Polling Number) {s : σ}
    (hs : P s) :
    let ended := run world fuel polling condition s
    ∃ duration count, ∀ note ∈ ended.1.note? duration count,
      ∃ before, P before ∧ ended.2 = world.note note before :=
  poll_noted h hcondition _ _ _ _ _ (h.note _ _ (h.now _ hs))

theorem isOneLine_outcomeFields_iff {status : String} (hstatus : IsOneLine status.toList)
    (what : Value) (duration : Number) (count : ℕ) :
    (∀ field ∈ outcomeFields status what duration count, field.1 ≠ "timestamp" →
        Audit.IsOneLineField field) ↔ ∀ text, what = .text text → IsOneLine text.toList := by
  have hnames : ∀ name ∈ ["status", "description", "duration", "attempts"],
      IsOneLine name.toList ∧ name ≠ "timestamp" := by decide
  simp only [List.forall_mem_cons] at hnames
  simp [outcomeFields, durationField, Audit.IsOneLineField, hnames, hstatus]

theorem isOneLine_diagnosisFields_iff (d : Diagnosis) :
    (∀ field ∈ diagnosisFields d, field.1 ≠ "timestamp" → Audit.IsOneLineField field) ↔
      (IsOneLine d.kind.toList ∧ IsOneLine d.message.toList) ∧ IsOneLine d.category.toList ∧
        ∀ text ∈ d.details, IsOneLine text.toList := by
  have hnames : ∀ name ∈ ["error_message", "category", "technical_details"],
      IsOneLine name.toList ∧ name ≠ "timestamp" := by decide
  simp only [List.forall_mem_cons] at hnames
  cases hdetails : d.details <;>
    simp [diagnosisFields, Audit.IsOneLineField, hnames, hdetails]

theorem isOneLine_details_iff (f : Fault) :
    (∀ text ∈ f.diagnosis.details, IsOneLine text.toList) ↔
      ∀ c ∈ f.cause?, IsOneLine c.1.toList ∧ IsOneLine c.2.toList := by
  cases hcause : f.cause? <;> simp [Fault.diagnosis, hcause, toString]

theorem isOneLine_category (f : Fault) : IsOneLine f.diagnosis.category.toList := by
  cases hretry : f.kind.isRetryable <;> simp [Fault.diagnosis, hretry]

theorem isOneLine_texts_iff (f : Fault) :
    (∀ text ∈ (Ending.failed f : Ending Number α).texts, IsOneLine text.toList) ↔
      (IsOneLine f.kind.name.toList ∧ IsOneLine f.message.toList) ∧
        ∀ c ∈ f.cause?, IsOneLine c.1.toList ∧ IsOneLine c.2.toList := by
  cases hcause : f.cause? <;> simp [Ending.texts, hcause, and_assoc]

theorem nodup_failedFields (status : String) (what : Value) (duration : Number) (count : ℕ)
    (d : Diagnosis) :
    ((outcomeFields status what duration count ++ diagnosisFields d).map Prod.fst).Nodup := by
  cases hdetails : d.details <;> simp [outcomeFields, durationField, diagnosisFields, hdetails]

/-- **What the outcome of an await shows**: its description and, after a fault, the kind and the
wording of the fault and of what is behind it. -/
theorem Ending.isOneLine_note_iff {ending : Ending Number α} {note : Note Number}
    {duration : Number} {count : ℕ} (h : note ∈ ending.note? duration count) (what : Value) :
    IsOneLine (note.entry what).message.toList ↔
      (∀ text, what = .text text → IsOneLine text.toList) ∧
        ∀ text ∈ ending.texts, IsOneLine text.toList := by
  have houtcome (event status : String) (hevent : IsOneLine event.toList)
      (hstatus : IsOneLine status.toList) :
      IsOneLine (Audit.line event (outcomeFields status what duration count)).toList ↔
        ∀ text, what = .text text → IsOneLine text.toList := by
    rw [Audit.isOneLine_line_iff (by simp [outcomeFields, durationField]),
      isOneLine_outcomeFields_iff hstatus, and_iff_right hevent]
  cases ending with
  | satisfied value =>
    cases h
    refine (houtcome _ _ (by decide) (by decide)).trans (and_iff_left ?_).symm
    exact nofun
  | timedOut elapsed attempts last =>
    cases h
    refine (houtcome _ _ (by decide) (by decide)).trans (and_iff_left ?_).symm
    exact nofun
  | failed f =>
    obtain rfl : .failed duration count f = note := by
      simp only [note?] at h
      split_ifs at h
      · cases h
      · exact Option.some.inj h
    rw [Note.entry, Audit.entry_message, Audit.isOneLine_line_iff (nodup_failedFields ..),
      List.forall_mem_append, isOneLine_outcomeFields_iff (by decide), and_iff_right (by decide),
      isOneLine_diagnosisFields_iff, isOneLine_texts_iff, isOneLine_details_iff,
      and_iff_right (isOneLine_category f)]
    rfl
  | unfinished => cases h

/-- The report on flawed settings, which the library itself gives, is never one line. -/
theorem not_isOneLine_flawed {e : Config.Error} {issues : List Config.Issue}
    (h : e.issues? = some issues) : ¬ IsOneLine (Fault.configuration e).message.toList := by
  have hbreak : '\n' ∈ (Fault.configuration e).message.toList := by
    cases e with
    | invalid path issues report =>
      have hbegins : ∃ rest, (Fault.configuration (.invalid path issues report)).message =
          "Configuration validation failed:\n" ++ report ++ rest := ⟨_, rfl⟩
      obtain ⟨rest, hrest⟩ := hbegins
      rw [hrest, String.toList_append, String.toList_append]
      exact List.mem_append_left _ (List.mem_append_left _ (by decide))
    | invalidDefaults issues report =>
      have hbegins : (Fault.configuration (.invalidDefaults issues report)).message =
          "Invalid polling defaults:\n" ++ report := rfl
      rw [hbegins, String.toList_append]
      exact List.mem_append_left _ (by decide)
    | _ => cases h
  exact fun hline => (hline _ hbreak).2 rfl

/-- A world whose notes about an await on `what` are logged on a bench, on which nothing closes the
audit trail. -/
structure World.LogsOn (world : World σ Number) (what : Value) (bench : σ → Bench) : Prop where
  note : ∀ note s, bench (world.note note s) = (bench s).logAll [note.entry what]
  keeps : world.Keeps fun s => Audit.IsOpen (bench s).desk

theorem World.LogsOn.beside {what : Value} {bench : σ → Bench} (h : world.LogsOn what bench)
    (ρ : Type) : (world.beside ρ).LogsOn what fun x => bench x.2 :=
  ⟨fun note x => h.note note x.2, h.keeps.beside ρ⟩

/-- An entry that is noted on a bench is an entry of the audit trail if it is about an outcome. -/
theorem Ending.note_entry_eq {ending : Ending Number α} {note : Note Number} {duration : Number}
    {count : ℕ} (h : note ∈ ending.note? duration count) (what : Value) :
    ∃ event fields, note.entry what = Audit.entry event fields := by
  cases note with
  | begun | notYet => cases ending <;> simp [note?] at h
  | satisfied | timedOut | failed => exact ⟨_, _, rfl⟩

end Await

/-- The awaits of a script log on the bench of the script, at any depth. -/
theorem Session.world_logsOn (depth : ℕ) (what : Value) :
    (world (Step.runWithin depth) what).LogsOn what fun x => x.2.state :=
  ⟨fun _ _ => rfl,
    (Step.runWithin_keeps Audit.isOpen_invariant depth).world Audit.isOpen_invariant what⟩

/-! ### Main result -/

namespace Audit

/-- **An entry of the audit trail is one record, and the record is one line exactly if the texts that
it shows are.**  A trail that the loggers let through stays open, whatever a script does, and an
entry with any details is written to it as one record, unless there is a field that cannot be
written.  The record shows all fields but the time, and only the name of a field and a value that is
a text may break its line.  An await that is satisfied, timed out or failed writes one record about
it at its end; its line is broken only by a description that is a text or, after a fault, by the
kind or the wording of the fault or of what is behind it. -/
theorem record_isOneLine_iff (event : String) (details : List (String × Value)) (what : Value) :
    (∀ (s : Session) steps, IsOpen s.state.desk →
      IsOpen (Session.runSteps steps s).state.desk) ∧
    (∀ s : Session, IsOpen s.state.desk →
      let fields := LogStep.detailsOf details
      let record := (entry event fields).record
      let (outcome, after) := (Step.log (.audit event details)).run s
      (match refusal? fields with
        | some fault => outcome.result = .error fault ∧ after.state.lines = s.state.lines
        | none =>
          outcome.result = .ok (.audited [record]) ∧ after.state.lines = record :: s.state.lines) ∧
      (IsOneLine record.message.toList ↔ IsOneLine event.toList ∧
        ∀ field ∈ fields, field.1 ≠ "timestamp" → IsOneLineField field)) ∧
    (∀ depth ρ, (Session.world (Step.runWithin depth) what).LogsOn what (fun x => x.2.state) ∧
      ((Session.world (Step.runWithin depth) what).beside ρ).LogsOn what fun x => x.2.2.state) ∧
    ∀ {σ α : Type} (world : Await.World σ Number) (bench : σ → Bench)
      (condition : Await.Condition σ α) (fuel : ℕ) (polling : Polling Number) (s : σ),
      world.LogsOn what bench →
      (∀ s, IsOpen (bench s).desk → IsOpen (bench (condition s).2).desk) →
      IsOpen (bench s).desk →
      let ended := Await.run world fuel polling condition s
      ∃ duration count, ∀ note ∈ ended.1.note? duration count, ∃ before,
        ended.2 = world.note note before ∧
        (bench ended.2).lines = (note.entry what).record :: (bench before).lines ∧
        (IsOneLine (note.entry what).message.toList ↔
          (∀ text, what = .text text → IsOneLine text.toList) ∧
            ∀ text ∈ ended.1.texts, IsOneLine text.toList) := by
  refine ⟨fun s steps hs => Session.runSteps_keeps isOpen_invariant steps s hs, fun s hs => ?_,
    fun depth ρ => ?_, ?_⟩
  · exact ⟨Session.run_audit hs event details, isOneLine_line_iff (LogStep.nodup_detailsOf details)⟩
  · exact ⟨Session.world_logsOn depth what, (Session.world_logsOn depth what).beside ρ⟩
  · intro σ α world bench condition fuel polling s hworld hcondition hs ended
    obtain ⟨duration, count, hnoted⟩ := Await.run_noted hworld.keeps hcondition fuel polling hs
    refine ⟨duration, count, fun note hnote => ?_⟩
    obtain ⟨before, hbefore, hended⟩ := hnoted note hnote
    obtain ⟨event, fields, hentry⟩ := Await.Ending.note_entry_eq hnote what
    have hlines := lines_logAll_entry hbefore event fields
    rw [← hentry, ← hworld.note note before, ← hended] at hlines
    exact ⟨before, hended, hlines, Await.Ending.isOneLine_note_iff hnote what⟩

/-- Whether the last record of a step in a session at its beginning is one line, if it is one of the
audit trail, which is open. -/
def endsOnOneLine? (step : Step) : Option Bool :=
  let after := (step.run (.fresh "" [(libraryLogger, Level.info.number)])).2
  (after.state.lines.head?.filter (·.logger == logger)).map fun record =>
    decide (IsOneLine record.message.toList)

/-- Records of two lines: by a field of an entry, by the description of an await, by the wording of a
fault that ends an await, and by the wording of what is behind such a fault. -/
theorem record_two_lines :
    endsOnOneLine? (.log (.audit "E" [("description", .text "a\nb")])) = some false ∧
    endsOnOneLine? (.await (.mk "f" [.mk none (.give (.bool true))])
      ⟨.none, .none, .text "a\nb"⟩) = some false ∧
    endsOnOneLine? (.await (.mk "f" [.mk none
      (.throw (.mk "ValueError" [.text "a\nb"] none none))]) {}) = some false ∧
    endsOnOneLine? (.await (.mk "f" [.mk none (.throw (.mk "ValueError" []
      (some (.mk "OSError" [.text "a\nb"] none none)) none))]) {}) = some false := by
  decide +kernel

end Audit

end SipBench
