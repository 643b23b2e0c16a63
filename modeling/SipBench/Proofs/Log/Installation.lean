import Mathlib.Tactic.SplitIfs
import SipBench.Log.Desk

/-!
# The handlers of the log

A set-up removes what an earlier one has put in place, and with it all that other code has added by
then; before the first set-up there is nothing to remove.  So the handlers depend on what has
happened before, but not on more of it than whether a set-up has succeeded before the last one.

* `Desk.Operation` : a set-up, or a handler that other code adds
* `Desk.Operation.handlers?` : the handlers that a set-up puts in place, if it succeeds
* `Desk.perform_configure` : what a set-up does to the desk
* `Desk.run_handlers` : the handlers after any operations
-/

namespace SipBench.Desk

variable {φ : Type} {access : FileAccess φ}

/-! ### Entries -/

theorem handle_eq (access : FileAccess φ) (e : RawEntry) (d : Desk) (files : φ) (h : Handler) :
    ∃ text, (handle access e (d, files) h).1 = { d with console := text } := by
  unfold handle
  simp only
  split_ifs
  · exact ⟨_, rfl⟩
  · cases h.kind <;> exact ⟨_, rfl⟩

theorem foldl_handle_eq (e : RawEntry) (handlers : List Handler) (d : Desk) (files : φ) :
    ∃ text, (handlers.foldl (handle access e) (d, files)).1 = { d with console := text } := by
  induction handlers generalizing d files with
  | nil => exact ⟨_, rfl⟩
  | cons h handlers ih =>
    rcases hstep : handle access e (d, files) h with ⟨after, files'⟩
    obtain ⟨text, htext⟩ := handle_eq access e d files h
    obtain ⟨text', htext'⟩ := ih after files'
    obtain rfl : after = { d with console := text } := by rw [← htext, hstep]
    exact ⟨text', by rw [List.foldl_cons, hstep, htext']⟩

/-- An entry changes nothing of the desk but what the console shows. -/
theorem emit_eq (access : FileAccess φ) (d : Desk) (files : φ) (e : RawEntry) :
    ∃ text, (d.emit access files e).1 = { d with console := text } := by
  unfold emit
  split_ifs
  · exact ⟨_, rfl⟩
  · exact foldl_handle_eq e d.handlers d files

/-! ### Operations -/

/-- What happens to the handlers of a desk. -/
inductive Operation (φ : Type) where
  /-- A set-up, with the log file that the environment names and the files as they are then. -/
  | configure (request : LogRequest) (environment : Option String) (files : φ)
  /-- Other code adds a handler. -/
  | add (handler : Handler)

namespace Operation

/-- The handler that other code adds. -/
def added? : Operation φ → Option Handler
  | configure .. => none
  | add h => some h

/-- The handlers that a set-up puts in place: one for the console and, if the file can be opened, one
for the file.  There are none if the level does not exist or the directory cannot be made. -/
def handlers? (access : FileAccess φ) : Operation φ → Option (List Handler)
  | configure request environment files =>
    let path := fileOf request.file environment
    match Level.ofName? request.level, access.makeDirectories path.parent files with
    | some level, (.ok (), files) =>
      let console : Handler := ⟨.console, level.number, request.redact⟩
      let file : Handler := ⟨.file (Files.logLocation path), Level.debug.number, request.redact⟩
      match (access.openLog path files).1 with
      | .ok () => some [console, file]
      | .error _ => some [console]
    | _, _ => none
  | add _ => none

/-- The answer to an operation and the desk after it. -/
def perform (access : FileAccess φ) (d : Desk) : Operation φ → Except Fault Unit × Desk
  | configure request environment files =>
    let (answer, d, _) := d.configure access files request environment
    (answer, d)
  | add h => (.ok (), d.addHandler h)

end Operation

/-- The desk after some operations. -/
def run (access : FileAccess φ) (d : Desk) (ops : List (Operation φ)) : Desk :=
  ops.foldl (fun d op => (op.perform access d).2) d

/-- The handlers that other code has added. -/
def added (ops : List (Operation φ)) : List Handler := ops.filterMap Operation.added?

/-! ### One operation -/

/-- The handlers that stay when a set-up begins: all of them at the first one, none later. -/
def kept (d : Desk) : List Handler := if d.installed = [] then d.handlers else []

/-- The desk after a set-up has put its first handler in place. -/
theorem install_begin (d : Desk) (h : Handler) :
    d.begin.install h = { d with
      rootLevel := Level.debug.number, handlers := d.kept ++ [h], installed := [h] } := by
  cases hinstalled : d.installed <;> simp [begin, install, kept, hinstalled]

/-- A set-up fails and leaves the desk as it is, or succeeds and puts its handlers in place. -/
theorem perform_configure (access : FileAccess φ) (d : Desk) (request : LogRequest)
    (environment : Option String) (files : φ) :
    let op := Operation.configure request environment files
    (op.handlers? access = none ∧ ∃ fault, op.perform access d = (.error fault, d) ∧
      (fault.kind = .badValue ∨ fault.kind = .runtime)) ∨
    (∃ own text, op.handlers? access = some own ∧ own ≠ [] ∧ op.perform access d = (.ok (),
      { d with
        rootLevel := Level.debug.number, handlers := d.kept ++ own, installed := own
        console := text })) := by
  simp only [Operation.handlers?, Operation.perform, configure, levelNamed]
  cases Level.ofName? request.level with
  | none => exact .inl ⟨rfl, _, rfl, .inl rfl⟩
  | some level =>
    rcases access.makeDirectories (fileOf request.file environment).parent files with
      ⟨fault | made, files⟩
    · exact .inl ⟨rfl, _, rfl, .inr rfl⟩
    · right
      simp only [install_begin]
      rcases access.openLog (fileOf request.file environment) files with
        ⟨fault | opened, files⟩ <;> simp only
      · -- that the file cannot be opened is logged by the handlers that are there by then
        obtain ⟨text, htext⟩ := emit_eq access { d with
          rootLevel := Level.debug.number
          handlers := d.kept ++ [consoleHandler level request.redact]
          installed := [consoleHandler level request.redact] } files
          (cannotOpen (fileOf request.file environment) fault)
        exact ⟨_, text, rfl, List.cons_ne_nil _ _, congrArg _ htext⟩
      · refine ⟨_, d.console, rfl, List.cons_ne_nil _ _, ?_⟩
        rw [install, List.append_assoc]
        rfl

/-- An operation that is no successful set-up leaves the desk as it is, but for the handler that it
adds. -/
theorem perform_of_none {op : Operation φ} (h : op.handlers? access = none) (d : Desk) :
    (op.perform access d).2 = { d with handlers := d.handlers ++ op.added?.toList } := by
  cases op with
  | configure request environment files =>
    obtain ⟨-, fault, hperform, -⟩ | ⟨own, text, hown, -⟩ :=
      perform_configure access d request environment files
    · rw [hperform, Operation.added?, Option.toList_none, List.append_nil]
    · rw [h] at hown
      cases hown
  | add handler => rfl

theorem perform_of_some {op : Operation φ} {own : List Handler} (h : op.handlers? access = some own)
    (d : Desk) : own ≠ [] ∧ (op.perform access d).2.installed = own ∧
      (op.perform access d).2.handlers = d.kept ++ own := by
  cases op with
  | configure request environment files =>
    obtain ⟨hnone, -⟩ | ⟨own', text, hown, hne, hperform⟩ :=
      perform_configure access d request environment files
    · rw [h] at hnone
      cases hnone
    · obtain rfl := Option.some.inj (h.symm.trans hown)
      rw [hperform]
      exact ⟨hne, rfl, rfl⟩
  | add handler => cases h

/-! ### A run of operations -/

theorem run_append (d : Desk) (ops ops' : List (Operation φ)) :
    run access d (ops ++ ops') = run access (run access d ops) ops' := List.foldl_append

theorem run_cons (d : Desk) (op : Operation φ) (ops : List (Operation φ)) :
    run access d (op :: ops) = run access (op.perform access d).2 ops := rfl

theorem run_of_none {ops : List (Operation φ)} (h : ∀ op ∈ ops, op.handlers? access = none)
    (d : Desk) : run access d ops = { d with handlers := d.handlers ++ added ops } := by
  induction ops generalizing d with
  | nil => simp [run, added]
  | cons op ops ih =>
    obtain ⟨hop, hops⟩ := List.forall_mem_cons.1 h
    rw [run_cons, perform_of_none hop, ih hops, added, added, List.filterMap_cons]
    cases op.added? <;> simp

theorem run_installed_eq_nil_iff (access : FileAccess φ) (ops : List (Operation φ)) (d : Desk) :
    (run access d ops).installed = [] ↔
      d.installed = [] ∧ ∀ op ∈ ops, op.handlers? access = none := by
  induction ops generalizing d with
  | nil => simp [run]
  | cons op ops ih =>
    rw [run_cons, ih, List.forall_mem_cons, ← and_assoc]
    refine and_congr_left' ?_
    cases hop : op.handlers? access with
    | none => simp [perform_of_none hop]
    | some own =>
      obtain ⟨hne, hinstalled, -⟩ := perform_of_some hop d
      simp [hinstalled, hne]

/-- **The handlers of the log.**  As long as no set-up has succeeded, there are the handlers that
other code has added.  After the last successful set-up those that it has put in place are the ones
installed, and the only others are those added since and, if it was the first, those added before.
A further set-up that fails leaves the desk as it is, and one that succeeds is then the last one. -/
theorem run_handlers (access : FileAccess φ) (ops : List (Operation φ)) :
    let d := run access {} ops
    ((∀ op ∈ ops, op.handlers? access = none) → d.installed = [] ∧ d.handlers = added ops) ∧
    (∀ before op after own, ops = before ++ op :: after → op.handlers? access = some own →
      (∀ op ∈ after, op.handlers? access = none) →
      d.installed = own ∧
      d.handlers = (if ∀ op ∈ before, op.handlers? access = none then added before else []) ++
        own ++ added after) ∧
    ∀ request environment files,
      let op := Operation.configure request environment files
      (op.handlers? access = none ∧ ∃ fault, op.perform access d = (.error fault, d) ∧
        (fault.kind = .badValue ∨ fault.kind = .runtime)) ∨
      ((op.handlers? access).isSome = true ∧ (op.perform access d).1 = .ok ()) := by
  intro d
  refine ⟨fun hops => ?_, ?_, fun request environment files => ?_⟩
  · have hd : d = { handlers := [] ++ added ops } := run_of_none hops {}
    rw [hd]
    exact ⟨rfl, rfl⟩
  · rintro before op after own rfl hop hafter
    have hd : d = run access (op.perform access (run access {} before)).2 after := by
      rw [← run_cons, ← run_append]
    obtain ⟨-, hinstalled, hhandlers⟩ := perform_of_some hop (run access {} before)
    rw [hd, run_of_none hafter]
    refine ⟨hinstalled, ?_⟩
    have hfirst := run_installed_eq_nil_iff access before {}
    simp only [true_and] at hfirst
    simp only [hhandlers, kept, hfirst]
    split_ifs with hbefore
    · rw [run_of_none hbefore]
      rfl
    · rfl
  · obtain hfails | ⟨own, text, hown, -, hperform⟩ :=
      perform_configure access d request environment files
    · exact .inl hfails
    · exact .inr ⟨by rw [hown]; rfl, by rw [hperform]⟩

/-- A handler of other code stays at the first set-up; the second set-up, whose file is a directory,
leaves neither it nor one added in between. -/
theorem run_handlers_replaced :
    let files : Files := ⟨"", [(["d"], .directory)]⟩
    let first : List (Operation Files) :=
      [.add nullHandler, .configure { level := "info", file := some (.ofText "a") } none files]
    let second : Operation Files :=
      .configure { level := "debug", file := some (.ofText "d"), redact := false } none files
    (run Files.access {} first).handlers =
      [nullHandler, ⟨.console, 20, true⟩, ⟨.file ["a"], 10, true⟩] ∧
    (run Files.access {} (first ++ [.add nullHandler, second])).handlers =
      [⟨.console, 10, false⟩] := by
  intro files first second
  have hfirst := (run_handlers Files.access first).2.1 [.add nullHandler] _ []
    [⟨.console, 20, true⟩, ⟨.file ["a"], 10, true⟩] rfl (by decide +kernel) nofun
  have hsecond := (run_handlers Files.access (first ++ [.add nullHandler, second])).2.1
    (first ++ [.add nullHandler]) second [] [⟨.console, 10, false⟩] rfl (by decide +kernel) nofun
  exact ⟨hfirst.2.trans (by decide +kernel), hsecond.2.trans (by decide +kernel)⟩

end SipBench.Desk
