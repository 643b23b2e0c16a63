import SipBench.Bench.Run
import SipBench.Proofs.Await.Keeps
import SipBench.Proofs.Log.Installation

/-!
# What a script does to the loggers

A script changes the loggers in four ways only: it logs, sets up the log, sets the level of an area
and adds a handler.  What these four keep is kept by every step, with all that runs inside it: the
calls of scripts, the rounds of awaits and the steps that are due meanwhile.

* `Desk.Invariant` : a property of the loggers that the four ways keep
* `Act.Keeps` : a change of the bench that keeps a property of the loggers
* `Step.run_keeps`, `Session.runSteps_keeps` : so do every step and every script
* `Desk.letsThrough_invariant` : the loggers outside the areas let through what they did
* `Desk.letsThrough_configure` : what all loggers let through after a set-up
-/

namespace SipBench

/-- A property of the loggers that no change of them ends. -/
structure Desk.Invariant (P : Desk → Prop) : Prop where
  emit : ∀ d files e, P d → P (d.emit Files.access files e).1
  configure : ∀ d files request environment,
    P d → P (d.configure Files.access files request environment).2.1
  setOperationLevel : ∀ d operation level changed,
    d.setOperationLevel operation level = .ok changed → P d → P changed.1
  addHandler : ∀ d h, P d → P (d.addHandler h)

/-! ### Changes of the bench -/

namespace Act

variable {P : Desk → Prop} {α β : Type}

/-- A change of the bench that keeps a property of the loggers, whether it fails or not. -/
structure Keeps (P : Desk → Prop) (act : Act α) : Prop where
  after : ∀ b, P b.desk → P (act.run.run b).2.desk

theorem keeps_pure (a : α) : Keeps P (pure a) := ⟨fun _ h => h⟩

theorem keeps_throw (fault : Fault) : Keeps P (throw fault : Act α) := ⟨fun _ h => h⟩

theorem keeps_get : Keeps P get := ⟨fun _ h => h⟩

theorem keeps_modify {f : Bench → Bench} (h : ∀ b, P b.desk → P (f b).desk) : Keeps P (modify f) :=
  ⟨h⟩

theorem keeps_lift (result : Except Fault α) : Keeps P (liftM result) := by
  cases result <;> exact ⟨fun _ h => h⟩

theorem Keeps.bind {act : Act α} {next : α → Act β} (hact : Keeps P act)
    (hnext : ∀ a, Keeps P (next a)) : Keeps P (act >>= next) := by
  refine ⟨fun b hb => ?_⟩
  have hafter := hact.after b hb
  rw [ExceptT.run_bind, StateT.run_bind]
  rcases hrun : act.run.run b with ⟨fault | a, b'⟩
  all_goals rw [hrun] at hafter
  · exact hafter
  · exact (hnext a).after b' hafter

theorem Keeps.answer {act : Act α} (h : Keeps P act) {f : α → β} :
    Keeps P (act >>= fun a => pure (f a)) :=
  h.bind fun _ => keeps_pure _

/-- What follows may rely on the property of the loggers that it has got. -/
theorem keeps_get_bind {next : Bench → Act α} (h : ∀ b, P b.desk → Keeps P (next b)) :
    Keeps P (get >>= next) :=
  ⟨fun b hb => (h b hb).after b hb⟩

theorem keeps_modify_bind {f : Bench → Bench} {next : Unit → Act α}
    (h : ∀ b, P b.desk → P (f b).desk) (hnext : ∀ u, Keeps P (next u)) :
    Keeps P (modify f >>= next) :=
  (keeps_modify h).bind hnext

theorem keeps_lift_bind {result : Except Fault α} {next : α → Act β}
    (h : ∀ a, result = .ok a → Keeps P (next a)) : Keeps P (liftM result >>= next) := by
  cases result with
  | error fault => exact ⟨fun _ h => h⟩
  | ok a => exact ⟨(h a rfl).after⟩

theorem Keeps.mapM {f : α → Act β} (h : ∀ a, Keeps P (f a)) (items : List α) :
    Keeps P (items.mapM f) := by
  induction items with
  | nil => exact keeps_pure []
  | cons item items ih =>
    rw [List.mapM_cons]
    exact (h item).bind fun _ => ih.answer

theorem Keeps.mapM_option {f : α → Act β} (h : ∀ a, Keeps P (f a)) (item : Option α) :
    Keeps P (item.mapM f) := by
  cases item with
  | none => exact keeps_pure none
  | some a => exact (h a).answer

theorem keeps_named (entries : Bench → List (String × α)) (name : String) :
    Keeps P (named entries name) := by
  refine keeps_get.bind fun b => ?_
  split
  · exact keeps_pure _
  · exact keeps_throw _

theorem keeps_listener (id : String) : Keeps P (listener id) := keeps_named _ id

theorem keeps_handle (id : String) : Keeps P (handle id) := keeps_named _ id

theorem keeps_putListener (id : String) (l : Listener) : Keeps P (putListener id l) :=
  keeps_modify fun _ h => h

theorem keeps_putHandle (id : String) (t : Transaction) : Keeps P (putHandle id t) :=
  keeps_modify fun _ h => h

theorem keeps_item (spec : MessageSpec) : Keeps P (item spec) :=
  keeps_get.bind fun _ => keeps_lift _

theorem keeps_message (spec : MessageSpec) (asked : String) : Keeps P (message spec asked) := by
  refine (keeps_item spec).bind fun item => ?_
  split
  · exact keeps_pure _
  · exact keeps_throw _

end Act

/-! ### Entries -/

namespace Desk.Invariant

variable {P : Desk → Prop} (h : Invariant P)

include h

theorem logRaw (b : Bench) (e : RawEntry) (hb : P b.desk) : P (b.logRaw e).desk := h.emit _ _ _ hb

theorem logAll (entries : List LogEntry) (b : Bench) (hb : P b.desk) :
    P (b.logAll entries).desk := by
  induction entries generalizing b with
  | nil => exact hb
  | cons e entries ih => exact ih _ (h.logRaw b e.raw hb)

theorem log (entries : List LogEntry) : Act.Keeps P (Act.log entries) :=
  Act.keeps_modify (h.logAll entries)

end Desk.Invariant

/-! ### Steps that only change the bench -/

section

open Act

variable {P : Desk → Prop}

theorem MessageStep.run_keeps (step : MessageStep) : Keeps P step.run := by
  cases step with
  | make | withHeader | headers => exact (keeps_message ..).answer
  | withBody m body => exact (keeps_message ..).bind fun _ => (keeps_lift _).answer
  | reparse m => exact (keeps_item m).bind fun _ => (keeps_lift _).answer
  | equal a b => exact (keeps_item a).bind fun _ => (keeps_item b).answer
  | cseq => exact (keeps_lift _).answer
  | event m => exact (keeps_item m).bind fun _ => (keeps_lift _).answer
  | canonicalNames | reason | statusTable | methods => exact keeps_pure _

theorem MessageStep.runSaving_keeps (step : MessageStep) (save : Option String) :
    Keeps P (step.runSaving save) := by
  refine step.run_keeps.bind fun reply => ?_
  split
  · exact keeps_modify_bind (fun _ h => h) fun _ => keeps_pure _
  · exact keeps_pure reply

theorem Question.run_keeps (question : Question) (source : Source) :
    Keeps P (question.run source) := by
  refine Keeps.bind ?_ fun _ => keeps_lift _
  cases source with
  | messages specs => exact Keeps.mapM keeps_item specs
  | listener id => exact (keeps_listener id).answer
  | snapshot id => exact (keeps_named _ id).answer

theorem ListenerStep.change_keeps (hP : Desk.Invariant P) (id : String)
    (f : Listener → Except Fault (Listener × List LogEntry)) : Keeps P (change id f) :=
  (keeps_listener id).bind fun l => (keeps_lift (f l)).bind fun _ =>
    (keeps_putListener id _).bind fun _ => (hP.log _).answer

theorem ListenerStep.deliver_keeps (hP : Desk.Invariant P) (id : String) (list : Received)
    (m : MessageSpec) (raw : Value) (handleId : Option String) :
    Keeps P (deliver id list m raw handleId) := by
  refine (keeps_item m).bind fun item => (keeps_listener id).bind fun l =>
    (Keeps.mapM_option keeps_handle handleId).bind fun handle =>
    (keeps_putListener id _).bind fun _ => ?_
  split
  · exact (keeps_putHandle _ _).bind fun _ => (hP.log _).bind fun _ => (keeps_lift _).answer
  · exact (hP.log _).bind fun _ => (keeps_lift _).answer

theorem ListenerStep.run_keeps (hP : Desk.Invariant P) (id : String) (step : ListenerStep) :
    Keeps P (step.run id) := by
  cases step with
  | create className name =>
    simp only [run]
    split
    · exact keeps_throw _
    · exact (keeps_putListener id _).answer
  | response m raw handle | request m raw handle => exact deliver_keeps hP ..
  | look => exact (keeps_listener id).answer
  | snapshot which snapshotId =>
    exact (keeps_listener id).bind fun _ =>
      keeps_modify_bind (fun _ h => h) fun _ => keeps_pure _
  | noteFailure | noteSuccess | dispose | markAnswered | eventError | setDialog =>
    exact change_keeps hP ..

theorem TransactionStep.run_keeps (hP : Desk.Invariant P) (id : String) (step : TransactionStep) :
    Keeps P (step.run id) := by
  cases step with
  | openHandle tag stack owner byOwner =>
    refine (Keeps.mapM_option keeps_listener owner).bind fun owner => keeps_get.bind fun b =>
      (Keeps.mapM_option (fun _ => keeps_lift _) stack).bind fun stack =>
      (keeps_lift _).bind fun handle => ?_
    split
    · exact (hP.log _).bind fun _ => (keeps_putHandle id _).answer
    · exact (keeps_putHandle id _).answer
  | event m sequence =>
    exact (keeps_message m _).bind fun m => (keeps_handle id).bind fun _ =>
      (keeps_putHandle id _).bind fun _ => (keeps_lift _).bind fun _ => (hP.log _).answer
  | look | request => exact (keeps_handle id).bind fun _ => (keeps_lift _).answer

theorem Act.files_keeps (change : Files → Except FileFault Unit × Files) : Keeps P (files change) :=
  keeps_get.bind fun _ => keeps_modify_bind (fun _ h => h) fun _ => keeps_lift _

theorem Act.config_keeps (hP : Desk.Invariant P) (path : Option String) : Keeps P (config path) :=
  keeps_get.bind fun _ => (hP.log _).bind fun _ => keeps_lift _

theorem Act.changePolling_keeps (change : Config.PollingChange) : Keeps P (changePolling change) :=
  keeps_get.bind fun _ => keeps_modify_bind (fun _ h => h) fun _ => keeps_lift _

theorem Act.installPolling_keeps (hP : Desk.Invariant P) (change : Config.PollingChange) :
    Keeps P (installPolling change) :=
  (changePolling_keeps change).bind fun _ => (hP.log _).answer

theorem SettingStep.run_keeps (hP : Desk.Invariant P) (step : SettingStep) : Keeps P step.run := by
  cases step with
  | pollingGet => exact keeps_get.answer
  | pollingSet => exact installPolling_keeps hP _
  | pollingReset => exact (changePolling_keeps _).answer
  | pollingApply path => exact (config_keeps hP path).bind fun _ => installPolling_keeps hP _
  | load path => exact (config_keeps hP path).answer
  | write | makeDirectory => exact (files_keeps _).answer
  | setVariable => exact keeps_modify_bind (fun _ h => h) fun _ => keeps_pure _
  | commandLine words =>
    exact keeps_get.bind fun _ => keeps_modify_bind (fun _ h => h) fun _ => (hP.log _).answer

theorem LogStep.linesOf_keeps {act : Act Unit} (h : Keeps P act) : Keeps P (linesOf act) :=
  keeps_get.bind fun _ => h.bind fun _ => keeps_get.answer

theorem LogStep.install_keeps (hP : Desk.Invariant P) (request : LogRequest) :
    Keeps P (install request) := by
  refine keeps_get_bind fun b hb => ?_
  have hset := hP.configure b.desk b.files request (b.environment.lookup "SIP_TEST_LOG_FILE") hb
  rcases hconfigure : b.desk.configure Files.access b.files request
    (b.environment.lookup "SIP_TEST_LOG_FILE") with ⟨answer, desk, files⟩
  rw [hconfigure] at hset
  exact keeps_modify_bind (fun _ _ => hset) fun _ => (keeps_lift answer).answer

theorem LogStep.run_keeps (hP : Desk.Invariant P) (step : LogStep) : Keeps P step.run := by
  cases step with
  | format => exact (keeps_lift _).bind fun _ => (keeps_lift _).answer
  | audit event details =>
    simp only [run]
    split
    · exact keeps_throw _
    · exact (linesOf_keeps (hP.log _)).answer
  | messageEvent => exact (linesOf_keeps (hP.log _)).answer
  | configure level file redact =>
    simp only [run]
    split
    · exact install_keeps hP _
    · exact keeps_throw _
  | configureFrom path => exact (config_keeps hP path).bind fun _ => install_keeps hP _
  | log entry =>
    exact keeps_modify_bind (fun b hb => hP.logRaw b entry hb) fun _ => keeps_pure _
  | operationLogger => exact (keeps_lift _).bind fun _ => keeps_get.answer
  | setOperationLevel operation level =>
    refine keeps_get_bind fun b hb => keeps_lift_bind fun ⟨desk, entry⟩ hset => ?_
    have hchanged := hP.setOperationLevel b.desk operation level _ hset hb
    exact keeps_modify_bind (fun _ _ => hchanged) fun _ => (hP.log [entry]).answer
  | addHandler =>
    exact keeps_modify_bind (fun b hb => hP.addHandler _ _ hb) fun _ => keeps_pure _
  | handlers | console => exact keeps_get.answer
  | readLog path =>
    refine keeps_get.bind fun b => ?_
    split <;> exact keeps_pure _

end

/-! ### Time -/

namespace Timeline

variable {τ α ω : Type} [LT τ] [LE τ] [DecidableLT τ] [DecidableLE τ]
  {run : α → Timeline τ α ω → Timeline τ α ω} {Q : ω → Prop}

theorem runDue_keeps (hrun : ∀ a t, Q t.state → Q (run a t).state) (limit : τ) (fuel : ℕ)
    (t : Timeline τ α ω) (ht : Q t.state) : Q (runDue run limit fuel t).state := by
  induction fuel generalizing t with
  | zero => exact ht
  | succ fuel ih =>
    rw [runDue]
    split
    · exact ht
    · exact ih _ (hrun _ _ ht)

theorem spend_keeps [Add τ] (hrun : ∀ a t, Q t.state → Q (run a t).state) (spare : ℕ)
    (duration : τ) (t : Timeline τ α ω) (ht : Q t.state) : Q (t.spend run spare duration).state :=
  runDue_keeps hrun _ _ t ht

end Timeline

/-! ### Awaits -/

namespace Await

variable {σ ν α : Type} {world : World σ Number} {Q : σ → Prop} (h : world.Keeps Q)
  {fuel : Polling Number → ℕ} {defaults : Polling Double} {interval timeout what : Value}

include h

theorem call_keeps (condition : Condition σ α) (hcondition : ∀ s, Q s → Q (condition s).2) (s : σ)
    (hs : Q s) : Q (call world fuel defaults interval timeout what condition s).2 := by
  unfold call
  split
  · exact hs
  · exact run_keeps h hcondition _ _ hs

omit h in
theorem acceptNext_keeps {shown : ν → Except Fault String} {supply : σ → Except Fault ν × σ}
    {ask : Target.Question σ ν} (hsupply : ∀ s, Q s → Q (supply s).2)
    (hask : ∀ v s, Q s → Q (ask v s).2) (x : List ν × σ) (hx : Q x.2) :
    Q (acceptNext shown supply ask x).2.2 := by
  obtain ⟨kept, s⟩ := x
  have hsupplied := hsupply s hx
  rw [acceptNext]
  rcases hnext : supply s with ⟨fault | value, s⟩
  all_goals rw [hnext] at hsupplied
  · exact hsupplied
  · have hasked := hask value s hsupplied
    dsimp only
    rcases hanswer : ask value s with ⟨fault | answer, s⟩
    all_goals rw [hanswer] at hasked
    · exact hasked
    · dsimp only
      split <;> exact hasked

omit h in
/-- A call of an await on a value keeps what its world, its supplier and its question keep. -/
theorem callValue_keeps {world : Value → World σ Number} (h : ∀ what, (world what).Keeps Q)
    {what : Except Fault Value} {kind : Target.Kind σ ν}
    (hequals : ∀ expected v s, Q s → Q (kind.equals expected v s).2)
    (supply : σ → Except Fault ν × σ) (hsupply : ∀ s, Q s → Q (supply s).2)
    (expected : Option ν) (matcher : Option (Target.Question σ ν))
    (hmatcher : ∀ ask ∈ matcher, ∀ v s, Q s → Q (ask v s).2) (s : σ) (hs : Q s) :
    Q (callValue world fuel defaults interval timeout what kind supply expected matcher s).2 := by
  have hask {ask : Target.Question σ ν}
      (hquestion : Target.question? kind expected matcher = .ok ask) :
      ∀ v s, Q s → Q (ask v s).2 := by
    rcases expected with _ | expected <;> rcases matcher with _ | ask'
    · cases hquestion
    · cases hquestion
      exact hmatcher ask rfl
    · cases hquestion
      exact hequals expected
    · cases hquestion
  unfold callValue
  split
  · exact hs
  · exact hs
  · rename_i ask what hquestion
    exact call_keeps ((h what).beside (List ν)) (.ofCall (acceptNext kind.shown supply ask))
      (acceptNext_keeps hsupply (hask hquestion)) ([], s) hs

end Await

/-! ### Steps that take time -/

namespace Session

variable {P : Desk → Prop} {run : Runner}

/-- A runner of steps that keeps a property of the loggers. -/
def Keeps (P : Desk → Prop) (run : Runner) : Prop :=
  ∀ step s, P s.state.desk → P (run step s).2.state.desk

theorem Keeps.deliver (hrun : Keeps P run) (step : Step) (s : Session) (hs : P s.state.desk) :
    P (deliver run step s).state.desk := hrun step s hs

theorem Keeps.spend (hrun : Keeps P run) (duration : Number) (s : Session) (hs : P s.state.desk) :
    P (s.spend (Session.deliver run) maxAdded duration).state.desk :=
  Timeline.spend_keeps (Q := fun b : Bench => P b.desk) hrun.deliver _ _ s hs

theorem Keeps.world (hrun : Keeps P run) (hP : Desk.Invariant P) (what : Value) :
    (world run what).Keeps fun x => P x.2.state.desk := by
  refine Await.World.Keeps.beside (P := fun s : Session => P s.state.desk) ⟨?_, ?_, ?_⟩ ℕ
  · exact fun _ hs => hs
  · exact fun duration s hs => hrun.spend duration _ hs
  · exact fun _ s hs => hP.logAll _ s.state hs

theorem Keeps.perform (hrun : Keeps P run) (action : Action) (s : Session) (hs : P s.state.desk) :
    P (perform run s action).2.state.desk := by
  cases action with
  | give v => exact hs
  | throw spec =>
    simp only [Session.perform]
    split <;> exact hs
  | run step => exact hrun step s hs

theorem Keeps.play (hrun : Keeps P run) (script : List Call) (n : ℕ) (s : Session)
    (hs : P s.state.desk) : P (play run script n s).2.state.desk := by
  unfold Session.play
  split
  · exact hs
  · split
    · exact hrun.perform _ _ (hrun.spend _ s hs)
    · exact hrun.perform _ s hs

theorem Keeps.waitFor {α : Type} (hrun : Keeps P run) (hP : Desk.Invariant P) (what : Value)
    (options : AwaitOptions) (condition : Await.Condition (ℕ × Session) α)
    (hcondition : ∀ x, P x.2.state.desk → P (condition x).2.2.state.desk) (s : Session)
    (hs : P s.state.desk) : P (waitFor run what options condition s).2.2.state.desk :=
  Await.call_keeps (hrun.world hP what) condition hcondition (0, s) hs

theorem Keeps.awaitGoal (hrun : Keeps P run) (hP : Desk.Invariant P) (goal : Goal)
    (target : Option String) (options : AwaitOptions) (s : Session) (hs : P s.state.desk) :
    P (awaitGoal run goal target options s).2.state.desk := by
  unfold Session.awaitGoal
  split
  · rename_i l id _
    split
    · exact hs
    · exact hrun.waitFor hP _ options
        (goal.condition fun x => (x.2.state.listeners.lookup id).getD l) (fun _ hx => hx) s hs
  · exact hs

theorem Keeps.dispose (hrun : Keeps P run) (hP : Desk.Invariant P) (typeName : String)
    (script : List Call) (n : ℕ) (s : Session) (hs : P s.state.desk) :
    P (dispose typeName (Session.play run script) n s).2.state.desk := by
  have hplay := hrun.play script n s hs
  unfold Session.dispose
  split
  · rename_i hdone
    rw [hdone] at hplay
    exact hP.logAll _ _ hplay
  · rename_i hfailed
    rwa [hfailed] at hplay

theorem Keeps.awaitDisposal (hrun : Keeps P run) (hP : Desk.Invariant P)
    (stack : Option StackActor) (options : AwaitOptions) (s : Session) (hs : P s.state.desk) :
    P (awaitDisposal run stack options s).2.state.desk := by
  unfold Session.awaitDisposal
  split
  · exact hs
  · rename_i typeName script
    exact hrun.waitFor hP _ options (.judged (·.map fun _ => some ())
        (counted (Session.dispose typeName (Session.play run script))))
      (fun x hx => hrun.dispose hP typeName script x.1 x.2 hx) s hs

theorem Keeps.awaitCondition (hrun : Keeps P run) (hP : Desk.Invariant P) (actor : Actor)
    (options : AwaitOptions) (s : Session) (hs : P s.state.desk) :
    P (awaitCondition run actor options s).2.state.desk := by
  obtain ⟨name, script⟩ := actor
  exact hrun.waitFor hP _ options (.ofCall (supply run script))
    (fun x hx => hrun.play script x.1 x.2 hx) s hs

theorem Keeps.awaitValue (hrun : Keeps P run) (hP : Desk.Invariant P) (actor : Actor)
    (expected : Option Value) (matcher : Option Matcher) (options : AwaitOptions) (s : Session)
    (hs : P s.state.desk) :
    P (awaitValue run actor expected matcher options s).2.state.desk := by
  obtain ⟨name, script⟩ := actor
  have hmatcher : ∀ ask ∈ matcher.map fun m v (x : ℕ × Session) => (m.answer v, x), ∀ v x,
      P x.2.state.desk → P (ask v x).2.2.state.desk := by
    intro ask hask v x hx
    obtain ⟨m, -, rfl⟩ := Option.map_eq_some_iff.1 hask
    exact hx
  simp only [Session.awaitValue, waited]
  exact Await.callValue_keeps (hrun.world hP) (fun _ _ _ hx => hx) (supply run script)
    (fun x hx => hrun.play script x.1 x.2 hx) expected _ hmatcher (0, s) hs

theorem scheduled_state (time : Value) (step : Step) (s : Session) :
    (scheduled time step s).2.state = s.state := by
  unfold scheduled
  split
  · split <;> rfl
  · rfl

end Session

/-! ### All steps -/

/-- The session after the steps of a script. -/
def Session.runSteps (steps : List Step) (s : Session) : Session :=
  steps.foldl (fun s step => (step.run s).2) s

section

variable {P : Desk → Prop} (hP : Desk.Invariant P)

include hP

open Act in
/-- By induction on the depth: what a step runs inside it is run one level further down. -/
theorem Step.runWithin_keeps (depth : ℕ) : Session.Keeps P (Step.runWithin depth) := by
  induction depth with
  | zero => exact fun _ _ hs => hs
  | succ depth ih =>
    intro step s hs
    cases step with
    -- steps that only change the bench
    | message step save => exact (step.runSaving_keeps save).after s.state hs
    | ask question source => exact (question.run_keeps source).after s.state hs
    | listener id step => exact (step.run_keeps hP id).after s.state hs
    | showSnapshot id => exact (keeps_named _ id).answer.after s.state hs
    | transaction id step => exact (step.run_keeps hP id).after s.state hs
    | setting step => exact (step.run_keeps hP).after s.state hs
    | log step => exact (step.run_keeps hP).after s.state hs
    | diagnose | showTimeout => exact (keeps_lift _).answer.after s.state hs
    | checkListener check target label =>
      have hkeeps := (Keeps.mapM_option (P := P) keeps_listener target).bind fun l =>
        (keeps_lift (check.run l (labelOf label))).answer (f := fun _ => Reply.nothing)
      exact hkeeps.after s.state hs
    | checkMessage check target label =>
      exact ((keeps_item target).bind fun _ => (keeps_lift _).answer).after s.state hs
    -- steps that may run others
    | awaitGoal goal target options => exact ih.awaitGoal hP goal target options s hs
    | awaitDisposal stack options => exact ih.awaitDisposal hP stack options s hs
    | await actor options => exact ih.awaitCondition hP actor options s hs
    | awaitValue actor expected matcher options =>
      exact ih.awaitValue hP actor expected matcher options s hs
    | schedule time step =>
      rw [runWithin, Session.scheduled_state]
      exact hs
    | misuse fault => exact hs

/-- A step keeps what all changes of the loggers keep, with all that runs inside it. -/
theorem Step.run_keeps (step : Step) (s : Session) (hs : P s.state.desk) :
    P (step.run s).2.state.desk := runWithin_keeps hP maxDepth step s hs

theorem Session.runSteps_keeps (steps : List Step) (s : Session) (hs : P s.state.desk) :
    P (runSteps steps s).state.desk := by
  induction steps generalizing s with
  | nil => exact hs
  | cons step steps ih => exact ih _ (step.run_keeps hP s hs)

end

/-! ### Levels -/

namespace Desk

/-- Neither a logger, given by the parts of its name in reverse, nor one above it is that of an area
of the library. -/
def IsOutsideAreas : List (List Char) → Prop
  | [] => True
  | part :: parts =>
    String.ofList (List.intercalate ['.'] (part :: parts).reverse) ∉ operationLoggers.map Prod.snd ∧
      IsOutsideAreas parts

instance decidableIsOutsideAreas : DecidablePred IsOutsideAreas
  | [] => isTrue ⟨⟩
  | _ :: parts =>
    have := decidableIsOutsideAreas parts
    inferInstanceAs (Decidable (_ ∧ _))

/-- What is at least as urgent as a level passes a logger. -/
def LetsThrough (logger : String) (level : ℕ) (d : Desk) : Prop := d.effectiveLevel logger ≤ level

/-- A logger outside the areas goes on to let through what it does, if only the levels of areas and
the level of the root are set, and the latter not above it. -/
theorem levelAbove_le {d d' : Desk} {level : ℕ}
    (hown : ∀ logger ∉ operationLoggers.map Prod.snd, d'.ownLevel logger = d.ownLevel logger)
    (hroot : d'.rootLevel = d.rootLevel ∨ d'.rootLevel ≤ level) {parts : List (List Char)}
    (houtside : IsOutsideAreas parts) (h : d.levelAbove parts ≤ level) :
    d'.levelAbove parts ≤ level := by
  induction parts with
  | nil => exact hroot.elim (fun heq => Nat.le_trans (Nat.le_of_eq heq) h) id
  | cons part parts ih =>
    obtain ⟨hname, habove⟩ := houtside
    simp only [levelAbove, hown _ hname] at h ⊢
    split_ifs at h ⊢
    · exact ih habove h
    · exact h

theorem LetsThrough.of_levels {d d' : Desk} {logger : String} {level : ℕ}
    (h : d.LetsThrough logger level)
    (houtside : IsOutsideAreas (Text.splitAt '.' logger.toList).reverse)
    (hown : ∀ name ∉ operationLoggers.map Prod.snd, d'.ownLevel name = d.ownLevel name)
    (hroot : d'.rootLevel = d.rootLevel ∨ d'.rootLevel ≤ level) : d'.LetsThrough logger level :=
  levelAbove_le hown hroot houtside h

theorem lookup_replaced (levels : List (String × ℕ)) {changed logger : String} (level : ℕ)
    (h : logger ≠ changed) :
    (levels.filter (·.1 != changed) ++ [(changed, level)]).lookup logger =
      levels.lookup logger := by
  have hne : (logger == changed) = false := beq_false_of_ne h
  induction levels with
  | nil => rw [List.filter_nil, List.nil_append, List.lookup_cons, hne]
  | cons entry levels ih =>
    obtain ⟨name, level'⟩ := entry
    by_cases hname : name = changed
    · rw [List.filter_cons_of_neg (by simpa using hname), ih, hname, List.lookup_cons, hne]
    · rw [List.filter_cons_of_pos (by simpa using hname), List.cons_append, List.lookup_cons, ih,
        List.lookup_cons]

theorem setOperationLevel_cases {d : Desk} {operation level : String} {changed : Desk × LogEntry}
    (h : d.setOperationLevel operation level = .ok changed) :
    ∃ logger ∈ operationLoggers.map Prod.snd, ∃ number, changed.1 =
      { d with levels := d.levels.filter (·.1 != logger) ++ [(logger, number)] } := by
  simp only [setOperationLevel, operationLogger, levelNamed] at h
  cases hlogger : operationLoggers.lookup operation with
  | none =>
    rw [hlogger] at h
    cases h
  | some logger =>
    rw [hlogger] at h
    obtain ⟨before, after, hlist, -⟩ := List.lookup_eq_some_iff.1 hlogger
    cases hlevel : Level.ofName? level with
    | none =>
      rw [hlevel] at h
      cases h
    | some found =>
      rw [hlevel] at h
      cases h
      exact ⟨logger, by simp [hlist], found.number, rfl⟩

/-- No script sets the level of a logger outside the areas, and the root gets the lowest. -/
theorem letsThrough_invariant {logger : String} {level : ℕ}
    (houtside : IsOutsideAreas (Text.splitAt '.' logger.toList).reverse)
    (hlevel : Level.debug.number ≤ level) : Invariant (LetsThrough logger level) where
  emit d files e hd := by
    obtain ⟨text, htext⟩ := emit_eq Files.access d files e
    rw [htext]
    exact hd.of_levels houtside (fun _ _ => rfl) (.inl rfl)
  configure d files request environment hd := by
    obtain ⟨-, fault, hperform, -⟩ | ⟨own, text, -, -, hperform⟩ :=
      perform_configure Files.access d request environment files
    all_goals
      have hdesk : (d.configure Files.access files request environment).2.1 = _ :=
        congrArg Prod.snd hperform
      rw [hdesk]
    · exact hd
    · exact hd.of_levels houtside (fun _ _ => rfl) (.inr hlevel)
  setOperationLevel d operation level' changed hset hd := by
    obtain ⟨area, harea, number, hchanged⟩ := setOperationLevel_cases hset
    refine hd.of_levels houtside (fun name hname => ?_) (.inl ?_)
    · have hne : name ≠ area := fun heq => hname (heq ▸ harea)
      rw [hchanged, ownLevel, ownLevel, lookup_replaced d.levels number hne]
    · rw [hchanged]
  addHandler _ _ hd := hd.of_levels houtside (fun _ _ => rfl) (.inl rfl)

theorem levelAbove_le_of_ownLevel_le {d : Desk} {level : ℕ} (hroot : d.rootLevel ≤ level)
    (hown : ∀ logger, d.ownLevel logger ≤ level) (parts : List (List Char)) :
    d.levelAbove parts ≤ level := by
  induction parts with
  | nil => exact hroot
  | cons part parts ih =>
    rw [levelAbove]
    split_ifs
    · exact ih
    · exact hown _

/-- After a set-up that succeeds, every logger lets through what is as urgent as all levels that were
set for single loggers. -/
theorem letsThrough_configure {d : Desk} {files : Files} {request : LogRequest}
    {environment : Option String} {level : ℕ}
    (h : (d.configure Files.access files request environment).1 = .ok ())
    (hown : ∀ logger, d.ownLevel logger ≤ level) (hlevel : Level.debug.number ≤ level)
    (logger : String) :
    (d.configure Files.access files request environment).2.1.LetsThrough logger level := by
  obtain ⟨-, fault, hperform, -⟩ | ⟨own, text, -, -, hperform⟩ :=
    perform_configure Files.access d request environment files
  · have hfault : (d.configure Files.access files request environment).1 = .error fault :=
      congrArg Prod.fst hperform
    rw [h] at hfault
    cases hfault
  · have hdesk : (d.configure Files.access files request environment).2.1 = _ :=
      congrArg Prod.snd hperform
    rw [hdesk, LetsThrough, effectiveLevel]
    apply levelAbove_le_of_ownLevel_le
    · exact hlevel
    · exact hown

end Desk

end SipBench
