import Mathlib.Data.List.Infix
import SipBench.Proofs.Listener.Log

/-!
# The errors of a subscription

A subscription keeps the errors of its events as texts.  Seen from the operations, each of them was
either noted by the test or found in a NOTIFY request, and then it names the number of the request.

* `EventError` : an error before it is put into words
* `Listener.errorLog` : the errors since the last disposal, from the operations alone
-/

namespace SipBench

/-- An error of the events of a subscription. -/
inductive EventError where
  /-- Noted by the test. -/
  | noted (text : String)
  /-- The NOTIFY request with the number lacks the header. -/
  | missingHeader (sequence : Int) (name : String)

namespace EventError

/-- How an error is worded. -/
def text : EventError → String
  | noted text => text
  | missingHeader sequence name => s!"NOTIFY #{sequence} is missing the {name} header"

/-- The errors that a message brings along. -/
def ofMessage (m : Message) (sequence : Int) : List EventError :=
  if m.method? == some "NOTIFY" then
    (Listener.requiredNotifyHeaders.filter fun name => (m.header? name).isNone).map
      (.missingHeader sequence)
  else []

theorem map_text_ofMessage (m : Message) (sequence : Int) :
    (ofMessage m sequence).map text = Listener.notifyErrors m sequence := by
  unfold ofMessage Listener.notifyErrors
  split
  · rw [List.map_map]
    rfl
  · rfl

end EventError

namespace Role

/-- A role whose errors, if it is one that has any, are the given ones. -/
def withErrors (errors : List EventError) : Role → Role
  | subscription _ => .subscription (errors.map (·.text))
  | role => role

/-- What a message adds to the errors of a role depends on the message alone, and the rest of the
role does not depend on the number. -/
theorem noting_withErrors (role : Role) (errors : List EventError) (m : Message)
    (sequence sequence' : Int) :
    (role.withErrors errors).noting m sequence =
      (role.noting m sequence').withErrors (errors ++ EventError.ofMessage m sequence) := by
  cases role with
  | subscription => simp [withErrors, noting, EventError.map_text_ofMessage]
  | _ => rfl

@[simp] theorem className_withErrors (role : Role) (errors : List EventError) :
    (role.withErrors errors).className = role.className := by
  cases role <;> rfl

end Role

namespace Listener

/-! ### The log of the errors -/

/-- The errors that an operation adds to those of a subscription if the next number is the given
one. -/
def Operation.eventErrors (number : Int) : Operation → List EventError
  | .deliver a => (a.message?.map (EventError.ofMessage · number)).getD []
  | .addEventError text => [.noted text]
  | _ => []

/-- The errors since the last disposal: those of each operation, under the number that is next when
it comes. -/
def errorLog (ops : List Operation) : List EventError :=
  ((ops.inits.zip ops).drop (upToDispose ops).length).flatMap fun (before, op) =>
    op.eventErrors ((accepted before).length + 1)

theorem inits_zip_append (ops : List Operation) (op : Operation) :
    (ops ++ [op]).inits.zip (ops ++ [op]) = ops.inits.zip ops ++ [(ops, op)] := by
  induction ops with
  | nil => rfl
  | cons first ops ih =>
    simp only [List.cons_append, List.inits_cons, List.zip_cons_cons, List.zip_map_left, ih,
      List.map_append, List.map_cons, List.map_nil, Prod.map_apply, id_eq]

@[simp] theorem errorLog_append_dispose (ops : List Operation) :
    errorLog (ops ++ [.dispose]) = [] := by
  rw [errorLog, upToDispose_append_dispose, List.drop_eq_nil_of_le, List.flatMap_nil]
  simp

theorem errorLog_append {op : Operation} (h : op.isDispose = false) (ops : List Operation) :
    errorLog (ops ++ [op]) = errorLog ops ++ op.eventErrors ((accepted ops).length + 1) := by
  have hlength : (upToDispose ops).length ≤ (ops.inits.zip ops).length := by
    have := (upToDispose_isPrefix ops).length_le
    simp [this]
  rw [errorLog, upToDispose_append h, inits_zip_append, List.drop_append_of_le_length hlength,
    List.flatMap_append, errorLog]
  simp

end Listener

end SipBench
