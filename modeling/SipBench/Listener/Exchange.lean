import SipBench.Listener.Run

/-!
# Listeners and handles together

A test has any number of listeners and of transaction handles.  A delivery goes to one listener and
may name one handle, which then gets the record that the listener stores; a handle may also be given
a record directly.  Each of these is one step, as in the run of a single listener.

* `Exchange` : all listeners and handles
* `Exchange.perform` : one operation
* `Exchange.run` : a list of operations
-/

namespace SipBench

/-- The listeners and the transaction handles of a test, by their names. -/
structure Exchange (L H : Type) where
  listeners : L → Listener
  handles : H → Transaction

namespace Exchange

/-- What can be done with listeners and handles. -/
inductive Operation (L H : Type) where
  /-- A delivery to the listener `i` that names the handle `h`. -/
  | deliver (i : L) (a : Arrival) (h : H)
  /-- An operation on the listener `i` alone, a delivery without a handle among them. -/
  | operate (i : L) (op : Listener.Operation)
  /-- A record that is given to the handle `h` directly. -/
  | addEvent (h : H) (r : EventRecord)

variable {L H : Type}

section

variable [DecidableEq L]

/-- Replaces a listener. -/
def putListener (e : Exchange L H) (i : L) (l : Listener) : Exchange L H :=
  { e with listeners := fun j => if j = i then l else e.listeners j }

@[simp] theorem putListener_self (e : Exchange L H) (i : L) (l : Listener) :
    (e.putListener i l).listeners i = l := if_pos rfl

@[simp] theorem putListener_handles (e : Exchange L H) (i : L) (l : Listener) :
    (e.putListener i l).handles = e.handles := rfl

end

section

variable [DecidableEq H]

/-- Replaces a handle. -/
def putHandle (e : Exchange L H) (h : H) (t : Transaction) : Exchange L H :=
  { e with handles := fun k => if k = h then t else e.handles k }

@[simp] theorem putHandle_self (e : Exchange L H) (h : H) (t : Transaction) :
    (e.putHandle h t).handles h = t := if_pos rfl

@[simp] theorem putHandle_listeners (e : Exchange L H) (h : H) (t : Transaction) :
    (e.putHandle h t).listeners = e.listeners := rfl

end

/-- New listeners, and handles that have just been opened. -/
def new (role : L → Role) (name : L → String) (handles : H → Transaction) : Exchange L H where
  listeners i := .new (role i) (name i)
  handles h := { handles h with events := [] }

variable [DecidableEq L] [DecidableEq H]

/-- The answer to an operation, and what listeners and handles are after it. -/
def perform (e : Exchange L H) : Operation L H → Listener.Answer × Exchange L H
  | .deliver i a h =>
    let d := (e.listeners i).receive { a with handle := some (e.handles h) }
    (.delivered d.result,
      (e.putListener i d.listener).putHandle h (d.handle.getD (e.handles h)))
  | .operate i op =>
    let (answer, l) := (e.listeners i).perform op
    (answer, e.putListener i l)
  | .addEvent h r =>
    (.done (r.summary.map fun _ => ()), e.putHandle h ((e.handles h).addEvent r))

/-- Listeners and handles after some operations. -/
def run (e : Exchange L H) (ops : List (Operation L H)) : Exchange L H :=
  ops.foldl (fun e op => (e.perform op).2) e

end Exchange

end SipBench
