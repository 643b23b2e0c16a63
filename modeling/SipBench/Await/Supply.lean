import SipBench.Await.Call
import SipBench.Await.Target

/-!
# Awaits on values

An await on a value is an await on the condition that the next value of a supplier is accepted.
That the condition has held is all that such an await tells, so the accepted value is kept beside
the state, and the value kept last is the answer.  The values may be of any kind.

* `Await.acceptNext` : the condition
* `Await.callValue` : the answer of a call
-/

namespace SipBench.Await

variable {σ ν : Type}

/-- Asks whether the next value is accepted; if so, the value is kept and nothing is answered. -/
def acceptNext (shown : ν → Except Fault String) (supply : σ → Except Fault ν × σ)
    (ask : Target.Question σ ν) : List ν × σ → Except Fault Value × (List ν × σ) :=
  fun (kept, s) =>
    match supply s with
    | (.error fault, s) => (.error fault, kept, s)
    | (.ok value, s) =>
      match ask value s with
      | (.error fault, s) => (.error fault, kept, s)
      | (.ok answer, s) =>
        if answer.truthy then (.ok .none, kept ++ [value], s)
        else (.error (.refusal (shown value)), kept, s)

/-- The value kept last. -/
def lastKept (kept : List ν) : Except Fault ν :=
  match kept.getLast? with
  | some value => .ok value
  | none => .error (.raised (.named "IndexError") (.text "list index out of range"))

/-- Waits until a supplier gives a value that equals the expected one or that the matcher accepts,
whichever of the two is given.  The description `what` is made only after that is clear, which may
fail, and it is part of what the world is told. -/
def callValue (world : Value → World σ Number) (fuel : Polling Number → Nat)
    (defaults : Polling Double) (interval timeout : Value) (what : Except Fault Value)
    (kind : Target.Kind σ ν) (supply : σ → Except Fault ν × σ) (expected : Option ν)
    (matcher : Option (Target.Question σ ν)) (s : σ) : Except Fault ν × σ :=
  match Target.question? kind expected matcher, what with
  | .error fault, _ | .ok _, .error fault => (.error fault, s)
  | .ok ask, .ok what =>
    let (result, kept, s) := call ((world what).beside (List ν)) fuel defaults interval timeout what
      (.ofCall (acceptNext kind.shown supply ask)) ([], s)
    (result.bind fun _ => lastKept kept, s)

end SipBench.Await
