import SipBench.Fault.Basic
import SipBench.Polling

/-!
# The polling pair of one await

Each of interval and timeout is the one given to the await or, where none is given, the default.
The pair of one await need not be in proportion: an interval longer than the timeout is allowed.

* `Polling.resolve` : the pair, or why an await cannot use it
* `Polling.budget` : the evaluations after which an await is given up
-/

namespace SipBench.Polling

/-- The number given for a field, or the default. -/
def given (v : Value) (standard : Double) : Except Fault Number :=
  match v with
  | .none => .ok (.real standard)
  | .number n => if n.toDouble?.isSome then .ok n else .error .tooLarge
  | v => .error (.wrongType s!"must be real number, not {v.typeName}")

/-- The polling pair of an await. -/
def resolve (defaults : Polling Double) (interval timeout : Value) :
    Except Fault (Polling Number) := do
  -- both kinds are looked at before either number is, the interval first
  let interval ← checked (given interval defaults.interval) (Number.less (.whole 0)) .interval
  let timeout ← checked (given timeout defaults.timeout) (Number.atMost (.whole 0)) .timeout
  return ⟨interval, timeout⟩
where
  /-- A finite number for which `fits` holds. -/
  checked (n : Except Fault Number) (fits : Number → Bool) (refuse : Number → PollingError) :
      Except Fault Number :=
    match n with
    | .error fault => .error fault
    | .ok n => if n.isFinite && fits n then .ok n else .error (.polling (refuse n))

/-- The least natural that is at least `a / b`; zero unless both are positive numbers. -/
def ceilQuotient (a b : Number) : Nat :=
  match a.place, b.place with
  | .at m₁ e₁, .at m₂ e₂ =>
    let (x, y, _) := Double.align (m₁, e₁) (m₂, e₂)
    (x.toNat + y.toNat - 1) / y.toNat
  | _, _ => 0

/-- Twice the evaluations that the pair asks for, since rounded sleeps may be shorter than the
interval, and some more, since the world may set its clock back. -/
def budget (p : Polling Number) : Nat := 2 * ceilQuotient p.timeout p.interval + 1000

end SipBench.Polling
