import SipBench.Number

/-!
# Polling pairs

How often an await evaluates its condition and how long it goes on.  Times are numbers of any kind
with an order, so that a pair can hold the doubles of a configuration, the numbers given to one
await or exact rationals.
-/

namespace SipBench

/-- The seconds between two evaluations and the seconds after which an await gives up. -/
structure Polling (τ : Type) where
  interval : τ
  timeout : τ
  deriving DecidableEq

namespace Polling

/-- Every 100 ms for at most 10 seconds. -/
def standard : Polling Double :=
  ⟨Double.ofDecimal false 1 (-1), Double.ofInt 10⟩

end Polling

end SipBench
