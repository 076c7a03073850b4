/-!
# Runs of a case mapping

A simple case mapping of Unicode sends most letters to a letter at a fixed
distance, and letters with the same distance come in runs: either a block of
consecutive code points, or every second code point of a block where capital
and small letters alternate.  A `Run` records one such run, and a mapping is a
list of runs that never overlap.

**Results.**
* `Run.covers_first`: a run covers its own first code point.
-/

namespace RestQuery
namespace Text
namespace Case

/-- Every `step`-th code point from `first` through `last` maps to itself moved by `shift`. -/
structure Run where
  first : Nat
  last : Nat
  step : Nat
  shift : Int
  deriving Repr, DecidableEq

/-- Whether the run contains a code point. -/
def Run.covers (r : Run) (n : Nat) : Bool :=
  decide (r.first ≤ n) && decide (n ≤ r.last) && (n - r.first) % r.step == 0

/-- The image of a code point under a run. -/
def Run.apply (r : Run) (n : Nat) : Nat :=
  (Int.ofNat n + r.shift).toNat

/-- The image of a code point under the first run of a list that covers it. -/
def lookupRun (runs : List Run) (n : Nat) : Option Nat :=
  (runs.find? fun r => r.covers n).map fun r => r.apply n

/-- The expansion recorded for a code point in a list of full mappings. -/
def lookupExpansion (table : List (Nat × List Nat)) (n : Nat) : Option (List Nat) :=
  (table.find? fun e => e.1 == n).map Prod.snd

/-- Whether a code point lies in one of a list of closed ranges. -/
def inRanges (ranges : List (Nat × Nat)) (n : Nat) : Bool :=
  ranges.any fun r => decide (r.1 ≤ n ∧ n ≤ r.2)

theorem Run.covers_first (r : Run) (h : r.first ≤ r.last) : r.covers r.first = true := by
  simp [Run.covers, h]

end Case
end Text
end RestQuery
