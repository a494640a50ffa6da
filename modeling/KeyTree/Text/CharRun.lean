/-!
# `KeyTree.Text.CharRun`: sets of characters as runs

A set of characters is written as a list of runs, each a first and a last
code point and the step between members. The runs of a list increase and
do not overlap, so a search ends at the first run that starts too late.
-/

set_option autoImplicit false

namespace KeyTree

/-- The code points `first`, `first + step`, … up to `last`. -/
structure CharRun where
  first : Nat
  last : Nat
  step : Nat
  deriving DecidableEq, Repr

/-- Whether a code point belongs to the run. -/
def CharRun.contains (run : CharRun) (n : Nat) : Bool :=
  decide (run.first ≤ n) && decide (n ≤ run.last) && (n - run.first) % run.step == 0

/-- Whether a code point belongs to one of some increasing runs. -/
def inRuns : List CharRun → Nat → Bool
  | [], _ => false
  | run :: rest, n => if n < run.first then false else run.contains n || inRuns rest n

/-- A run whose members are all mapped by the same distance. -/
structure CharShift where
  run : CharRun
  distance : Int
  deriving DecidableEq, Repr

/-- Where a code point is mapped by increasing shifts; itself if by none. -/
def shiftBy : List CharShift → Nat → Nat
  | [], n => n
  | shift :: rest, n =>
    if n < shift.run.first then n
    else if shift.run.contains n then (n + shift.distance).toNat
    else shiftBy rest n

end KeyTree
