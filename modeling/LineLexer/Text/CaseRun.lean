/-!
# Runs of case pairs

The standard's case mappings pair the characters of one run with those of another, either
each code point or every second one.  A mapping is a list of such runs.
-/

namespace LineLexer.Text

/-- The code points `first`, `first + step`, …, `last`, mapped in order to the code points
that start at `target` and have the same step. -/
structure CaseRun where
  first : Nat
  last : Nat
  step : Nat
  target : Nat
  deriving DecidableEq, Repr

namespace CaseRun

/-- The image of a code point, if the run holds it. -/
def image? (run : CaseRun) (code : Nat) : Option Nat :=
  if run.first ≤ code ∧ code ≤ run.last ∧ (code - run.first) % run.step = 0 then
    some (run.target + (code - run.first))
  else
    none

/-- The code point that the run maps to `code`, if there is one. -/
def preimage? (run : CaseRun) (code : Nat) : Option Nat :=
  if run.target ≤ code ∧ code ≤ run.target + (run.last - run.first) ∧
      (code - run.target) % run.step = 0 then
    some (run.first + (code - run.target))
  else
    none

end CaseRun

/-- The image of a character under the first run that holds it; a character of no run is
its own image. -/
def mapCase (runs : List CaseRun) (char : Char) : Char :=
  match runs.findSome? (·.image? char.toNat) with
  | some code => Char.ofNat code
  | none => char

end LineLexer.Text
