import LineLexer.Pattern.Basic

/-!
# Waypoints

A loop whose rounds may consume nothing could go round in place, and then it matters which
of its rounds count.  The rule is that no point of a pattern at which a choice is made is
passed twice between two characters: a way that comes back to such a point has gained
nothing and is given up.

In a pattern whose loops always advance this holds by itself.  In any other pattern a
waypoint is put at each choice, and every round of a counted repetition becomes a copy
with waypoints of its own.
-/

namespace LineLexer.Pattern

/-- Whether a pattern may match without consuming anything. -/
def canBeEmpty : Pattern → Bool
  | empty => true
  | waypoint _ => true
  | one _ => false
  | assert _ => true
  | seq first second => first.canBeEmpty && second.canBeEmpty
  | alt first second => first.canBeEmpty || second.canBeEmpty
  | repetition body least _ _ => least == 0 || body.canBeEmpty

/-- Whether every round of every loop consumes something. -/
def loopsAdvance : Pattern → Bool
  | empty => true
  | waypoint _ => true
  | one _ => true
  | assert _ => true
  | seq first second => first.loopsAdvance && second.loopsAdvance
  | alt first second => first.loopsAdvance && second.loopsAdvance
  | repetition body _ (some _) _ => body.loopsAdvance
  | repetition body _ none _ => !body.canBeEmpty && body.loopsAdvance

/-- A waypoint that has not been used before.  The state is the number of waypoints in
use. -/
def newWaypoint : StateM Nat Pattern := fun used => (waypoint used, used + 1)

def copies (body : StateM Nat Pattern) : Nat → StateM Nat Pattern
  | 0 => pure empty
  | count + 1 => do return seq (← body) (← copies body count)

/-- A choice between a pattern and nothing. -/
def optionally (greedy : Bool) (body : StateM Nat Pattern) : StateM Nat Pattern := do
  let point ← newWaypoint
  let body ← body
  return seq point (if greedy then alt body empty else alt empty body)

/-- At most `count` copies of a pattern, where each copy is chosen or not after the one
before it. -/
def optionalCopies (greedy : Bool) (body : StateM Nat Pattern) : Nat → StateM Nat Pattern
  | 0 => pure empty
  | count + 1 =>
      optionally greedy do return seq (← body) (← optionalCopies greedy body count)

/-- A loop of one or more rounds, with a waypoint after each round. -/
def loop (greedy : Bool) (body : StateM Nat Pattern) : StateM Nat Pattern := do
  let body ← body
  let point ← newWaypoint
  return repetition (seq body point) 1 none greedy

/-- The pattern with a waypoint at each choice. -/
def withWaypoints : Pattern → StateM Nat Pattern
  | empty => pure empty
  | waypoint label => pure (waypoint label)
  | one set => pure (one set)
  | assert assertion => pure (assert assertion)
  | seq first second => do return seq (← first.withWaypoints) (← second.withWaypoints)
  | alt first second => do
      let point ← newWaypoint
      return seq point (alt (← first.withWaypoints) (← second.withWaypoints))
  | repetition body least (some most) greedy => do
      let required ← copies body.withWaypoints least
      return seq required (← optionalCopies greedy body.withWaypoints (most - least))
  | repetition body 0 none greedy =>
      if body.canBeEmpty then optionally greedy (loop greedy body.withWaypoints)
      else do
        let point ← newWaypoint
        let body ← body.withWaypoints
        return seq point (repetition (seq body point) 0 none greedy)
  | repetition body (least + 1) none greedy => do
      let required ← copies body.withWaypoints least
      return seq required (← loop greedy body.withWaypoints)

/-- The pattern with waypoints if its loops need them. -/
def settled (pattern : Pattern) : Pattern :=
  if pattern.loopsAdvance then pattern else (pattern.withWaypoints.run 0).1

end LineLexer.Pattern
