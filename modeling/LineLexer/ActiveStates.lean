/-!
# The stack of active states

All that a line hands on to the next one is the stack of states that are active at its
end.  The state at the bottom is never left, so a stack is made of that state and the
states entered above it.
-/

namespace LineLexer

/-- The number of a state of a language. -/
abbrev StateIndex := Nat

/-- The number of the state at a position in the order of declaration.  Numbers have
sixteen bits, so that positions beyond these come round to the first numbers again. -/
def StateIndex.ofPosition (position : Nat) : StateIndex :=
  position.toUInt16.toNat

theorem StateIndex.ofPosition_of_lt {position : Nat} (small : position < 65536) :
    StateIndex.ofPosition position = position :=
  Nat.mod_eq_of_lt small

/-- A stack of active states. -/
structure ActiveStates where
  bottom : StateIndex
  above : List StateIndex
  deriving DecidableEq, Repr, Inhabited

namespace ActiveStates

def single (state : StateIndex) : ActiveStates :=
  ⟨state, []⟩

/-- The innermost state, whose rules apply. -/
def top (stack : ActiveStates) : StateIndex :=
  stack.above.headD stack.bottom

def depth (stack : ActiveStates) : Nat :=
  stack.above.length + 1

def toList (stack : ActiveStates) : List StateIndex :=
  stack.bottom :: stack.above.reverse

def push (stack : ActiveStates) (state : StateIndex) : ActiveStates :=
  { stack with above := state :: stack.above }

/-- The state that leaving the innermost state leaves, and the stack after that.  The
state at the bottom cannot be left. -/
def pop? (stack : ActiveStates) : Option (StateIndex × ActiveStates) :=
  match stack.above with
  | [] => none
  | state :: above => some (state, { stack with above := above })

/-- The stack after leaving all states but the one at the bottom. -/
def popAll (stack : ActiveStates) : ActiveStates :=
  { stack with above := [] }

theorem toList_push (stack : ActiveStates) (state : StateIndex) :
    (stack.push state).toList = stack.toList ++ [state] := by
  simp [push, toList]

/-- Leaving the innermost state takes it off the end of the list. -/
theorem toList_eq_append_of_pop? {stack rest : ActiveStates} {state : StateIndex}
    (popped : stack.pop? = some (state, rest)) :
    stack.toList = rest.toList ++ [state] := by
  obtain ⟨bottom, above⟩ := stack
  cases above with
  | nil => simp [pop?] at popped
  | cons first above =>
      simp only [pop?, Option.some.injEq, Prod.mk.injEq] at popped
      obtain ⟨rfl, rfl⟩ := popped
      simp [toList]

theorem bottom_eq_of_pop? {stack rest : ActiveStates} {state : StateIndex}
    (popped : stack.pop? = some (state, rest)) : rest.bottom = stack.bottom := by
  have heads := congrArg List.head? (toList_eq_append_of_pop? popped)
  exact (Option.some.inj heads).symm

/-- Only the state at the bottom cannot be left. -/
theorem length_toList_of_pop?_eq_none {stack : ActiveStates} (bare : stack.pop? = none) :
    stack.toList.length = 1 := by
  obtain ⟨bottom, above⟩ := stack
  cases above with
  | nil => rfl
  | cons first above => simp [pop?] at bare

theorem toList_popAll (stack : ActiveStates) :
    stack.popAll.toList = stack.toList.take 1 :=
  rfl

theorem getLast?_toList (stack : ActiveStates) :
    stack.toList.getLast? = some stack.top := by
  obtain ⟨bottom, above⟩ := stack
  cases above with
  | nil => rfl
  | cons first above =>
      rw [toList, List.reverse_cons, ← List.cons_append, List.getLast?_concat]
      rfl

theorem length_toList (stack : ActiveStates) : stack.toList.length = stack.depth := by
  simp [toList, depth]

end ActiveStates

end LineLexer
