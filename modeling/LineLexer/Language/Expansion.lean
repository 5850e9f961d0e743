import LineLexer.ActiveStates
import LineLexer.Grammar.Basic
import LineLexer.Language.Defect

/-!
# Expansion of includes

Every state of a grammar stands for a list of rules: its own entries in order, where an
include stands for the rules of the included state, and so on.  The expansion follows
includes depth first and fails at the first state that is not declared or that is already
being expanded.

While a chain of states is being expanded its states are declared and differ from one
another.  So as many further states can be entered as there are declared states outside
the chain, and once there are none left a state that is not one of the chain is not
declared.
-/

namespace LineLexer

/-- A rule with the state in whose own list it stands. -/
structure PlacedRule where
  origin : StateIndex
  originName : String
  pattern : String
  action : Action
  deriving DecidableEq, Repr

namespace Grammar

/-- The rules that a state stands for.  `chain` holds the states that are being expanded,
the innermost first, and `room` is the number of declared states outside the chain. -/
def expandWithin (grammar : Grammar) :
    (room : Nat) → (chain : List String) → (state : String) →
    Except Defect (List PlacedRule)
  | 0, chain, state =>
      if chain.contains state then .error (.includeCycle (chain.reverse ++ [state]))
      else .error (.missingState state)
  | room + 1, chain, state =>
      if chain.contains state then .error (.includeCycle (chain.reverse ++ [state]))
      else
        match grammar.states.position? state, grammar.states.get? state with
        | some position, some entries => do
            let parts ← entries.mapM fun entry =>
              match entry with
              | .rule pattern action =>
                  .ok [⟨StateIndex.ofPosition position, state, pattern, action⟩]
              | .include target =>
                  if grammar.states.contains (plainName target) then
                    grammar.expandWithin room (state :: chain) (plainName target)
                  else .error (.unknownInclude state (plainName target))
            return parts.flatten
        | _, _ => .error (.missingState state)

/-- The rules that a state stands for. -/
def expand (grammar : Grammar) (state : String) : Except Defect (List PlacedRule) :=
  grammar.expandWithin grammar.states.size [] state

end Grammar

end LineLexer
