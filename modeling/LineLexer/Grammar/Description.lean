import LineLexer.Grammar.Basic

/-!
# Descriptions of actions

The one-line texts for guards, transitions and actions, as rule tables and written
grammars show them.
-/

namespace LineLexer

/-- A guard as text: the name of its set, or `@default`. -/
def Guard.description : Guard → String
  | inSet setName => "@" ++ setName
  | otherwise => "@default"

/-- A transition as text: the state that is entered, or `@pop` or `@popall`. -/
def Transition.description : Transition → String
  | push stateName => "@" ++ stateName
  | pop => "@pop"
  | popAll => "@popall"

/-- An emission as text: a class name, `@brackets`, or the arms of a case table in
braces. -/
def Emission.description : Emission → String
  | token className => className
  | brackets => "@brackets"
  | cases arms =>
      "\x7b " ++ ", ".intercalate
        (arms.map fun arm => arm.1.description ++ ": " ++ arm.2) ++ " \x7d"

/-- An action as text: its emission and, after an arrow, its transition. -/
def Action.description (action : Action) : String :=
  match action.transition with
  | none => action.emission.description
  | some transition => action.emission.description ++ " -> " ++ transition.description

end LineLexer
