/-!
# Defects of grammars

The faults for which a grammar is refused.  A grammar without them gives a language that
can cut every text.
-/

namespace LineLexer

/-- A fault of a grammar.  `state` is the state in whose own list the faulty entry stands,
and `pattern` the pattern of the faulty rule.  The path of a circle of includes leads from
an outermost state to a state that it already holds, and the report on a pattern is in the
words of its reader. -/
inductive Defect where
  | missingState (state : String)
  | tooManyStates (count : Nat)
  | invalidBracket (opening closing : String)
  | unknownInclude (state includedState : String)
  | includeCycle (path : List String)
  | invalidPattern (state pattern report : String)
  | missingBrackets (state pattern : String)
  | unknownWordSet (state pattern setName : String)
  | unknownPushTarget (state pattern target : String)
  deriving DecidableEq, Repr

/-- The sentence that reports a defect. -/
def Defect.message : Defect → String
  | missingState state => "start state '" ++ state ++ "' is not defined"
  | tooManyStates count =>
      "too many states (" ++ toString count ++ "), at most 65535 are supported"
  | invalidBracket opening closing =>
      "bracket pair '" ++ opening ++ "' '" ++ closing ++
        "' must have non-empty delimiters and class"
  | unknownInclude state includedState =>
      "state '" ++ state ++ "' includes undefined state '" ++ includedState ++ "'"
  | includeCycle path => "include cycle: " ++ " -> ".intercalate path
  | invalidPattern state pattern report =>
      "invalid pattern /" ++ pattern ++ "/ in state '" ++ state ++ "': " ++ report
  | missingBrackets state pattern =>
      "rule /" ++ pattern ++ "/ in state '" ++ state ++
        "' uses @brackets but no brackets are defined"
  | unknownWordSet state pattern setName =>
      "rule /" ++ pattern ++ "/ in state '" ++ state ++
        "' refers to undefined keyword set '" ++ setName ++ "'"
  | unknownPushTarget state pattern target =>
      "rule /" ++ pattern ++ "/ in state '" ++ state ++ "' pushes undefined state '" ++
        target ++ "'"

end LineLexer
