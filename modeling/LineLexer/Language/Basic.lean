import LineLexer.ActiveStates
import LineLexer.ClassNames
import LineLexer.Grammar.Basic
import LineLexer.Pattern.Matcher
import Std.Data.TreeMap

/-!
# Languages

A language is a grammar made ready for cutting lines: includes are replaced by the rules
they stand for, names by numbers, patterns by their meaning and case tables by one
look-up.  States and classes are numbered from zero, states in order of declaration and
classes in order of first use.
-/

namespace LineLexer

/-- A case table: the class of each word of its sets, and the class of every other
text. -/
structure CaseTable where
  classOf : Std.TreeMap String ClassIndex
  otherwise : ClassIndex

/-- How a rule chooses the class of a matched text. -/
inductive Classifier where
  | token (index : ClassIndex)
  | brackets
  | cases (table : CaseTable)

/-- What a rule does to the stack of active states. -/
inductive StackChange where
  | push (state : StateIndex)
  | pop
  | popAll
  deriving DecidableEq, Repr

structure Rule where
  patternText : String
  action : Action
  origin : StateIndex
  pattern : Matcher
  classifier : Classifier
  change : Option StackChange

structure LexState where
  name : String
  rules : List Rule

/-- A bracket pair of a language. -/
structure BracketEntry where
  opening : String
  closing : String
  classIndex : ClassIndex

/-- A language. -/
structure Language where
  name : String
  ignoreCase : Bool
  classes : ClassNames
  states : Array LexState
  start : StateIndex
  defaultClass : ClassIndex
  brackets : List BracketEntry

namespace Language

/-- The stack at the start of a document. -/
def initialStack (language : Language) : ActiveStates :=
  .single language.start

/-- The rules of a state; a number that is no state's has none. -/
def rules (language : Language) (state : StateIndex) : List Rule :=
  match language.states[state]? with
  | some lexState => lexState.rules
  | none => []

/-- The name of a state; a number that is no state's has the empty name. -/
def stateName (language : Language) (state : StateIndex) : String :=
  match language.states[state]? with
  | some lexState => lexState.name
  | none => ""

/-- The number of the state with the given name, which may be written with a leading
`@`. -/
def stateIndex? (language : Language) (name : String) : Option StateIndex :=
  let plain := plainName name
  (language.states.findIdx? (·.name == plain)).map StateIndex.ofPosition

/-- The full name of a class; a number that is no class's has the empty name. -/
def className (language : Language) (index : ClassIndex) : String :=
  (language.classes.fullName? index).getD ""

/-- The base name of a class; a number that is no class's has the empty name. -/
def baseName (language : Language) (index : ClassIndex) : String :=
  (language.classes.baseName? index).getD ""

/-- The names of the states of a stack, from the bottom to the top. -/
def stackNames (language : Language) (stack : ActiveStates) : List String :=
  stack.toList.map language.stateName

/-- A stack as text, such as `[root, comment]`. -/
def stackText (language : Language) (stack : ActiveStates) : String :=
  "[" ++ ", ".intercalate (language.stackNames stack) ++ "]"

end Language

end LineLexer
