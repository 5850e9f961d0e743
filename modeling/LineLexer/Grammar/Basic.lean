import LineLexer.OrderedMap

/-!
# Grammars

A grammar describes how a language is cut into tokens: named states with ordered rules,
named sets of words, and a table of brackets.  It is plain data, and may refer to states
and sets that do not exist; a language is made from it by compiling, which finds every
such fault.

The names of states and of word sets may be written with a leading `@`, which does not
belong to the name.
-/

namespace LineLexer

/-- A pair of brackets and the class of the tokens on both of its sides. -/
structure BracketPair where
  opening : String
  closing : String
  className : String
  deriving DecidableEq, Repr

/-- The condition on a matched text under which an arm of a case table applies. -/
inductive Guard where
  | inSet (setName : String)
  | otherwise
  deriving DecidableEq, Repr

/-- How the class of a matched text is chosen: by name, by the bracket table, which also
says which side of a pair the text is, or by the first guard that holds. -/
inductive Emission where
  | token (className : String)
  | brackets
  | cases (arms : List (Guard × String))
  deriving DecidableEq, Repr

/-- What happens to the stack of active states after a match. -/
inductive Transition where
  | push (stateName : String)
  | pop
  | popAll
  deriving DecidableEq, Repr

/-- What a rule does with a match. -/
structure Action where
  emission : Emission
  transition : Option Transition
  deriving DecidableEq, Repr

/-- An entry in the rule list of a state: a rule, or the rules of another state in its
place. -/
inductive Entry where
  | rule (pattern : String) (action : Action)
  | include (stateName : String)
  deriving DecidableEq, Repr

/-- A grammar.  Classes are given by their base names, and `defaultClass` is that of text
that no rule matches. -/
structure Grammar where
  name : String
  defaultClass : String := ""
  postfixText : String := ""
  ignoreCase : Bool := false
  start : Option String := none
  brackets : List BracketPair := []
  wordSets : OrderedMap (List String) := ∅
  states : OrderedMap (List Entry) := ∅

/-- A name without the one `@` that may stand before it. -/
def plainName (name : String) : String :=
  match name.toList with
  | '@' :: rest => String.ofList rest
  | _ => name

namespace Guard

/-- The guard for the words of a set. -/
def inSetNamed (name : String) : Guard :=
  inSet (plainName name)

end Guard

namespace Action

/-- Gives matches a class. -/
def ofClass (className : String) : Action :=
  ⟨.token className, none⟩

/-- Gives matches the class that the bracket table says. -/
def ofBrackets : Action :=
  ⟨.brackets, none⟩

/-- Gives matches the class that a case table says. -/
def ofCases (arms : List (Guard × String)) : Action :=
  ⟨.cases arms, none⟩

/-- The action named by a text: `@brackets` for the bracket table, and any other text for
a class. -/
def named (text : String) : Action :=
  if text = "@brackets" then ofBrackets else ofClass text

def push (action : Action) (stateName : String) : Action :=
  { action with transition := some (.push (plainName stateName)) }

/-- The action that also leaves the active state. -/
def pop (action : Action) : Action :=
  { action with transition := some .pop }

/-- The action that also leaves all states but the one at the bottom. -/
def popAll (action : Action) : Action :=
  { action with transition := some .popAll }

end Action

namespace Entry

/-- The entry for the rules of another state. -/
def includeNamed (stateName : String) : Entry :=
  .include (plainName stateName)

end Entry

namespace Grammar

def withStart (grammar : Grammar) (stateName : String) : Grammar :=
  { grammar with start := some (plainName stateName) }

def addBrackets (grammar : Grammar) (opening closing className : String) : Grammar :=
  { grammar with brackets := grammar.brackets ++ [⟨opening, closing, className⟩] }

/-- Adds a word set, or replaces the words of the set with this name. -/
def addWordSet (grammar : Grammar) (name : String) (words : List String) : Grammar :=
  { grammar with wordSets := grammar.wordSets.insert (plainName name) words }

/-- Adds a state, or replaces the entries of the state with this name. -/
def addState (grammar : Grammar) (name : String) (entries : List Entry) : Grammar :=
  { grammar with states := grammar.states.insert (plainName name) entries }

/-- The name of the start state: the given one, or else that of the first state. -/
def startName? (grammar : Grammar) : Option String :=
  match grammar.start with
  | some name => some name
  | none => grammar.states.keys.head?

/-- The name of the start state, which is `root` when no state is declared and none is
given. -/
def startName (grammar : Grammar) : String :=
  grammar.startName?.getD "root"

end Grammar

end LineLexer
