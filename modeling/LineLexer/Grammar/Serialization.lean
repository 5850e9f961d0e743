import LineLexer.Grammar.Description
import LineLexer.Json

/-!
# Grammars as JSON

The JSON form in which a grammar is handed to editors.  A case table is an object whose
keys are the guards of its arms; arms with the same guard give the same key more than
once.
-/

namespace LineLexer

def BracketPair.toJson (pair : BracketPair) : Json :=
  .object [("open", .text pair.opening), ("close", .text pair.closing),
    ("token", .text pair.className)]

/-- An emission as JSON: a text, or an object for a case table. -/
def Emission.toJson : Emission → Json
  | cases arms => .object (arms.map fun arm => (arm.1.description, .text arm.2))
  | emission => .text emission.description

def Action.toJson (action : Action) : Json :=
  .object <|
    ("token", action.emission.toJson) ::
      (action.transition.map fun transition =>
        ("next", .text transition.description)).toList

def Entry.toJson : Entry → Json
  | rule pattern action => .object [("regex", .text pattern), ("action", action.toJson)]
  | .include stateName => .object [("include", .text ("@" ++ stateName))]

/-- A grammar as JSON.  The start state is left out when it is not given. -/
def Grammar.toJson (grammar : Grammar) : Json :=
  .object <|
    [("name", .text grammar.name),
      ("defaultToken", .text grammar.defaultClass),
      ("tokenPostfix", .text grammar.postfixText),
      ("ignoreCase", .bool grammar.ignoreCase)] ++
    (grammar.start.map fun name => ("start", Json.text name)).toList ++
    [("brackets", .list (grammar.brackets.map BracketPair.toJson)),
      ("keywordSets",
        .object (grammar.wordSets.toList.map fun entry => (entry.1, .texts entry.2))),
      ("tokenizer",
        .object (grammar.states.toList.map fun entry =>
          (entry.1, .list (entry.2.map Entry.toJson))))]

end LineLexer
