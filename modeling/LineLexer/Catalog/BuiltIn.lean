import LineLexer.Catalog.PowerQuery
import LineLexer.Scan.Document
import LineLexer.Text.EditDistance

/-!
# The built-in languages

The languages that are known by name.  Each has aliases, which are looked up without
regard to the case of ASCII letters, and file extensions.  A name that is no alias may
still be close to one, which is then suggested.
-/

namespace LineLexer

/-- A language that is known by name.  Its own name is one of the aliases. -/
structure BuiltIn where
  name : String
  aliases : List String
  extensions : List String
  grammar : Grammar
  configuration : EditorConfiguration
  language : Language
  compile_grammar : grammar.compile = .ok language

namespace BuiltIn

def powerQuery : BuiltIn where
  name := "powerquery"
  aliases := ["powerquery", "pq", "m", "powerquery-m"]
  extensions := ["pq", "pqm"]
  grammar := PowerQuery.grammar
  configuration := PowerQuery.configuration
  language := PowerQuery.language
  compile_grammar := PowerQuery.compile_grammar

/-- All built-in languages. -/
def all : List BuiltIn :=
  [powerQuery]

/-- The language with the given alias. -/
def ofName? (name : String) : Option BuiltIn :=
  all.find? (·.aliases.contains name.toLower)

/-- The language whose files have the given extension. -/
def ofExtension? (extension : String) : Option BuiltIn :=
  all.find? (·.extensions.contains extension.toLower)

/-- The greatest edit distance at which an alias is still suggested. -/
def suggestionLimit : Nat := 2

/-- The least edit distance between an alias of the language and a name in lower case. -/
def distance (builtIn : BuiltIn) (name : String) : Option Nat :=
  (builtIn.aliases.map fun alternative =>
    Text.editDistance alternative.toList (Text.lowerCase name).toList).min?

/-- Of two suggestions with their distances, the nearer one, or the first of two that are
equally near. -/
def nearer (first second : Nat × BuiltIn) : Nat × BuiltIn :=
  if second.1 < first.1 then second else first

/-- The language whose nearest alias is nearest to a name, if it is near enough to be
meant. -/
def suggestion? (name : String) : Option BuiltIn :=
  let candidates := all.filterMap fun builtIn =>
    (builtIn.distance name).bind fun distance =>
      if distance ≤ suggestionLimit then some (distance, builtIn) else none
  match candidates with
  | [] => none
  | candidate :: candidates => some (candidates.foldl nearer candidate).2

/-- The text to add when `opening` is typed at a byte offset of a lexed line of the
language.  The token that holds the byte before the offset decides. -/
def closingFor? (builtIn : BuiltIn) (opening : String) (line : LexedLine) (offset : Nat) :
    Option String :=
  builtIn.configuration.closingFor? opening
    ((line.classBefore? offset).map builtIn.language.baseName)

/-- A line about the language: its name, its other aliases and its extensions. -/
def listing (builtIn : BuiltIn) : String :=
  let others := builtIn.aliases.filter (· != builtIn.name)
  builtIn.name ++
    (if others.isEmpty then "" else " (" ++ ", ".intercalate others ++ ")") ++
    (if builtIn.extensions.isEmpty then ""
      else "  [" ++ " ".intercalate (builtIn.extensions.map ("." ++ ·)) ++ "]") ++ "\n"

end BuiltIn

end LineLexer
