import LineLexer.Json

/-!
# Editor configuration

What an editor needs to know of a language beside its tokens: how comments are written,
which texts are brackets, and which texts are closed as soon as they are typed.
-/

namespace LineLexer

/-- A pair of texts of which an editor adds the second when the first is typed, but not
inside of the classes with the base names in `notIn`. -/
structure ClosingPair where
  opening : String
  closing : String
  notIn : List String
  deriving DecidableEq, Repr

structure EditorConfiguration where
  lineComment : Option String := none
  blockComment : Option (String × String) := none
  brackets : List (String × String) := []
  closingPairs : List ClosingPair := []
  deriving DecidableEq, Repr

/-- Whether a class is `ancestor` or one of its subclasses, whose names go on with a dot:
`string` has the subclass `string.escape`. -/
def isSubclass (name ancestor : String) : Bool :=
  name == ancestor || (ancestor.toList ++ ['.']).isPrefixOf name.toList

namespace EditorConfiguration

def addBrackets (configuration : EditorConfiguration) (opening closing : String) :
    EditorConfiguration :=
  { configuration with brackets := configuration.brackets ++ [(opening, closing)] }

def addClosingPair (configuration : EditorConfiguration) (opening closing : String)
    (notIn : List String) : EditorConfiguration :=
  { configuration with
    closingPairs := configuration.closingPairs ++ [⟨opening, closing, notIn⟩] }

/-- The text to add when `opening` is typed inside a token of the class, which is given by
its base name.  The first pair with that opening text decides. -/
def closingFor? (configuration : EditorConfiguration) (opening : String)
    (className : Option String) : Option String :=
  match configuration.closingPairs.find? (·.opening == opening) with
  | none => none
  | some pair =>
      match className with
      | none => some pair.closing
      | some name => if pair.notIn.any (isSubclass name) then none else some pair.closing

def pairJson (pair : String × String) : Json :=
  .texts [pair.1, pair.2]

/-- An automatically closed pair as JSON.  The list of classes is left out when it is
empty. -/
def closingPairJson (pair : ClosingPair) : Json :=
  .object <|
    [("open", .text pair.opening), ("close", .text pair.closing)] ++
    (if pair.notIn.isEmpty then [] else [("notIn", .texts pair.notIn)])

/-- A configuration as JSON.  Kinds of comments that the language lacks are left out. -/
def toJson (configuration : EditorConfiguration) : Json :=
  .object [
    ("comments", .object <|
      (configuration.lineComment.map fun text =>
        ("lineComment", Json.text text)).toList ++
      (configuration.blockComment.map fun pair =>
        ("blockComment", pairJson pair)).toList),
    ("brackets", .list (configuration.brackets.map pairJson)),
    ("autoClosingPairs", .list (configuration.closingPairs.map closingPairJson))]

end EditorConfiguration

end LineLexer
