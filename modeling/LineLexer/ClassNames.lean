import LineLexer.OrderedMap

/-!
# Token classes

The classes of a language's tokens are numbered in the order in which they are first
named.  A class has the base name that the grammar uses and the full name that an editor
sees, which is the base name followed by the language's postfix.  The empty base name is
the class of unclassified text and stays empty.
-/

namespace LineLexer

/-- The number of a token class. -/
abbrev ClassIndex := Nat

/-- The token classes of a language: the full name of each base name, in order of first
use, which is the base name with `postfixText` after it unless it is empty. -/
structure ClassNames where
  postfixText : String
  fullNames : OrderedMap String

namespace ClassNames

/-- The table without classes. -/
def empty (postfixText : String) : ClassNames :=
  ⟨postfixText, ∅⟩

def fullNameOf (postfixText base : String) : String :=
  if base.isEmpty then "" else base ++ postfixText

def size (classes : ClassNames) : Nat :=
  classes.fullNames.size

def index? (classes : ClassNames) (base : String) : Option ClassIndex :=
  classes.fullNames.position? base

def fullName? (classes : ClassNames) (index : ClassIndex) : Option String :=
  (classes.fullNames.getAt? index).map Prod.snd

def baseName? (classes : ClassNames) (index : ClassIndex) : Option String :=
  (classes.fullNames.getAt? index).map Prod.fst

def toList (classes : ClassNames) : List String :=
  classes.fullNames.toList.map Prod.snd

/-- The table in which a base name has a class: the one it had, or the next one. -/
def add (classes : ClassNames) (base : String) : ClassNames :=
  if classes.fullNames.contains base then classes
  else
    { classes with
      fullNames := classes.fullNames.insert base (fullNameOf classes.postfixText base) }

/-- The number of the class with the given base name, and the table in which it has
one. -/
def intern (classes : ClassNames) (base : String) : ClassIndex × ClassNames :=
  match classes.index? base with
  | some index => (index, classes)
  | none => (classes.size, classes.add base)

/-- The table of some base names, numbered in order of first occurrence. -/
def ofList (postfixText : String) (bases : List String) : ClassNames :=
  bases.foldl add (empty postfixText)

/-- The first segment of a class name, up to its first dot: all of `string`,
`string.escape` and `string.escape.x` are of the family `string`. -/
def family (name : String) : String :=
  String.ofList (name.toList.takeWhile (· != '.'))

end ClassNames

end LineLexer
