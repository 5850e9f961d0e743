import LineLexer.ClassNames

/-!
# Colours

The reports can be coloured with terminal escape sequences.  A token class is coloured by
its family, so that every language that names its classes in the usual way gets a sensible
picture.
-/

namespace LineLexer

/-- The escape sequences of the colours that the reports use; all empty when colours are
off.  Comments, white space and what structures a report are dim. -/
structure Palette where
  blue : String
  green : String
  yellow : String
  magenta : String
  dim : String
  reset : String

namespace Palette

/-- The colours of a terminal with sixteen colours. -/
def ansi : Palette where
  blue := "\x1b[34m"
  green := "\x1b[32m"
  yellow := "\x1b[33m"
  magenta := "\x1b[35m"
  dim := "\x1b[2m"
  reset := "\x1b[0m"

/-- No colours. -/
def plain : Palette where
  blue := ""
  green := ""
  yellow := ""
  magenta := ""
  dim := ""
  reset := ""

/-- Colours or none. -/
def ofChoice (colored : Bool) : Palette :=
  if colored then ansi else plain

def isEnabled (palette : Palette) : Bool :=
  !palette.blue.isEmpty

/-- The colour of a token class; a class of another family has none. -/
def forClass (palette : Palette) (name : String) : String :=
  match ClassNames.family name with
  | "keyword" | "type" | "constant" | "constructor" => palette.blue
  | "string" => palette.green
  | "number" => palette.yellow
  | "operators" | "delimiter" => palette.magenta
  | "comment" | "white" => palette.dim
  | _ => ""

/-- A text that is dim from its start to its end. -/
def dimmed (palette : Palette) (text : String) : String :=
  palette.dim ++ text ++ palette.reset

/-- The name of a token class in its colour.  The class without a name is shown as
`(none)`. -/
def classLabel (palette : Palette) (name : String) : String :=
  if name.isEmpty then palette.dimmed "(none)"
  else palette.forClass name ++ name ++ palette.reset

end Palette

end LineLexer
