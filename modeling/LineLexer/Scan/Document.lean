import LineLexer.Scan.Line
import LineLexer.Text.Lines

/-!
# Scanning a document

The lines of a document are scanned one after the other, each from the stack that the line
before it ended with.
-/

namespace LineLexer.Language

/-- The runs of some lines, the first of which starts with the given stack. -/
def runLines (language : Language) (stack : ActiveStates) : List String → List LineRun
  | [] => []
  | line :: lines =>
      let run := language.runLine stack line
      run :: language.runLines run.endStack lines

def runDocument (language : Language) (text : String) : List LineRun :=
  language.runLines language.initialStack (Text.documentLines text)

/-- Cuts the lines of a document into tokens. -/
def lexDocument (language : Language) (text : String) : List LexedLine :=
  (language.runDocument text).map LineRun.lexed

end LineLexer.Language
