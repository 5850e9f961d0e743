import LineLexer.Palette
import LineLexer.Scan.Document
import LineLexer.Text.Quoted

/-!
# Token dumps

The readable listing of the tokens of a document: a numbered header for each line, one
token on each line after it, and the stack of active states where a line ends inside of
some state.
-/

namespace LineLexer

/-- How tokens are listed: with which colours, with or without byte offsets, and with runs
of one class as one token or not. -/
structure DumpStyle where
  palette : Palette := .plain
  showSpans : Bool := false
  merge : Bool := false

namespace DumpStyle

/-- The byte offsets of a token, filled up to eight columns. -/
def spanText (token : Token) : String :=
  let text := toString token.start ++ ".." ++ toString token.stop
  text ++ String.ofList (List.replicate (8 - text.length) ' ')

def tokenLine (style : DumpStyle) (language : Language) (line : String)
    (token : Token) : String :=
  "  " ++ (if style.showSpans then style.palette.dimmed (spanText token) else "") ++
    style.palette.classLabel (language.className token.classIndex) ++ " " ++
    Text.quoted (token.text line) ++ "\n"

/-- The listing of the stack at the end of a line, where it has more than one state. -/
def stackLine (style : DumpStyle) (language : Language) (stack : ActiveStates) : String :=
  if stack.above.isEmpty then ""
  else "  " ++ style.palette.dimmed ("-> " ++ language.stackText stack) ++ "\n"

def lineText (style : DumpStyle) (language : Language) (number : Nat) (line : String)
    (lexed : LexedLine) : String :=
  let shown := lexed.mergedIf style.merge
  style.palette.dimmed ("L" ++ toString number) ++ "\n" ++
    String.join (shown.tokens.map (style.tokenLine language line)) ++
    style.stackLine language shown.endStack

/-- The listing of a document.  The lines of the text are taken side by side with what the
language finds in them. -/
def dump (style : DumpStyle) (language : Language) (text : String) : String :=
  String.join <|
    ((Text.documentLines text).zip (language.lexDocument text)).mapIdx
      fun index (line, lexed) => style.lineText language (index + 1) line lexed

end DumpStyle

end LineLexer
