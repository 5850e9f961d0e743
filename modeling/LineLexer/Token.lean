import LineLexer.ActiveStates
import LineLexer.ClassNames
import LineLexer.Json
import LineLexer.Text.Utf8

/-!
# Tokens and lexed lines

A token is a span of a line with a class.  It holds byte offsets and no text; the text is
cut from the line when it is needed.  A lexed line is the list of its tokens with the
stack that the next line starts from.
-/

namespace LineLexer

/-- The side of a bracket pair. -/
inductive Side where
  | opening
  | closing
  deriving DecidableEq, Repr

def Side.name : Side → String
  | opening => "open"
  | closing => "close"

/-- A token of a line, with its side if the bracket table gives it one. -/
structure Token where
  start : Nat
  stop : Nat
  classIndex : ClassIndex
  side : Option Side
  deriving DecidableEq, Repr

/-- What is told of a token while a line is scanned: its span and its class. -/
structure ClassedSpan where
  start : Nat
  stop : Nat
  classIndex : ClassIndex
  deriving DecidableEq, Repr

namespace Token

def classedSpan (token : Token) : ClassedSpan :=
  ⟨token.start, token.stop, token.classIndex⟩

/-- The number of bytes of a token. -/
def length (token : Token) : Nat :=
  token.stop - token.start

def isEmpty (token : Token) : Bool :=
  token.start == token.stop

/-- Whether a byte belongs to a token. -/
def covers (token : Token) (offset : Nat) : Bool :=
  token.start ≤ offset && offset < token.stop

def text (token : Token) (line : String) : String :=
  Text.slice line token.start token.stop

/-- Whether two tokens, one after the other, are parts of one run: they touch, have the
same class, and neither is a bracket. -/
def joins (first second : Token) : Bool :=
  first.classIndex == second.classIndex && first.side.isNone && second.side.isNone &&
    first.stop == second.start

/-- A token as JSON, with its class as a number. -/
def toJson (token : Token) : Json :=
  .object <|
    [("start", .number token.start), ("end", .number token.stop),
      ("class", .number token.classIndex)] ++
    (token.side.map fun side => ("bracket", Json.text side.name)).toList

end Token

/-- A line that has been cut into tokens, with the stack at its end. -/
structure LexedLine where
  tokens : List Token
  endStack : ActiveStates
  deriving DecidableEq, Repr

namespace LexedLine

/-- Merges each token of a list into the token before it where the two are parts of one
run.  `current` is the token before the list. -/
def mergeFrom (current : Token) : List Token → List Token
  | [] => [current]
  | token :: tokens =>
      if current.joins token then mergeFrom { current with stop := token.stop } tokens
      else current :: mergeFrom token tokens

/-- The tokens with each run of touching tokens of one class made one token.  Brackets
stay apart. -/
def mergeTokens : List Token → List Token
  | [] => []
  | token :: tokens => mergeFrom token tokens

def merged (line : LexedLine) : LexedLine :=
  { line with tokens := mergeTokens line.tokens }

def mergedIf (line : LexedLine) (merge : Bool) : LexedLine :=
  if merge then line.merged else line

/-- The token at a byte offset: the first that covers it or else, for an offset past the
line, the last. -/
def tokenAt? (line : LexedLine) (offset : Nat) : Option Token :=
  match line.tokens.find? (·.covers offset) with
  | some token => some token
  | none => line.tokens.getLast?.filter fun token => token.stop ≤ offset

def classAt? (line : LexedLine) (offset : Nat) : Option ClassIndex :=
  (line.tokenAt? offset).map Token.classIndex

/-- The class of the token that holds the byte before a cursor; at the start of a line
there is none. -/
def classBefore? (line : LexedLine) : (offset : Nat) → Option ClassIndex
  | 0 => none
  | offset + 1 => line.classAt? offset

def texts (lexed : LexedLine) (line : String) : List String :=
  lexed.tokens.map (·.text line)

/-- A lexed line as JSON, with classes and states as numbers. -/
def toJson (line : LexedLine) : Json :=
  .object [("tokens", .list (line.tokens.map Token.toJson)),
    ("endStack", .list (line.endStack.toList.map .number))]

end LexedLine

end LineLexer
