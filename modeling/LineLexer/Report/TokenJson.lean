import LineLexer.Scan.Document

/-!
# Tokens as JSON

The listing of the tokens of a document for other programs, with names in place of
numbers.
-/

namespace LineLexer.Language

def tokenJson (language : Language) (line : String) (token : Token) : Json :=
  .object <|
    [("start", .number token.start), ("end", .number token.stop),
      ("class", .text (language.className token.classIndex)),
      ("text", .text (token.text line))] ++
    (token.side.map fun side => ("bracket", Json.text side.name)).toList

def lineJson (language : Language) (merge : Bool) (number : Nat) (line : String)
    (lexed : LexedLine) : Json :=
  let shown := lexed.mergedIf merge
  .object [("line", .number number),
    ("tokens", .list (shown.tokens.map (language.tokenJson line))),
    ("endStack", .texts (language.stackNames shown.endStack))]

def documentJson (language : Language) (merge : Bool) (text : String) : Json :=
  .list <|
    ((Text.documentLines text).zip (language.lexDocument text)).mapIdx
      fun index (line, lexed) => language.lineJson merge (index + 1) line lexed

end LineLexer.Language
