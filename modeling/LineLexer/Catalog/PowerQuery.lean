import LineLexer.EditorConfiguration
import LineLexer.Language.Compile

/-!
# Power Query

The grammar and the editor configuration of the Power Query formula language, also known
as M.  Words and their boundaries are those of ASCII, as in the editors that use the same
patterns.
-/

namespace LineLexer.PowerQuery

/-- The keywords that are operators. -/
def operatorKeywords : List String :=
  ["and", "not", "or"]

/-- All other keywords. -/
def keywords : List String :=
  ["as", "each", "else", "error", "false", "if", "in", "is", "let", "meta", "otherwise",
    "section", "shared", "then", "true", "try", "type"]

/-- The functions that construct values. -/
def constructors : List String :=
  ["#binary", "#date", "#datetime", "#datetimezone", "#duration", "#table", "#time"]

def constants : List String :=
  ["#infinity", "#nan", "#sections", "#shared"]

/-- The names of primitive types. -/
def typeKeywords : List String :=
  ["action", "any", "anynonnull", "none", "null", "logical", "number", "time", "date",
    "datetime", "datetimezone", "duration", "text", "binary", "list", "record", "table",
    "function"]

/-- The classes of words, tried in this order. -/
def wordCases : List (Guard × String) :=
  [(.inSetNamed "@typeKeywords", "type"), (.inSetNamed "@keywords", "keyword"),
    (.inSetNamed "@constants", "constant"), (.inSetNamed "@constructors", "constructor"),
    (.inSetNamed "@operatorKeywords", "operators"), (.otherwise, "identifier")]

/-- The rules outside comments and strings. -/
def rootEntries : List Entry :=
  [.rule "#\"[0-9A-Za-z_ .]+\"" (.ofClass "identifier.quote"),
    .rule "[0-9]*\\.[0-9]+([eE][\\-+]?[0-9]+)?" (.ofClass "number.float"),
    .rule "0[xX][0-9a-fA-F]+" (.ofClass "number.hex"),
    .rule "[0-9]+([eE][\\-+]?[0-9]+)?" (.ofClass "number"),
    .rule "#?[a-z]+(?-u:\\b)" (.ofCases wordCases),
    .rule "(?-u:\\b)[a-zA-Z_][0-9A-Za-z_.]*(?-u:\\b)" (.ofClass "identifier"),
    .includeNamed "@whitespace",
    .includeNamed "@comments",
    .includeNamed "@strings",
    .rule "[\x7b\x7d()\\[\\]]" .ofBrackets,
    .rule "([=+<>\\-*&@?/!])|([<>]=)|(<>)|(=>)|(\\.\\.\\.)|(\\.\\.)"
      (.ofClass "operators"),
    .rule "[,;]" (.ofClass "delimiter")]

def grammar : Grammar :=
  let base : Grammar := { name := "powerquery", postfixText := ".pq" }
  base
    |>.addBrackets "[" "]" "delimiter.square"
    |>.addBrackets "\x7b" "\x7d" "delimiter.brackets"
    |>.addBrackets "(" ")" "delimiter.parenthesis"
    |>.addWordSet "operatorKeywords" operatorKeywords
    |>.addWordSet "keywords" keywords
    |>.addWordSet "constructors" constructors
    |>.addWordSet "constants" constants
    |>.addWordSet "typeKeywords" typeKeywords
    |>.addState "root" rootEntries
    |>.addState "whitespace" [.rule "\\s+" (.ofClass "white")]
    |>.addState "comments"
      [.rule "/\\*" ((Action.ofClass "comment").push "@comment"),
        .rule "//+.*" (.ofClass "comment")]
    |>.addState "comment"
      [.rule "\\*/" (Action.ofClass "comment").pop,
        .rule "." (.ofClass "comment")]
    |>.addState "strings"
      [.rule "\"" ((Action.ofClass "string").push "@string")]
    |>.addState "string"
      [.rule "\"\"" (.ofClass "string.escape"),
        .rule "\"" (Action.ofClass "string").pop,
        .rule "." (.ofClass "string")]

/-- The classes inside of which an opening delimiter is not closed automatically. -/
def unclosedClasses : List String :=
  ["string", "comment", "identifier.quote"]

def configuration : EditorConfiguration :=
  let base : EditorConfiguration :=
    { lineComment := some "//", blockComment := some ("/*", "*/") }
  base
    |>.addBrackets "[" "]"
    |>.addBrackets "(" ")"
    |>.addBrackets "\x7b" "\x7d"
    |>.addClosingPair "\"" "\"" unclosedClasses
    |>.addClosingPair "[" "]" unclosedClasses
    |>.addClosingPair "(" ")" unclosedClasses
    |>.addClosingPair "\x7b" "\x7d" unclosedClasses

/-- The grammar has no defects. -/
theorem isSome_compile_grammar : grammar.compile.toOption.isSome = true := by
  decide +kernel

def language : Language :=
  grammar.compile.toOption.get isSome_compile_grammar

/-- The grammar gives the language. -/
theorem compile_grammar : grammar.compile = .ok language := by
  have isValue : grammar.compile.toOption = some language :=
    (Option.some_get isSome_compile_grammar).symm
  generalize grammar.compile = compiled at isValue
  cases compiled with
  | error defect => simp [Except.toOption] at isValue
  | ok value => exact congrArg Except.ok (Option.some.inj isValue)

end LineLexer.PowerQuery
