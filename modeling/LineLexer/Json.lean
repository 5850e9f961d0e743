/-!
# JSON text

The JSON values that the reports are made of, and their two written forms: compact, on one
line without blanks, and pretty, with one item a line and two blanks a level.  The fields
of an object keep their order, and a key may occur more than once.
-/

namespace LineLexer

/-- A JSON value without fractions and nulls.  The fields of an object are in the order in
which they are written. -/
inductive Json where
  | number (value : Nat)
  | bool (value : Bool)
  | text (value : String)
  | list (items : List Json)
  | object (fields : List (String × Json))

namespace Json

/-- The hexadecimal digit, in lower case, of a number below sixteen. -/
def hexDigit (value : Nat) : Char :=
  Nat.digitChar value

/-- The written form of a character inside a text: quotes, backslashes and control
characters are escaped. -/
def escapedChar (char : Char) : List Char :=
  if char = '"' then ['\\', '"']
  else if char = '\\' then ['\\', '\\']
  else if char = '\x08' then ['\\', 'b']
  else if char = '\x0c' then ['\\', 'f']
  else if char = '\n' then ['\\', 'n']
  else if char = '\r' then ['\\', 'r']
  else if char = '\t' then ['\\', 't']
  else if char.toNat < 32 then
    ['\\', 'u', '0', '0', hexDigit (char.toNat / 16), hexDigit (char.toNat % 16)]
  else [char]

/-- A text between quotes. -/
def escaped (text : String) : String :=
  String.ofList ('"' :: text.toList.flatMap escapedChar ++ ['"'])

mutual

/-- The form on one line, without blanks. -/
def compact : Json → String
  | .number value => toString value
  | .bool true => "true"
  | .bool false => "false"
  | .text value => escaped value
  | .list items => "[" ++ ",".intercalate (compactItems items) ++ "]"
  | .object fields => "\x7b" ++ ",".intercalate (compactFields fields) ++ "\x7d"

def compactItems : List Json → List String
  | [] => []
  | item :: items => item.compact :: compactItems items

/-- The compact forms of the fields of an object. -/
def compactFields : List (String × Json) → List String
  | [] => []
  | (key, value) :: fields =>
      (escaped key ++ ":" ++ value.compact) :: compactFields fields

end

/-- The blanks before an item of the given level. -/
def indentation (level : Nat) : String :=
  String.ofList (List.replicate (2 * level) ' ')

/-- Items one a line between brackets; no items give the brackets alone. -/
def bracketed (opening closing : String) (level : Nat) (items : List String) : String :=
  if items.isEmpty then
    opening ++ closing
  else
    opening ++ "\n" ++ indentation (level + 1) ++
      (",\n" ++ indentation (level + 1)).intercalate items ++
      "\n" ++ indentation level ++ closing

mutual

/-- The form with one item a line, for a value that stands at the given level. -/
def prettyAt (level : Nat) : Json → String
  | .number value => toString value
  | .bool true => "true"
  | .bool false => "false"
  | .text value => escaped value
  | .list items => bracketed "[" "]" level (prettyItems (level + 1) items)
  | .object fields => bracketed "\x7b" "\x7d" level (prettyFields (level + 1) fields)

def prettyItems (level : Nat) : List Json → List String
  | [] => []
  | item :: items => item.prettyAt level :: prettyItems level items

/-- The pretty forms of the fields of an object. -/
def prettyFields (level : Nat) : List (String × Json) → List String
  | [] => []
  | (key, value) :: fields =>
      (escaped key ++ ": " ++ value.prettyAt level) :: prettyFields level fields

end

/-- The form with one item a line. -/
def pretty (value : Json) : String :=
  value.prettyAt 0

def texts (values : List String) : Json :=
  .list (values.map .text)

/-- The written form that is asked for. -/
def render (value : Json) (isPretty : Bool) : String :=
  if isPretty then value.pretty else value.compact

end Json

end LineLexer
