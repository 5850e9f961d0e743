import LineLexer.Pattern.Flags

/-!
# Escapes

What a backslash and the characters after it stand for: a character, a named set, or an
assertion.
-/

namespace LineLexer.Pattern

/-- The smallest things that a pattern is made of. -/
inductive Element where
  | literal (literal : Literal)
  | named (set : CharSet)
  | assertion (assertion : Assertion)

namespace Element

/-- The value of a hexadecimal digit. -/
def hexValue? (char : Char) : Option Nat :=
  if '0' ≤ char ∧ char ≤ '9' then some (char.toNat - '0'.toNat)
  else if 'a' ≤ char ∧ char ≤ 'f' then some (char.toNat - 'a'.toNat + 10)
  else if 'A' ≤ char ∧ char ≤ 'F' then some (char.toNat - 'A'.toNat + 10)
  else none

/-- The character with the given code point, if there is one. -/
def charOfCode? (code : Nat) : Option Char :=
  if code.isValidChar then some (Char.ofNat code) else none

/-- Reads exactly `count` hexadecimal digits onto `value`. -/
def readHexDigits (flags : Flags) :
    (count value : Nat) → List Char → Option (Nat × List Char)
  | 0, value, text => some (value, text)
  | _ + 1, _, [] => none
  | count + 1, value, char :: rest => do
      let digit ← hexValue? char
      readHexDigits flags count (16 * value + digit) (flags.skip rest)

/-- Reads hexadecimal digits onto `value`, at least one of them, up to a closing brace. -/
def readHexBraces (flags : Flags) :
    (room value : Nat) → List Char → Option (Nat × List Char)
  | 0, _, _ => none
  | _ + 1, _, [] => none
  | room + 1, value, char :: rest => do
      let digit ← hexValue? char
      match flags.skip rest with
      | '\x7d' :: rest => some (16 * value + digit, flags.skip rest)
      | rest => readHexBraces flags room (16 * value + digit) rest

/-- Reads the code point of a character: a fixed number of hexadecimal digits, or any
number in braces. -/
def readHex (flags : Flags) (digits : Nat) (text : List Char) :
    Option (Element × List Char) := do
  match flags.skip text with
  | '\x7b' :: rest =>
      let (code, rest) ← readHexBraces flags (rest.length + 1) 0 (flags.skip rest)
      let char ← charOfCode? code
      some (.literal ⟨char, false⟩, rest)
  | text =>
      let (code, rest) ← readHexDigits flags digits 0 text
      let char ← charOfCode? code
      some (.literal ⟨char, digits == 2⟩, rest)

/-- Whether a character can stand in the name of a special word boundary. -/
def isBoundaryNameChar (char : Char) : Bool :=
  char.isAlpha || char == '-'

/-- Reads the rest of a special word boundary's name, up to the closing brace. -/
def readBoundaryName (flags : Flags) :
    (room : Nat) → (name : List Char) → List Char → Option (List Char × List Char)
  | 0, _, _ => none
  | _ + 1, _, [] => none
  | room + 1, name, char :: rest =>
      if char = '\x7d' then some (name.reverse, rest)
      else if isBoundaryNameChar char then
        readBoundaryName flags room (char :: name) (flags.skip rest)
      else none

/-- Reads what may follow `\b`: the name of a special word boundary in braces.  Braces
that do not start with a name are left for a repetition. -/
def readWordBoundary (flags : Flags) (text : List Char) : Option (Element × List Char) :=
  let kind := flags.wordKind
  match text with
  | '\x7b' :: rest =>
      match flags.skip rest with
      | [] => none
      | char :: inner =>
          if isBoundaryNameChar char then do
            let (name, rest) ← readBoundaryName flags (rest.length + 1) [] (char :: inner)
            match String.ofList name with
            | "start" => some (.assertion (.wordStart kind), rest)
            | "end" => some (.assertion (.wordEnd kind), rest)
            | "start-half" => some (.assertion (.wordStartHalf kind), rest)
            | "end-half" => some (.assertion (.wordEndHalf kind), rest)
            | _ => none
          else some (.assertion (.wordBoundary kind), text)
  | text => some (.assertion (.wordBoundary kind), text)

/-- Whether a character may be escaped to stand for itself: every ASCII character that is
not a letter, a digit or an angle bracket. -/
def isEscapable (char : Char) : Bool :=
  char.toNat < 128 && !char.isAlphanum && char != '<' && char != '>'

/-- Reads what follows a backslash. -/
def readEscape (flags : Flags) : List Char → Option (Element × List Char)
  | [] => none
  | char :: rest =>
      let sets :=
        if flags.unicode then (CharSet.decimalDigit, CharSet.blank, CharSet.wordChar)
        else (CharSet.asciiDigit, CharSet.asciiBlank, CharSet.asciiWordChar)
      let plain := fun char => some (literal ⟨char, false⟩, rest)
      let other := fun set => (flags.complement? set).map fun set => (named set, rest)
      match char with
      | 'x' => readHex flags 2 rest
      | 'u' => readHex flags 4 rest
      | 'U' => readHex flags 8 rest
      | 'd' => some (.named sets.1, rest)
      | 'D' => other sets.1
      | 's' => some (.named sets.2.1, rest)
      | 'S' => other sets.2.1
      | 'w' => some (.named sets.2.2, rest)
      | 'W' => other sets.2.2
      | 'a' => plain '\x07'
      | 'f' => plain '\x0c'
      | 't' => plain '\t'
      | 'n' => plain '\n'
      | 'r' => plain '\r'
      | 'v' => plain '\x0b'
      | 'A' => some (.assertion .textStart, rest)
      | 'z' => some (.assertion .textEnd, rest)
      | 'b' => readWordBoundary flags rest
      | 'B' => some (.assertion (.notWordBoundary flags.wordKind), rest)
      | '<' => some (.assertion (.wordStart flags.wordKind), rest)
      | '>' => some (.assertion (.wordEnd flags.wordKind), rest)
      | char => if isEscapable char then plain char else none

end Element

end LineLexer.Pattern
