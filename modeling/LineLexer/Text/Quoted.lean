import LineLexer.Text.Visible

/-!
# Quoted text

A text in double quotes, on one line and with every character visible.  Five control
characters, the quote and the backslash have short escapes; any other character that would
not show is written as its code point in lower-case hexadecimal between `\u{` and `}`.
-/

namespace LineLexer.Text

/-- A code point in lower-case hexadecimal, without leading zeros. -/
def hexDigits (code : Nat) : List Char :=
  Nat.toDigits 16 code

/-- The written form of a character between quotes. -/
def quotedChar (char : Char) : List Char :=
  if char = '\x00' then ['\\', '0']
  else if char = '\t' then ['\\', 't']
  else if char = '\r' then ['\\', 'r']
  else if char = '\n' then ['\\', 'n']
  else if char = '"' then ['\\', '"']
  else if char = '\\' then ['\\', '\\']
  else if isVisible char then [char]
  else ['\\', 'u', '\x7b'] ++ hexDigits char.toNat ++ ['\x7d']

def quoted (text : String) : String :=
  String.ofList ('"' :: text.toList.flatMap quotedChar ++ ['"'])

end LineLexer.Text
