import LineLexer.Pattern.Basic

/-!
# Flags of the pattern language

Flags change how a pattern is read.  They are set for the rest of a group or for a group
of their own, and every construct takes its meaning from the flags in force where it
stands.
-/

namespace LineLexer.Pattern

/-- The flags in force at a place in a pattern.  With `swapGreed` repetitions are lazy
unless marked, with `anyLineEnd` a carriage return ends a line too, and with `verbose`
white space and comments in the pattern mean nothing. -/
structure Flags where
  ignoreCase : Bool := false
  multiLine : Bool := false
  dotAll : Bool := false
  swapGreed : Bool := false
  unicode : Bool := true
  anyLineEnd : Bool := false
  verbose : Bool := false
  deriving DecidableEq, Repr

namespace Flags

/-- The flags after turning the flag with the given letter on or off, if there is such a
flag. -/
def set? (flags : Flags) (letter : Char) (on : Bool) : Option Flags :=
  match letter with
  | 'i' => some { flags with ignoreCase := on }
  | 'm' => some { flags with multiLine := on }
  | 's' => some { flags with dotAll := on }
  | 'U' => some { flags with swapGreed := on }
  | 'u' => some { flags with unicode := on }
  | 'R' => some { flags with anyLineEnd := on }
  | 'x' => some { flags with verbose := on }
  | _ => none

/-- Drops white space and comments; a comment goes from `#` to the end of its line. -/
def skipInsignificant (inComment : Bool) : List Char → List Char
  | [] => []
  | char :: rest =>
      if inComment then skipInsignificant (char != '\n') rest
      else if Text.isBlank char then skipInsignificant false rest
      else if char = '#' then skipInsignificant true rest
      else char :: rest

/-- What is left of the pattern's text once the characters that mean nothing here are
dropped. -/
def skip (flags : Flags) (text : List Char) : List Char :=
  if flags.verbose then skipInsignificant false text else text

/-- The kind of words that word boundaries are about. -/
def wordKind (flags : Flags) : WordKind :=
  if flags.unicode then .unicode else .ascii

/-- The meaning of `^`. -/
def lineStart (flags : Flags) : Assertion :=
  if !flags.multiLine then .textStart
  else if flags.anyLineEnd then .anyLineStart
  else .lineStart

/-- The meaning of `$`. -/
def lineEnd (flags : Flags) : Assertion :=
  if !flags.multiLine then .textEnd
  else if flags.anyLineEnd then .anyLineEnd
  else .lineEnd

/-- The meaning of `.`.  Without Unicode it would be any byte, which can be half a
character, so then it has none. -/
def dot? (flags : Flags) : Option CharSet :=
  if !flags.unicode then none
  else if flags.dotAll then some CharSet.nothing.compl
  else if flags.anyLineEnd then some (CharSet.union (.single '\r') (.single '\n')).compl
  else some (CharSet.single '\n').compl

/-- The closure of a set under changes of case, where case is ignored. -/
def closeUnderCase (flags : Flags) (set : CharSet) : CharSet :=
  if !flags.ignoreCase then set
  else if flags.unicode then set.anyCase
  else set.asciiAnyCase

/-- The complement of a set.  Without Unicode sets are sets of bytes, and they stay within
ASCII because a byte above it is half a character.  A complement would leave ASCII, so
there it has no meaning. -/
def complement? (flags : Flags) (set : CharSet) : Option CharSet :=
  if flags.unicode then some set.compl else none

/-- The meaning of a set that may be written as a complement. -/
def complementIf? (flags : Flags) (negated : Bool) (set : CharSet) : Option CharSet :=
  if negated then flags.complement? set else some set

end Flags

/-- A character as it is written in a pattern, or the two hexadecimal digits of a byte. -/
structure Literal where
  char : Char
  isByte : Bool

/-- The meaning of a literal outside brackets.  Without Unicode a byte above ASCII has
none. -/
def Literal.toSet? (flags : Flags) (literal : Literal) : Option CharSet :=
  if flags.unicode then
    if flags.ignoreCase then
      some (.unions ((Text.caseVariants literal.char).map .single))
    else
      some (.single literal.char)
  else if literal.isByte && 128 ≤ literal.char.toNat then none
  else if flags.ignoreCase then
    some (.unions ((Text.asciiCaseVariants literal.char).map .single))
  else
    some (.single literal.char)

/-- The meaning of a literal inside brackets.  Without Unicode a character above ASCII has
none. -/
def Literal.inBrackets? (flags : Flags) (literal : Literal) : Option Char :=
  if !flags.unicode && 128 ≤ literal.char.toNat then none else some literal.char

end LineLexer.Pattern
