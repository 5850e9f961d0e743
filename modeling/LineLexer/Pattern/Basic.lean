import LineLexer.Pattern.CharSet

/-!
# Patterns

The patterns of lexer rules, after flags and bracket expressions have been resolved.  A
pattern is tried at a cursor in a text; it sees the text from the start of the current
token only, so nothing stands before the first cursor.
-/

namespace LineLexer.Pattern

/-- The characters that word boundaries distinguish from all others: letters, digits and
the underscore of ASCII, or the word characters of all scripts. -/
inductive WordKind where
  | ascii
  | unicode
  deriving DecidableEq, Repr

/-- Whether a character is part of a word. -/
def WordKind.mem : WordKind → Char → Bool
  | .ascii, char => CharSet.asciiWordChar.mem char
  | .unicode, char => Text.isWordChar char

/-- Whether there is a character and it is part of a word. -/
def WordKind.memOption (kind : WordKind) : Option Char → Bool
  | none => false
  | some char => kind.mem char

/-- The conditions on the two sides of a cursor that a pattern can ask for without
consuming anything.  Lines end at line feeds, or at carriage returns, line feeds and the
two together. -/
inductive Assertion where
  | textStart
  | textEnd
  | lineStart
  | lineEnd
  | anyLineStart
  | anyLineEnd
  | wordBoundary (kind : WordKind)
  | notWordBoundary (kind : WordKind)
  | wordStart (kind : WordKind)
  | wordEnd (kind : WordKind)
  | wordStartHalf (kind : WordKind)
  | wordEndHalf (kind : WordKind)
  deriving DecidableEq, Repr

/-- Whether an assertion holds between the character before the cursor and the one after
it. -/
def Assertion.holds : Assertion → Option Char → Option Char → Bool
  | .textStart, before, _ => before.isNone
  | .textEnd, _, after => after.isNone
  | .lineStart, before, _ => before.isNone || before == some '\n'
  | .lineEnd, _, after => after.isNone || after == some '\n'
  | .anyLineStart, before, after =>
      before.isNone || before == some '\n' || (before == some '\r' && after != some '\n')
  | .anyLineEnd, before, after =>
      after.isNone || after == some '\r' || (after == some '\n' && before != some '\r')
  | .wordBoundary kind, before, after => kind.memOption before != kind.memOption after
  | .notWordBoundary kind, before, after => kind.memOption before == kind.memOption after
  | .wordStart kind, before, after => !kind.memOption before && kind.memOption after
  | .wordEnd kind, before, after => kind.memOption before && !kind.memOption after
  | .wordStartHalf kind, before, _ => !kind.memOption before
  | .wordEndHalf kind, _, after => !kind.memOption after

end LineLexer.Pattern

namespace LineLexer

/-- A pattern.  Where a text can be matched in several ways, the order of the alternatives
and the greed of the repetitions say which way is preferred: a greedy repetition prefers
more rounds, any other fewer.  A waypoint consumes nothing and matches only once between
two characters. -/
inductive Pattern where
  | empty
  | waypoint (label : Nat)
  | one (set : Pattern.CharSet)
  | assert (assertion : Pattern.Assertion)
  | seq (first second : Pattern)
  | alt (first second : Pattern)
  | repetition (body : Pattern) (least : Nat) (most : Option Nat) (greedy : Bool)
  deriving DecidableEq, Repr

namespace Pattern

def sequence : List Pattern → Pattern
  | [] => empty
  | [pattern] => pattern
  | pattern :: patterns => seq pattern (sequence patterns)

/-- A choice between the patterns of a list, the first of which is preferred most. -/
def choice : List Pattern → Pattern
  | [] => empty
  | [pattern] => pattern
  | pattern :: patterns => alt pattern (choice patterns)

/-- Whether a pattern consumes nothing wherever it matches. -/
def hasNoWidth : Pattern → Bool
  | empty => true
  | waypoint _ => true
  | one _ => false
  | assert _ => true
  | seq first second => first.hasNoWidth && second.hasNoWidth
  | alt first second => first.hasNoWidth && second.hasNoWidth
  | repetition body _ most _ => most == some 0 || body.hasNoWidth

/-- The bounds that `least` and `most` set on the rounds of a repetition.  Of rounds that
consume nothing one is as good as more. -/
def roundBounds (body : Pattern) (least : Nat) (most : Option Nat) : Nat × Option Nat :=
  if body.hasNoWidth then (min least 1, some (min (most.getD 1) 1)) else (least, most)

end Pattern

end LineLexer
