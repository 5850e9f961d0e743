import LineLexer.Pattern.Parse
import LineLexer.Proofs.Pattern.Bounds

/-!
# Pattern engines

All that the rest of the lexer knows about patterns: a reader turns the written form of a
pattern into a matcher or reports why it does not, and a matcher tells how much of a text
it takes.  No more is relied on than that a match ends within the text, so nothing in the
lexer depends on which patterns an engine knows.

The engine that the programs run is the one for the patterns of `Pattern.parse`.
-/

namespace LineLexer

/-- A pattern as it is used.  `matchLength? text` is the number of characters that the
preferred match at the start of the text takes. -/
structure Matcher where
  matchLength? : List Char → Option Nat
  le_length : ∀ {text count}, matchLength? text = some count → count ≤ text.length

/-- How an engine reads the written form of patterns, regarding the case of letters or
not.  What it does not accept it refuses in words of its own. -/
abbrev PatternReader :=
  (ignoreCase : Bool) → (text : String) → Except String Matcher

namespace Pattern

/-- The matcher of a pattern. -/
def matcher (pattern : Pattern) : Matcher where
  matchLength? := pattern.matchLength?
  le_length := matchLength?_le_length

/-- The reader for the patterns of `parse`. -/
def read : PatternReader := fun ignoreCase text =>
  match parse ignoreCase text with
  | .ok pattern => .ok pattern.matcher
  | .error fault => .error fault.message

theorem read_eq_ok_iff {ignoreCase : Bool} {text : String} {matcher : Matcher} :
    read ignoreCase text = .ok matcher ↔
      ∃ pattern, parse ignoreCase text = .ok pattern ∧ pattern.matcher = matcher := by
  rw [read]
  cases parse ignoreCase text with
  | error fault => simp
  | ok pattern => simp

end Pattern

end LineLexer
