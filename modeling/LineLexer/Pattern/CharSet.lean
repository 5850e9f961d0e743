import LineLexer.Text.Blank
import LineLexer.Text.CaseFolding
import LineLexer.Text.DecimalDigit
import LineLexer.Text.WordChar

/-!
# Sets of characters

A set of characters is kept as the expression that describes it, and membership is read
off the expression.  The operations are those of bracket expressions: ranges, named sets,
union, intersection, complement, and the closure of a set under changes of case.
-/

namespace LineLexer.Pattern

/-- An expression for a set of characters.  The members of `anyCase set` are the
characters that have a member of `set` among their case variants. -/
inductive CharSet where
  | nothing
  | range (first last : Char)
  | blank
  | decimalDigit
  | wordChar
  | union (left right : CharSet)
  | inter (left right : CharSet)
  | compl (set : CharSet)
  | anyCase (set : CharSet)
  | asciiAnyCase (set : CharSet)
  deriving DecidableEq, Repr

namespace CharSet

/-- Whether a character belongs to a set. -/
def mem : CharSet → Char → Bool
  | nothing, _ => false
  | range first last, char => first ≤ char && char ≤ last
  | blank, char => Text.isBlank char
  | decimalDigit, char => Text.isDecimalDigit char
  | wordChar, char => Text.isWordChar char
  | union left right, char => left.mem char || right.mem char
  | inter left right, char => left.mem char && right.mem char
  | compl set, char => !set.mem char
  | anyCase set, char => (Text.caseVariants char).any set.mem
  | asciiAnyCase set, char => (Text.asciiCaseVariants char).any set.mem

def single (char : Char) : CharSet :=
  range char char

def unions (sets : List CharSet) : CharSet :=
  sets.foldr union nothing

def ofRanges (ranges : List (Char × Char)) : CharSet :=
  unions (ranges.map fun bounds => range bounds.1 bounds.2)

/-- The members of the left set that the right one lacks. -/
def diff (left right : CharSet) : CharSet :=
  inter left right.compl

/-- The members of exactly one of the two sets. -/
def symmDiff (left right : CharSet) : CharSet :=
  union (diff left right) (diff right left)

def ascii : CharSet :=
  range '\x00' '\x7f'

def asciiDigit : CharSet :=
  range '0' '9'

/-- The white space of ASCII. -/
def asciiBlank : CharSet :=
  ofRanges [('\t', '\r'), (' ', ' ')]

/-- The letters and digits of ASCII and the underscore. -/
def asciiWordChar : CharSet :=
  ofRanges [('0', '9'), ('A', 'Z'), ('_', '_'), ('a', 'z')]

@[simp]
theorem mem_single {char other : Char} : (single char).mem other = (other == char) := by
  rw [Bool.eq_iff_iff]
  simp only [single, mem, Bool.and_eq_true, decide_eq_true_eq, beq_iff_eq]
  exact ⟨fun bounds => Char.le_antisymm bounds.2 bounds.1,
    fun same => same ▸ ⟨Char.le_refl _, Char.le_refl _⟩⟩

@[simp]
theorem mem_diff {left right : CharSet} {char : Char} :
    (diff left right).mem char = (left.mem char && !right.mem char) :=
  rfl

theorem mem_unions {sets : List CharSet} {char : Char} :
    (unions sets).mem char = sets.any (·.mem char) := by
  induction sets with
  | nil => rfl
  | cons set sets ih =>
      rw [List.any_cons, ← ih]
      rfl

end CharSet

end LineLexer.Pattern
