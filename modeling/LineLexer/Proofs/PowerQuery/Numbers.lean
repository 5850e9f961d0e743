import LineLexer.Proofs.Pattern.Longest
import LineLexer.Proofs.PowerQuery.Words

/-!
# Numbers of Power Query

Three patterns with optional parts are tried for numbers, one after the other, and the
first that matches is taken.  Still a line that begins with a number begins with the
longest number as its first token.  Each of the patterns prefers its longest match, and
where two forms of numbers begin a line, the one that is tried first is the longer one.
-/

namespace LineLexer.PowerQuery

open Pattern Grammar

def IsDigits (text : List Char) : Prop :=
  text ≠ [] ∧ ∀ char ∈ text, char.isDigit = true

/-- A complete exponent: its letter, possibly a sign, and digits. -/
def IsExponent (text : List Char) : Prop :=
  ∃ letter sign digits, text = letter :: (sign ++ digits) ∧ letter ∈ ['e', 'E'] ∧
    (sign = [] ∨ sign = ['-'] ∨ sign = ['+']) ∧ IsDigits digits

def isHexDigit (char : Char) : Bool :=
  char.isDigit || ('a' ≤ char && char ≤ 'f') || ('A' ≤ char && char ≤ 'F')

inductive NumberForm where
  | float
  | hex
  | integer
  deriving DecidableEq, Repr

namespace NumberForm

/-- The texts of a form. -/
def Holds : NumberForm → List Char → Prop
  | float, text => ∃ whole fraction exponent,
      text = whole ++ '.' :: (fraction ++ exponent) ∧
      (∀ char ∈ whole, char.isDigit = true) ∧ IsDigits fraction ∧
      (exponent = [] ∨ IsExponent exponent)
  | hex, text => ∃ letter digits, text = '0' :: letter :: digits ∧ letter ∈ ['x', 'X'] ∧
      digits ≠ [] ∧
      ∀ char ∈ digits, isHexDigit char = true
  | integer, text => ∃ digits exponent, text = digits ++ exponent ∧ IsDigits digits ∧
      (exponent = [] ∨ IsExponent exponent)

def className : NumberForm → String
  | float => "number.float"
  | hex => "number.hex"
  | integer => "number"

def pattern : NumberForm → Pattern
  | float => floatPattern
  | hex => hexPattern
  | integer => integerPattern

def rule (form : NumberForm) : Pattern × Action :=
  (form.pattern, .ofClass form.className)

/-- The forms in the order in which they are tried. -/
def all : List NumberForm :=
  [float, hex, integer]

theorem mem_all (form : NumberForm) : form ∈ all := by
  cases form <;> decide

end NumberForm

/-- A text is a number of some form. -/
def IsNumber (text : List Char) : Prop :=
  ∃ form : NumberForm, form.Holds text

/-- The rules for numbers stand between those for quoted identifiers and for words. -/
theorem rootPatterns_eq :
    rootPatterns =
      (quotedPattern, .ofClass "identifier.quote") ::
        (NumberForm.all.map NumberForm.rule ++ rootPatterns.drop 4) :=
  rfl

/-! ### The texts that the patterns take -/

section Texts

variable {before : Option Char} {taken rest : List Char} {char : Char}

theorem mem_asciiDigit : CharSet.asciiDigit.mem char = char.isDigit :=
  rfl

theorem takes_digits_iff :
    (repetition (one .asciiDigit) 1 none true).Takes before taken rest ↔
    IsDigits taken := by
  rw [takes_loop_iff, IsDigits, ← List.length_pos_iff]
  exact Iff.rfl

theorem takes_exponent_iff :
    exponentPattern.Takes before taken rest ↔ taken = [] ∨ IsExponent taken := by
  simp only [exponentPattern, takes_optional_iff, Pattern.sequence, takes_seq_iff,
    takes_one_iff, takes_digits_iff]
  refine or_congr_right ⟨?_, ?_⟩
  · rintro ⟨_, _, rfl, ⟨letter, rfl, isLetter⟩, sign, digits, rfl, isSign, areDigits⟩
    refine ⟨letter, sign, digits, rfl, by simpa [mem_ofRanges] using isLetter,
      isSign.imp_right ?_, areDigits⟩
    rintro ⟨char, rfl, isMember⟩
    simpa [mem_ofRanges] using isMember
  · rintro ⟨letter, sign, digits, rfl, isLetter, isSign, areDigits⟩
    refine ⟨[letter], _, rfl, ⟨letter, rfl, by simpa [mem_ofRanges] using isLetter⟩, sign,
      digits, rfl, isSign.imp_right ?_, areDigits⟩
    rintro (rfl | rfl)
    · exact ⟨_, rfl, by decide⟩
    · exact ⟨_, rfl, by decide⟩

theorem mem_hexSet :
    (CharSet.ofRanges [('0', '9'), ('a', 'f'), ('A', 'F')]).mem char =
      isHexDigit char := by
  simp only [mem_ofRanges, List.any_cons, List.any_nil, Bool.or_false, mem_digit,
    isHexDigit, Bool.or_assoc]
  rfl

/-- The pattern of a form takes its texts, wherever they stand. -/
theorem NumberForm.takes_iff {form : NumberForm} :
    form.pattern.Takes before taken rest ↔ form.Holds taken := by
  cases form with
  | float =>
      simp only [pattern, floatPattern, Pattern.sequence, takes_seq_iff, takes_one_iff,
        takes_digits_iff, takes_exponent_iff, CharSet.mem_single, beq_iff_eq]
      constructor
      · rintro ⟨whole, _, rfl, areDigits, _, _, rfl, ⟨_, rfl, rfl⟩, fraction, exponent,
          rfl, isFraction, isExponent⟩
        exact ⟨whole, fraction, exponent, rfl, (takes_loop_iff.mp areDigits).2,
          isFraction, isExponent⟩
      · rintro ⟨whole, fraction, exponent, rfl, areDigits, isFraction, isExponent⟩
        exact ⟨whole, _, rfl, takes_loop_iff.mpr ⟨Nat.zero_le _, areDigits⟩, ['.'], _,
          rfl, ⟨_, rfl, rfl⟩, fraction, exponent, rfl, isFraction, isExponent⟩
  | hex =>
      simp only [pattern, hexPattern, Pattern.sequence, takes_seq_iff, takes_one_iff,
        takes_loop_iff, mem_hexSet, CharSet.mem_single, beq_iff_eq]
      constructor
      · rintro ⟨_, _, rfl, ⟨_, rfl, rfl⟩, _, digits, rfl, ⟨letter, rfl, isLetter⟩, enough,
          areDigits⟩
        exact ⟨letter, digits, rfl, by simpa [mem_ofRanges] using isLetter,
          List.length_pos_iff.mp enough, areDigits⟩
      · rintro ⟨letter, digits, rfl, isLetter, nonempty, areDigits⟩
        exact ⟨['0'], _, rfl, ⟨_, rfl, rfl⟩, [letter], digits, rfl,
          ⟨letter, rfl, by simpa [mem_ofRanges] using isLetter⟩,
          List.length_pos_iff.mpr nonempty, areDigits⟩
  | integer =>
      simp only [pattern, integerPattern, Pattern.sequence, takes_seq_iff,
        takes_digits_iff, takes_exponent_iff]
      rfl

end Texts

/-! ### The longest match of a form -/

theorem leads_exponentBody :
    Leads (.sequence [one (.ofRanges [('e', 'e'), ('E', 'E')]),
      repetition (one (.ofRanges [('-', '-'), ('+', '+')])) 0 (some 1) true,
      repetition (one .asciiDigit) 1 none true]) .nothing .asciiDigit := by
  have apart : Apart (.ofRanges [('-', '-'), ('+', '+')]) .asciiDigit := by
    intro char isSign
    rw [mem_ofRanges] at isSign
    simp only [List.any_cons, List.any_nil, Bool.or_false, mem_range_self,
      Bool.or_eq_true, beq_iff_eq] at isSign
    rcases isSign with rfl | rfl <;> decide
  exact leads_seq (leads_one apart_nothing)
    (leads_seq (leads_optional_one _) (leads_oneOrMore apart))

theorem apart_of_letters (letters : List Char) {other : CharSet}
    (areLetters : ∀ char, other.mem char = true → char ∈ letters)
    (notDigits : letters.all (fun char => !char.isDigit) = true) :
    Apart .asciiDigit other := by
  intro char isDigit
  by_contra isMember
  have notDigit :=
    List.all_eq_true.mp notDigits char (areLetters char (Bool.not_eq_false _ ▸ isMember))
  rw [mem_asciiDigit] at isDigit
  simp [isDigit] at notDigit

theorem prefersLonger_exponent : exponentPattern.PrefersLonger .asciiDigit := by
  refine prefersLonger_optional (by decide)
    (by decide) leads_exponentBody.prefersLonger ?_
  refine apart_of_letters ['e', 'E'] (fun char isMember => ?_) (by decide)
  simpa [Pattern.sequence, firstChars, canBeEmpty, mem_ofRanges] using isMember

theorem NumberForm.prefersLonger (form : NumberForm) :
    form.pattern.PrefersLonger .nothing := by
  cases form with
  | float =>
      have apart : Apart .asciiDigit (.single '.') :=
        apart_of_letters ['.'] (fun char isMember => by simpa using isMember) (by decide)
      exact prefersLonger_seq (leads_anyNumber _) (prefersLonger_seq (leads_one apart)
        (prefersLonger_seq (leads_oneOrMore apart_nothing) prefersLonger_exponent))
  | hex =>
      have leads : hexPattern.Leads .nothing _ :=
        leads_seq (leads_one apart_nothing)
          (leads_seq (leads_one apart_nothing) (leads_oneOrMore apart_nothing))
      exact leads.prefersLonger
  | integer =>
      exact prefersLonger_seq (leads_oneOrMore apart_nothing) prefersLonger_exponent

/-! ### Comparing forms -/

def NoDigit (rest : List Char) : Prop :=
  ∀ next, rest.head? = some next → next.isDigit = false

/-- A text continues digits neither by a digit nor by a complete exponent. -/
structure EndsDigits (rest : List Char) : Prop where
  noDigit : NoDigit rest
  noExponent : ∀ front back, rest = front ++ back → ¬ IsExponent front

section Comparisons

variable {digits run taken rest other otherRest : List Char} {next : Char}

theorem noDigit_cons (notDigit : next.isDigit = false) : NoDigit (next :: rest) := by
  rintro _ ⟨⟩
  exact notDigit

theorem endsDigits_cons (notDigit : next.isDigit = false)
    (notLetter : next ∉ ['e', 'E']) :
    EndsDigits (next :: rest) where
  noDigit := noDigit_cons notDigit
  noExponent := by
    rintro _ back same ⟨letter, sign, digits, rfl, isLetter, -⟩
    obtain ⟨rfl, -⟩ := List.cons.inj same
    exact notLetter isLetter

theorem isDigit_of_exponentLetter (isLetter : next ∈ ['e', 'E']) :
    next.isDigit = false := by
  simp only [List.mem_cons, List.not_mem_nil, or_false] at isLetter
  rcases isLetter with rfl | rfl <;> decide

theorem IsExponent.noDigit (isExponent : IsExponent taken) : NoDigit (taken ++ rest) := by
  obtain ⟨letter, sign, digits, rfl, isLetter, -⟩ := isExponent
  exact noDigit_cons (isDigit_of_exponentLetter isLetter)

theorem takeWhile_digits (areDigits : ∀ char ∈ digits, char.isDigit = true)
    (noDigit : NoDigit rest) : (digits ++ rest).takeWhile Char.isDigit = digits := by
  rw [List.takeWhile_append_of_pos areDigits]
  cases rest with
  | nil => exact List.append_nil _
  | cons next rest => rw [List.takeWhile_cons, noDigit next rfl,
      if_neg Bool.false_ne_true, List.append_nil]

/-- The digits at the beginning of a text are determined by it. -/
theorem digits_unique (areDigits : ∀ char ∈ digits, char.isDigit = true)
    (noDigit : NoDigit rest) (areRun : ∀ char ∈ run, char.isDigit = true)
    (noMore : NoDigit otherRest) (same : digits ++ rest = run ++ otherRest) :
    digits = run ∧ rest = otherRest := by
  have runs_eq := congrArg (List.takeWhile Char.isDigit) same
  rw [takeWhile_digits areDigits noDigit, takeWhile_digits areRun noMore] at runs_eq
  subst runs_eq
  exact ⟨rfl, List.append_cancel_left same⟩

/-- An integer at the beginning of digits without an exponent is a part of the digits. -/
theorem length_le_of_integer (areDigits : ∀ char ∈ digits, char.isDigit = true)
    (ends : EndsDigits rest) (isInteger : NumberForm.integer.Holds other)
    (same : digits ++ rest = other ++ otherRest) : other.length ≤ digits.length := by
  obtain ⟨run, exponent, rfl, ⟨-, areRun⟩, rfl | isExponent⟩ := isInteger
  · have run_eq := congrArg (List.takeWhile Char.isDigit) same
    rw [takeWhile_digits areDigits ends.noDigit, List.append_nil,
      List.takeWhile_append_of_pos areRun] at run_eq
    simp [run_eq]
  · rw [List.append_assoc] at same
    obtain ⟨-, rest_eq⟩ :=
      digits_unique areDigits ends.noDigit areRun isExponent.noDigit same
    exact absurd isExponent (ends.noExponent exponent otherRest rest_eq)

end Comparisons

/-- Where texts of both forms begin a line, the one of the first form is the longer
one. -/
def NumberForm.Outruns (first second : NumberForm) : Prop :=
  ∀ taken rest other otherRest, taken ++ rest = other ++ otherRest → first.Holds taken →
    second.Holds other →
    other.length < taken.length

/-- A hexadecimal number goes on with a letter behind its first digit, where other numbers
cannot. -/
theorem endsDigits_of_hex {letter : Char} {rest : List Char}
    (isLetter : letter ∈ ['x', 'X']) : EndsDigits (letter :: rest) := by
  simp only [List.mem_cons, List.not_mem_nil, or_false] at isLetter
  rcases isLetter with rfl | rfl <;> exact endsDigits_cons (by decide) (by decide)

theorem areDigits_zero : ∀ char ∈ ['0'], char.isDigit = true := by
  simp

theorem float_outruns_hex : NumberForm.float.Outruns .hex := by
  rintro _ rest _ otherRest same ⟨whole, fraction, exponent, rfl, areDigits, -⟩
    ⟨letter, digits, rfl, isLetter, -⟩
  have same : whole ++ '.' :: (fraction ++ exponent ++ rest) =
      ['0'] ++ letter :: (digits ++ otherRest) := by
    simpa using same
  obtain ⟨-, rest_eq⟩ := digits_unique areDigits (noDigit_cons (by decide)) areDigits_zero
    (endsDigits_of_hex isLetter).noDigit same
  obtain ⟨rfl, -⟩ := List.cons.inj rest_eq
  exact absurd isLetter (by decide)

theorem float_outruns_integer : NumberForm.float.Outruns .integer := by
  rintro _ rest other otherRest same
    ⟨whole, fraction, exponent, rfl, areDigits, -⟩ isInteger
  rw [List.append_assoc] at same
  have length_le := length_le_of_integer areDigits
    (endsDigits_cons (by decide) (by decide)) isInteger same
  rw [List.length_append, List.length_cons]
  omega

theorem hex_outruns_integer : NumberForm.hex.Outruns .integer := by
  rintro _ rest other otherRest same ⟨letter, digits, rfl, isLetter, -⟩ isInteger
  have same : ['0'] ++ letter :: (digits ++ rest) = other ++ otherRest := same
  have length_le :=
    length_le_of_integer areDigits_zero (endsDigits_of_hex isLetter) isInteger same
  simp only [List.length_cons, List.length_nil] at length_le ⊢
  omega

/-- The forms are tried in an order in which the first one that matches is the longest
one. -/
theorem NumberForm.pairwise_outruns : NumberForm.all.Pairwise NumberForm.Outruns := by
  simp [all, float_outruns_hex, float_outruns_integer, hex_outruns_integer]

/-- No text is a number of two forms. -/
theorem NumberForm.Holds.unique {form other : NumberForm} {text : List Char}
    (holds : form.Holds text) (holdsOther : other.Holds text) : form = other := by
  have never {first second : NumberForm} (outruns : first.Outruns second)
      (isFirst : first.Holds text) (isSecond : second.Holds text) : first = second :=
    absurd (outruns text [] text [] rfl isFirst isSecond) (Nat.lt_irrefl _)
  have alike : ∀ first ∈ all, ∀ second ∈ all, first.Holds text → second.Holds text →
      first = second :=
    List.Pairwise.forall_of_forall_of_flip (fun _ _ _ _ => rfl)
      (pairwise_outruns.imp never)
      (pairwise_outruns.imp fun outruns isSecond isFirst =>
        (never outruns isFirst isSecond).symm)
  exact alike form form.mem_all other other.mem_all holds holdsOther

/-! ### The rule that is chosen -/

section Choices

variable {line front back : List Char}

theorem NumberForm.isDirect (form : NumberForm) : form.pattern.isDirect = true := by
  cases form <;> decide

theorem NumberForm.canBeEmpty_eq (form : NumberForm) :
    form.pattern.canBeEmpty = false := by
  cases form <;> decide

/-- Among forms of which each one outruns those behind it, the first one that matches
takes the longest text. -/
theorem exists_longest_form {forms : List NumberForm}
    (outrun : forms.Pairwise NumberForm.Outruns)
    (begins : ∃ form ∈ forms, ∃ front back, line = front ++ back ∧ form.Holds front) :
    ∃ form ∈ forms, ∃ taken rest, line = taken ++ rest ∧ form.Holds taken ∧
      (∀ other ∈ forms, ∀ front back, line = front ++ back → other.Holds front →
        front.length ≤ taken.length) ∧
      (forms.map NumberForm.rule).findSome? (matchOf? line) =
        some (.ofClass form.className, taken.length) := by
  induction forms with
  | nil => simp at begins
  | cons form forms ih =>
      rw [List.map_cons, List.findSome?_cons, matchOf?, NumberForm.rule]
      cases matched : form.pattern.matchLength? line with
      | some count =>
          obtain ⟨taken, rest, rfl, rfl, isTaken⟩ :=
            exists_takes_of_matchLength? form.isDirect matched
          have holds := NumberForm.takes_iff.mp isTaken
          refine ⟨form, List.mem_cons_self, taken, rest, rfl, holds, ?_, rfl⟩
          intro other isOther front back same holdsOther
          rcases List.mem_cons.mp isOther with rfl | later
          · exact other.prefersLonger.length_le other.isDirect (same ▸ matched)
              (NumberForm.takes_iff.mpr holdsOther)
          · exact Nat.le_of_lt
              (List.rel_of_pairwise_cons outrun later taken rest front back same holds
                holdsOther)
      | none =>
          -- A form that does not match holds of no beginning of the line, so only the
          -- later forms are left.
          have never (front back : List Char) (same : line = front ++ back) :
              ¬ form.Holds front := fun holds =>
            (matchLength?_eq_none_iff form.isDirect).mp matched front back same
              (NumberForm.takes_iff.mpr holds)
          obtain ⟨found, isFound, front, back, same, holds⟩ := begins
          have isLater : found ∈ forms := by
            rcases List.mem_cons.mp isFound with rfl | isLater
            · exact absurd holds (never front back same)
            · exact isLater
          obtain ⟨longest, isLongest, taken, rest, line_eq, holdsTaken, bound, chosen⟩ :=
            ih outrun.of_cons ⟨found, isLater, front, back, same, holds⟩
          refine ⟨longest, List.mem_cons_of_mem form isLongest, taken, rest, line_eq,
            holdsTaken, ?_, chosen⟩
          intro other isOther front back same holdsOther
          rcases List.mem_cons.mp isOther with rfl | isLater
          · exact absurd holdsOther (never front back same)
          · exact bound other isLater front back same holdsOther

theorem IsNumber.exists_cons (isNumber : IsNumber front) :
    ∃ char others, front = char :: others ∧ (char.isDigit = true ∨ char = '.') := by
  obtain ⟨form, holds⟩ := isNumber
  have isTaken : form.pattern.Takes none front [] := NumberForm.takes_iff.mpr holds
  obtain ⟨char, others, rfl⟩ :=
    List.exists_cons_of_ne_nil (isTaken.ne_nil form.canBeEmpty_eq)
  have isPattern : form.pattern ∈ [floatPattern, hexPattern, integerPattern] := by
    cases form <;> simp [NumberForm.pattern]
  exact ⟨char, others, rfl, isStart_of_number isPattern isTaken.mem_firstChars⟩

theorem IsNumber.quotedPattern_passesOver (isNumber : IsNumber front) :
    quotedPattern.matchLength? (front ++ back) = none := by
  obtain ⟨char, others, rfl, isStart⟩ := isNumber.exists_cons
  refine matchLength?_eq_none_of_not_mem_firstChars (by decide) (by decide) ?_
  by_contra isHash
  obtain rfl : char = '#' := by
    simpa [quotedPattern, Pattern.sequence, firstChars, canBeEmpty] using isHash
  exact absurd isStart (by decide)

/-- A line that begins with a number leads to the rule for the longest number at its
beginning. -/
theorem exists_longest_number
    (begins : ∃ front back, line = front ++ back ∧ IsNumber front) :
    ∃ form : NumberForm, ∃ taken rest, line = taken ++ rest ∧ form.Holds taken ∧
      (∀ front back, line = front ++ back → IsNumber front →
        front.length ≤ taken.length) ∧
      rootPatterns.findSome? (matchOf? line) =
        some (.ofClass form.className, taken.length) := by
  obtain ⟨front, back, line_eq, found, holds⟩ := begins
  obtain ⟨form, -, taken, rest, same, isTaken, longest, chosen⟩ :=
    exists_longest_form NumberForm.pairwise_outruns
      ⟨found, found.mem_all, front, back, line_eq, holds⟩
  refine ⟨form, taken, rest, same, isTaken, fun front back same ⟨other, holds⟩ => ?_, ?_⟩
  · exact longest other other.mem_all front back same holds
  · have passed : quotedPattern.matchLength? line = none :=
      line_eq ▸ IsNumber.quotedPattern_passesOver ⟨found, holds⟩
    rw [rootPatterns_eq, List.findSome?_cons, matchOf?, passed, Option.map_none,
      List.findSome?_append, chosen, Option.some_or]

end Choices

/-! ### What ends a number -/

section Ends

variable {rest other otherRest number : List Char}

/-- The beginning of an exponent that is not complete, or a dot that no digit follows. -/
def Unfinished (rest : List Char) : Prop :=
  ∃ next behind, rest = next :: behind ∧
    ((next ∈ ['e', 'E'] ∧ ∀ front back, rest = front ++ back → ¬ IsExponent front) ∨
      (next = '.' ∧ NoDigit behind))

/-- Digits, or digits with a point among or before them. -/
def IsDecimal (text : List Char) : Prop :=
  IsDigits text ∨ ∃ whole fraction, text = whole ++ '.' :: fraction ∧
    (∀ char ∈ whole, char.isDigit = true) ∧
    IsDigits fraction

theorem Unfinished.endsDigits (unfinished : Unfinished rest) : EndsDigits rest := by
  obtain ⟨next, behind, rfl, ⟨isLetter, noExponent⟩ | ⟨rfl, -⟩⟩ := unfinished
  · exact ⟨noDigit_cons (isDigit_of_exponentLetter isLetter), noExponent⟩
  · exact endsDigits_cons (by decide) (by decide)

theorem IsDecimal.isNumber (isDecimal : IsDecimal number) : IsNumber number := by
  rcases isDecimal with areDigits | ⟨whole, fraction, rfl, areDigits, isFraction⟩
  · exact ⟨.integer, number, [], (List.append_nil _).symm, areDigits, .inl rfl⟩
  · exact ⟨.float, whole, fraction, [], by rw [List.append_nil], areDigits,
      isFraction, .inl rfl⟩

/-- What is not finished behind a number is no part of a number. -/
theorem IsDecimal.length_le (isDecimal : IsDecimal number) (unfinished : Unfinished rest)
    (isNumber : IsNumber other) (same : number ++ rest = other ++ otherRest) :
    other.length ≤ number.length := by
  obtain ⟨form, holds⟩ := isNumber
  rcases isDecimal with ⟨-, areDigits⟩ | ⟨whole, fraction, rfl, areDigits, isFraction⟩
  · cases form with
    | integer => exact length_le_of_integer areDigits unfinished.endsDigits holds same
    | float =>
        obtain ⟨whole, fraction, exponent, rfl, areWhole, ⟨nonempty, areFraction⟩, -⟩ :=
          holds
        rw [List.append_assoc] at same
        obtain ⟨-, rest_eq⟩ :=
          digits_unique areDigits unfinished.endsDigits.noDigit areWhole
            (noDigit_cons (by decide)) same
        obtain ⟨next, behind, rfl, ⟨isLetter, -⟩ | ⟨rfl, noDigit⟩⟩ := unfinished
        · obtain ⟨rfl, -⟩ := List.cons.inj rest_eq
          exact absurd isLetter (by decide)
        · obtain ⟨digit, more, rfl⟩ := List.exists_cons_of_ne_nil nonempty
          obtain rfl : behind = digit :: (more ++ exponent ++ otherRest) :=
            (List.cons.inj rest_eq).2
          exact absurd (areFraction digit List.mem_cons_self)
            (Bool.eq_false_iff.mp (noDigit digit rfl))
    | hex =>
        obtain ⟨letter, more, rfl, isLetter, -⟩ := holds
        have same : number ++ rest = ['0'] ++ letter :: (more ++ otherRest) := same
        obtain ⟨-, rest_eq⟩ :=
          digits_unique areDigits unfinished.endsDigits.noDigit areDigits_zero
            (endsDigits_of_hex isLetter).noDigit same
        simp only [List.mem_cons, List.not_mem_nil, or_false] at isLetter
        obtain ⟨next, behind, rfl, ⟨isOther, -⟩ | ⟨isOther, -⟩⟩ := unfinished <;>
          obtain ⟨rfl, -⟩ := List.cons.inj rest_eq <;> rcases isLetter with rfl | rfl <;>
            simp at isOther
  · have isFloat : NumberForm.float.Holds (whole ++ '.' :: fraction) :=
      ⟨whole, fraction, [], by rw [List.append_nil], areDigits, isFraction, .inl rfl⟩
    cases form with
    | hex => exact Nat.le_of_lt (float_outruns_hex _ _ _ _ same isFloat holds)
    | integer => exact Nat.le_of_lt (float_outruns_integer _ _ _ _ same isFloat holds)
    | float =>
        obtain ⟨otherWhole, otherFraction, exponent, rfl, areWhole, isOther⟩ := holds
        rw [List.append_assoc, List.append_assoc] at same
        obtain ⟨rfl, rest_eq⟩ :=
          digits_unique areDigits (noDigit_cons (by decide)) areWhole
            (noDigit_cons (by decide)) same
        have length_le :=
          length_le_of_integer isFraction.2 unfinished.endsDigits ⟨_, _, rfl, isOther⟩
            (List.cons.inj rest_eq).2
        simp only [List.length_append, List.length_cons] at length_le ⊢
        omega

end Ends

/-! ### Numbers in a line -/

section Lines

variable {stack : ActiveStates} {line : String}

/-- A line begins with a number, which is a token of the class of its form, and what
follows it is scanned as a line of its own. -/
def TakesNumber (stack : ActiveStates) (line : String) (number rest : List Char) : Prop :=
  line.toList = number ++ rest ∧ IsNumber number ∧
    ∃ index, (∀ form : NumberForm, form.Holds number →
      language.baseName index = form.className) ∧
      language.lexLine stack line =
        LexedLine.followedBy ⟨[⟨0, Text.byteLength number, index, none⟩], stack⟩
          (language.lexLine stack (String.ofList rest))

theorem mem_classBases_of_form (form : NumberForm) :
    form.className ∈ grammar.classBases := by
  cases form <;> decide +kernel

theorem exists_takesNumber (isRoot : stack.top = rootState)
    (begins : ∃ front back, line.toList = front ++ back ∧ IsNumber front) :
    ∃ number rest, TakesNumber stack line number rest ∧
      ∀ front back, line.toList = front ++ back → IsNumber front →
        front.length ≤ number.length := by
  obtain ⟨form, number, rest, line_eq, holds, longest, chosen⟩ :=
    exists_longest_number begins
  obtain ⟨name, entries, isTop, isEntries, selects⟩ := isRoot ▸ tries_rootPatterns
  have selects := selects (number ++ rest)
  rw [← line_eq, chosen, line_eq] at selects
  have takes : TakesPieces language stack
      [⟨language.classIndexOf form.className, number⟩] rest stack :=
    takesPieces_of_selects isCompiled number isTop isEntries selects .none
  have class_eq (other : NumberForm) (holdsOther : other.Holds number) :
      language.baseName (language.classIndexOf form.className) = other.className :=
    (baseName_classIndexOf (mem_classBases_of_form form)).trans
      (congrArg NumberForm.className (holds.unique holdsOther))
  refine ⟨number, rest, ⟨line_eq, ⟨form, holds⟩, _, class_eq, ?_⟩, longest⟩
  have lexed := takes.lexLine
  rw [Piece.spelled_cons, Piece.spelled_nil, List.append_nil, ← line_eq,
    String.ofList_toList] at lexed
  simpa [Piece.row] using lexed

/-- The rules are those for numbers and others, which give only other classes. -/
theorem rule_cases_number :
    ∀ rule ∈ rootPatterns, (∃ form ∈ NumberForm.all, rule = form.rule) ∨
      ∀ base ∈ grammar.defaultClass ::
        (grammar.brackets.map BracketPair.className ++ rule.2.emission.classNames),
        base ∈ grammar.classBases ∧ base ∉ NumberForm.all.map NumberForm.className := by
  decide +kernel

/-- Where no number begins, the next token has none of the classes of numbers. -/
theorem notNumberClass_of_step {scanner : Scanner} {step : Step}
    (isRoot : scanner.stack.top = rootState) (isStep : scanner.step? language = some step)
    (noNumber : ∀ front back, scanner.rest = front ++ back → ¬ IsNumber front) :
    language.baseName step.token.classIndex ∉
      NumberForm.all.map NumberForm.className := by
  have tries : grammar.Tries scanner.stack.top rootPatterns := isRoot ▸ tries_rootPatterns
  rcases tries.step_cases isCompiled isStep with
    ⟨rule, member, taken, rest, rest_eq, matched, -, token_eq⟩ | ⟨_, _, _, _, _,
      _, token_eq⟩
  · rcases rule_cases_number rule member with ⟨form, -, rfl⟩ | isOther
    · obtain ⟨front, back, same, -, isTaken⟩ :=
        exists_takes_of_matchLength? form.isDirect matched
      exact absurd ⟨form, NumberForm.takes_iff.mp isTaken⟩ (noNumber front back same)
    · obtain ⟨isBase, notNumber⟩ :=
        isOther _ (emitted_mem grammar rule.2.emission (String.ofList taken))
      rw [token_eq, baseName_classIndexOf isBase]
      exact notNumber
  · have class_eq : language.baseName language.defaultClass = "" :=
      isCompiled.baseName_eq isCompiled.defaultClass
    rw [token_eq, class_eq]
    decide

end Lines

/-- A line that begins with a number has the longest number at its beginning as its first
token, of the class of its form, and what follows it is scanned as a line of its own.  A
line that begins with no number has no number as its first token.  An exponent that is not
complete and a dot without a digit behind it are no part of a number, so that digits
before two dots are a token. -/
theorem numbers_maximal (stack : ActiveStates) (line : String)
    (isRoot : stack.top = language.start) :
    ((∃ front back, line.toList = front ++ back ∧ IsNumber front) →
        ∃ number rest, TakesNumber stack line number rest ∧
          ∀ front back, line.toList = front ++ back → IsNumber front →
            front.length ≤ number.length) ∧
      ((∀ front back, line.toList = front ++ back → ¬ IsNumber front) →
        ∀ token ∈ (language.lexLine stack line).tokens.head?,
          language.baseName token.classIndex ∉ ["number.float", "number.hex", "number"]) ∧
      ∀ number rest, line.toList = number ++ rest → IsDecimal number → Unfinished rest →
        TakesNumber stack line number rest := by
  have isRoot : stack.top = rootState := isRoot.trans start_eq
  refine ⟨exists_takesNumber isRoot, ?_, ?_⟩
  · intro noNumber token isHead
    rw [Language.tokens_lexLine] at isHead
    cases isStep : (Scanner.start line stack).step? language with
    | none =>
        rw [Scanner.steps_of_step?_eq_none isStep] at isHead
        cases isHead
    | some step =>
        rw [Scanner.steps_of_step?_eq_some isStep] at isHead
        obtain rfl : step.token = token := Option.some.inj isHead
        exact notNumberClass_of_step isRoot isStep noNumber
  · intro number rest line_eq isDecimal unfinished
    obtain ⟨taken, behind, takes, longest⟩ :=
      exists_takesNumber isRoot ⟨number, rest, line_eq, isDecimal.isNumber⟩
    have same : number ++ rest = taken ++ behind := line_eq.symm.trans takes.1
    have length_eq : number.length = taken.length :=
      Nat.le_antisymm (longest number rest line_eq isDecimal.isNumber)
        (isDecimal.length_le unfinished takes.2.1 same)
    obtain ⟨rfl, rfl⟩ := List.append_inj same length_eq
    exact takes

/-- Digits before two dots and a float before the beginning of an exponent are tokens, and
a letter of exponents without digits before it does not begin a number. -/
theorem numbers_maximal_unfinished :
    TakesNumber language.initialStack "1..2" "1".toList "..2".toList ∧
      TakesNumber language.initialStack "1.5e+x" "1.5".toList "e+x".toList ∧
      (∃ number rest, TakesNumber language.initialStack "0x1F.5" number rest ∧
        4 ≤ number.length) ∧
      ∀ token ∈ (language.lexLine language.initialStack "e5").tokens.head?,
        language.baseName token.classIndex ∉
          ["number.float", "number.hex", "number"] := by
  have isRoot := language.top_initialStack
  have isRange : Unfinished "..2".toList :=
    ⟨'.', _, rfl, .inr ⟨rfl, noDigit_cons (by decide)⟩⟩
  have noExponent : Unfinished "e+x".toList := by
    refine ⟨'e', _, rfl, .inl ⟨by decide, ?_⟩⟩
    rintro _ back same ⟨letter, sign, digits, rfl, -, -, nonempty, areDigits⟩
    obtain ⟨digit, more, rfl⟩ := List.exists_cons_of_ne_nil nonempty
    have inText : digit ∈ "e+x".toList := by
      rw [same]
      simp
    have noDigits : ∀ char ∈ ['e', '+', 'x'], char.isDigit = false := by simp
    exact Bool.false_ne_true
      ((noDigits digit inText).symm.trans (areDigits digit List.mem_cons_self))
  have isFloat : IsDecimal "1.5".toList :=
    .inr ⟨['1'], ['5'], by decide, by simp, by decide, by simp⟩
  have isHex : IsNumber "0x1F".toList :=
    ⟨.hex, 'x', ['1', 'F'], by decide, by decide, by decide, by simp [isHexDigit]⟩
  have noNumber (front back : List Char) (same : "e5".toList = front ++ back) :
      ¬ IsNumber front := by
    intro isNumber
    obtain ⟨char, others, rfl, isStart⟩ := isNumber.exists_cons
    obtain ⟨rfl, -⟩ : 'e' = char ∧ _ := List.cons.inj same
    exact absurd isStart (by decide)
  obtain ⟨number, rest, takes, longest⟩ :=
    (numbers_maximal language.initialStack "0x1F.5" isRoot).1
      ⟨_, ".5".toList, by decide, isHex⟩
  exact ⟨(numbers_maximal _ "1..2" isRoot).2.2 _ _ (by decide)
    (.inl ⟨by decide, by simp⟩) isRange,
    (numbers_maximal _ "1.5e+x" isRoot).2.2 _ _ (by decide) isFloat noExponent,
    ⟨number, rest, takes, longest _ ".5".toList (by decide) isHex⟩,
    (numbers_maximal _ "e5" isRoot).2.1 noNumber⟩

end LineLexer.PowerQuery
