import LineLexer.Proofs.PowerQuery.States
import LineLexer.Proofs.Scan.Nesting
import LineLexer.Proofs.Scan.Patterns

/-!
# The patterns of Power Query

With the includes replaced, each state that can be active has a short list of patterns,
thirteen of them outside of comments and strings.  Which one is chosen is read off the
texts that they take.
-/

namespace LineLexer.PowerQuery

open Pattern Grammar

/-- A letter, a digit or the underscore of ASCII. -/
def isNameChar (char : Char) : Bool :=
  char.isAlphanum || char == '_'

/-- A character that may stand in a quoted identifier. -/
def isQuotedChar (char : Char) : Bool :=
  isNameChar char || char == ' ' || char == '.'

/-! ### Sets -/

section Sets

variable {char : Char}

@[simp]
theorem mem_union {left right : CharSet} :
    (CharSet.union left right).mem char = (left.mem char || right.mem char) :=
  rfl

@[simp]
theorem mem_digit : (CharSet.range '0' '9').mem char = char.isDigit :=
  rfl

@[simp]
theorem mem_lower : (CharSet.range 'a' 'z').mem char = char.isLower :=
  rfl

@[simp]
theorem mem_upper : (CharSet.range 'A' 'Z').mem char = char.isUpper :=
  (Bool.decide_and _ _).symm

@[simp]
theorem mem_range_self {other : Char} :
    (CharSet.range other other).mem char = (char == other) :=
  CharSet.mem_single

theorem mem_ofRanges {ranges : List (Char × Char)} :
    (CharSet.ofRanges ranges).mem char = ranges.any fun range =>
      (CharSet.range range.1 range.2).mem char := by
  rw [CharSet.ofRanges, CharSet.mem_unions, List.any_map]
  rfl

theorem isAlpha_eq : char.isAlpha = (char.isUpper || char.isLower) :=
  rfl

theorem isNameChar_eq :
    isNameChar char = (char.isUpper || char.isLower || char.isDigit || char == '_') :=
  rfl

/-- Capital letters and digits come before the small letters. -/
theorem isLower_eq_false (isOther : (char.isUpper || char.isDigit) = true) :
    char.isLower = false := by
  have isBefore : ¬ 'a' ≤ char := by
    rw [← mem_upper, ← mem_digit] at isOther
    simp only [CharSet.mem, Char.le_def] at *
    grind
  rw [← mem_lower, CharSet.mem]
  simp [isBefore]

theorem mem_asciiWordChar : CharSet.asciiWordChar.mem char = isNameChar char := by
  simp only [CharSet.asciiWordChar, mem_ofRanges, isNameChar_eq, List.any_cons,
    List.any_nil, mem_digit, mem_upper, mem_lower, mem_range_self]
  grind

def quotedSet : CharSet :=
  .ofRanges [('0', '9'), ('A', 'Z'), ('a', 'z'), ('_', '_'), (' ', ' '), ('.', '.')]

def nameStartSet : CharSet :=
  .ofRanges [('a', 'z'), ('A', 'Z'), ('_', '_')]

def nameSet : CharSet :=
  .ofRanges [('0', '9'), ('A', 'Z'), ('a', 'z'), ('_', '_'), ('.', '.')]

theorem mem_quotedSet : quotedSet.mem char = isQuotedChar char := by
  simp only [quotedSet, mem_ofRanges, isQuotedChar, isNameChar_eq, List.any_cons,
    List.any_nil, mem_digit, mem_upper, mem_lower, mem_range_self]
  grind

theorem mem_nameStartSet : nameStartSet.mem char = (char.isAlpha || char == '_') := by
  simp only [nameStartSet, mem_ofRanges, isAlpha_eq, List.any_cons, List.any_nil,
    mem_upper, mem_lower, mem_range_self]
  grind

theorem mem_nameSet : nameSet.mem char = (isNameChar char || char == '.') := by
  simp only [nameSet, mem_ofRanges, isNameChar_eq, List.any_cons, List.any_nil,
    mem_digit, mem_upper, mem_lower, mem_range_self]
  grind

end Sets

/-! ### Patterns -/

/-- A text of one or more small letters, which a `#` may stand before. -/
def IsWord (word : List Char) : Prop :=
  ∃ letters, letters ≠ [] ∧ (∀ char ∈ letters, char.isLower = true) ∧
    (word = letters ∨ word = '#' :: letters)

/-- The text goes on with a letter, a digit or the underscore. -/
def GoesOn (rest : List Char) : Prop :=
  ∃ char, rest.head? = some char ∧ isNameChar char = true

def quotedPattern : Pattern :=
  .sequence [one (.single '#'), one (.single '"'), repetition (one quotedSet) 1 none true,
    one (.single '"')]

def exponentPattern : Pattern :=
  repetition (.sequence [one (.ofRanges [('e', 'e'), ('E', 'E')]),
    repetition (one (.ofRanges [('-', '-'), ('+', '+')])) 0 (some 1) true,
    repetition (one .asciiDigit) 1 none true]) 0 (some 1) true

def floatPattern : Pattern :=
  .sequence [repetition (one .asciiDigit) 0 none true, one (.single '.'),
    repetition (one .asciiDigit) 1 none true, exponentPattern]

def integerPattern : Pattern :=
  .sequence [repetition (one .asciiDigit) 1 none true, exponentPattern]

def wordPattern : Pattern :=
  .sequence [repetition (one (.single '#')) 0 (some 1) true,
    repetition (one (.range 'a' 'z')) 1 none true, assert (.wordBoundary .ascii)]

def namePattern : Pattern :=
  .sequence [assert (.wordBoundary .ascii), one nameStartSet,
    repetition (one nameSet) 0 none true, assert (.wordBoundary .ascii)]

section Patterns

variable {before : Option Char} {taken rest : List Char}

theorem takes_quoted_iff :
    quotedPattern.Takes before taken rest ↔
      ∃ inner, taken = '#' :: '"' :: (inner ++ ['"']) ∧ inner ≠ [] ∧
        ∀ char ∈ inner, isQuotedChar char = true := by
  simp only [quotedPattern, Pattern.sequence, takes_one_seq_iff, CharSet.mem_single,
    beq_iff_eq]
  constructor
  · rintro ⟨_, _, rfl, rfl, _, _, rfl, rfl, inner, _, rfl, areQuoted, _, rfl, isQuote⟩
    rw [takes_loop_iff] at areQuoted
    rw [CharSet.mem_single, beq_iff_eq] at isQuote
    rw [isQuote]
    exact ⟨inner, rfl, List.length_pos_iff.mp areQuoted.1, fun char member =>
      mem_quotedSet.symm.trans (areQuoted.2 char member)⟩
  · rintro ⟨inner, rfl, nonempty, areQuoted⟩
    refine ⟨_, _, rfl, rfl, _, _, rfl, rfl, inner, _, rfl, ?_, '"', rfl, by simp⟩
    rw [takes_loop_iff]
    exact ⟨List.length_pos_iff.mpr nonempty,
      fun char member => mem_quotedSet.trans (areQuoted char member)⟩

theorem isNameChar_of_isLower {char : Char} (isLower : char.isLower = true) :
    isNameChar char = true := by
  simp [isNameChar_eq, isLower]

theorem isNameChar_of_isStart {char : Char}
    (isStart : (char.isAlpha || char == '_') = true) : isNameChar char = true := by
  rw [isAlpha_eq] at isStart
  rw [isNameChar_eq]
  grind

theorem goesOn_iff : GoesOn rest ↔ WordKind.memOption .ascii rest.head? = true := by
  cases rest with
  | nil => simp [GoesOn, WordKind.memOption]
  | cons char rest => simp [GoesOn, WordKind.memOption, WordKind.mem, mem_asciiWordChar]

theorem isBoundary_iff (nonempty : taken ≠ [])
    (isName : ∀ char ∈ taken, isNameChar char = true) :
    (Assertion.wordBoundary .ascii).holds taken.getLast? rest.head? = true ↔
    ¬ GoesOn rest := by
  have isMember : WordKind.memOption .ascii taken.getLast? = true := by
    rw [List.getLast?_eq_some_getLast nonempty]
    exact mem_asciiWordChar.trans (isName _ (List.getLast_mem nonempty))
  rw [Assertion.holds, isMember, goesOn_iff]
  cases WordKind.memOption .ascii rest.head? <;> simp

theorem takes_word_iff : wordPattern.Takes none taken rest ↔
    IsWord taken ∧ ¬ GoesOn rest := by
  have isBoundary {letters : List Char} (nonempty : letters ≠ [])
      (areLower : ∀ char ∈ letters, char.isLower = true) (before : Option Char) :
      (Assertion.wordBoundary .ascii).holds (letters.getLast?.or before) rest.head? =
        true ↔ ¬ GoesOn rest := by
    rw [Option.or_of_isSome (by simpa using nonempty),
      isBoundary_iff nonempty fun char member =>
        isNameChar_of_isLower (areLower char member)]
  simp only [wordPattern, Pattern.sequence, takes_seq_iff, takes_loop_iff,
    takes_optional_iff, takes_one_iff, mem_lower, CharSet.mem_single, beq_iff_eq]
  constructor
  · rintro ⟨hash, _, rfl, isHash, letters, _, rfl, ⟨enough, areLower⟩, rfl, behind⟩
    have nonempty : letters ≠ [] := List.length_pos_iff.mp enough
    refine ⟨⟨letters, nonempty, areLower, ?_⟩, (isBoundary nonempty areLower _).mp behind⟩
    rcases isHash with rfl | ⟨_, rfl, rfl⟩
    · exact .inl (List.append_nil _)
    · exact .inr (congrArg _ (List.append_nil _))
  · rintro ⟨⟨letters, nonempty, areLower, isTaken⟩, stops⟩
    have behind (before : Option Char) := (isBoundary nonempty areLower before).mpr stops
    have enough : 1 ≤ letters.length := List.length_pos_iff.mpr nonempty
    rcases isTaken with rfl | rfl
    · exact ⟨[], taken, rfl, .inl rfl, taken, [], (List.append_nil _).symm,
        ⟨enough, areLower⟩, rfl, behind _⟩
    · exact ⟨['#'], letters, rfl, .inr ⟨'#', rfl, rfl⟩, letters, [],
        (List.append_nil _).symm, ⟨enough, areLower⟩, rfl, behind _⟩

theorem takes_name_iff :
    namePattern.Takes none taken rest ↔ ∃ head others, taken = head :: others ∧
      (head.isAlpha || head == '_') = true ∧
      (∀ char ∈ others, (isNameChar char || char == '.') = true) ∧
        (Assertion.wordBoundary .ascii).holds taken.getLast? rest.head? = true := by
  have last_eq (head : Char) (others : List Char) :
      others.getLast?.or (some head) = (head :: others).getLast? := by
    rw [List.getLast?_cons]
    cases others.getLast? <;> rfl
  simp only [namePattern, Pattern.sequence, takes_seq_iff, takes_loop_iff, mem_nameSet]
  constructor
  · rintro ⟨_, _, rfl, ⟨rfl, -⟩, _, _, rfl, ⟨head, rfl, isStart⟩, others, _, rfl,
      ⟨-, areNames⟩, rfl, isBoundary⟩
    rw [List.append_nil]
    exact ⟨head, others, rfl, mem_nameStartSet.symm.trans isStart, areNames,
      last_eq head others ▸ isBoundary⟩
  · rintro ⟨head, others, rfl, isStart, areNames, isBoundary⟩
    have isName : WordKind.memOption .ascii (some head) = true :=
      mem_asciiWordChar.trans (isNameChar_of_isStart isStart)
    refine ⟨[], _, rfl, ⟨rfl, ?_⟩, [head], _, rfl,
      ⟨head, rfl, mem_nameStartSet.trans isStart⟩, others, [], (List.append_nil _).symm,
      ⟨Nat.zero_le _, areNames⟩, rfl, (last_eq head others).symm ▸ isBoundary⟩
    change
      (WordKind.memOption .ascii none != WordKind.memOption .ascii (some head)) = true
    rw [isName]
    rfl

/-- Whatever begins like an identifier begins with one. -/
theorem exists_matchLength?_name {head : Char} {others : List Char}
    (isStart : (head.isAlpha || head == '_') = true) :
    ∃ count, namePattern.matchLength? (head :: others) = some count := by
  have areNames : ∀ char ∈ head :: others.takeWhile isNameChar,
      isNameChar char = true := by
    intro char member
    rcases List.mem_cons.mp member with rfl | inRun
    · exact isNameChar_of_isStart isStart
    · exact List.mem_takeWhile_imp inRun
  have stops : ¬ GoesOn (others.dropWhile isNameChar) := by
    rintro ⟨next, isNext, isName⟩
    have ended := List.head?_dropWhile_not isNameChar others
    rw [isNext] at ended
    exact Bool.false_ne_true (ended.symm.trans isName)
  have isTaken : namePattern.Takes none (head :: others.takeWhile isNameChar)
      (others.dropWhile isNameChar) := by
    refine takes_name_iff.mpr ⟨head, _, rfl, isStart, fun char member => ?_, ?_⟩
    · rw [areNames char (List.mem_cons_of_mem head member), Bool.true_or]
    · exact (isBoundary_iff (List.cons_ne_nil _ _) areNames).mpr stops
  have matched := exists_matchLength?_of_takes (by decide) isTaken
  rwa [List.cons_append, List.takeWhile_append_dropWhile] at matched

end Patterns

/-! ### Choices -/

def hexPattern : Pattern :=
  .sequence [one (.single '0'), one (.ofRanges [('x', 'x'), ('X', 'X')]),
    repetition (one (.ofRanges [('0', '9'), ('a', 'f'), ('A', 'F')])) 1 none true]

def bracketSet : CharSet :=
  .ofRanges [('\x7b', '\x7b'), ('\x7d', '\x7d'), ('(', '('), (')', ')'), ('[', '['),
    (']', ']')]

def operatorSet : CharSet :=
  .ofRanges (['=', '+', '<', '>', '-', '*', '&', '@', '?', '/', '!'].map fun char =>
    (char, char))

def operatorPattern : Pattern :=
  .choice [one operatorSet,
    .sequence [one (.ofRanges [('<', '<'), ('>', '>')]), one (.single '=')],
    .sequence [one (.single '<'), one (.single '>')],
    .sequence [one (.single '='), one (.single '>')],
    .sequence [one (.single '.'), one (.single '.'), one (.single '.')],
    .sequence [one (.single '.'), one (.single '.')]]

def delimiterSet : CharSet :=
  .ofRanges [(',', ','), (';', ';')]

/-- The patterns outside of comments and strings, in their order. -/
def rootPatterns : List (Pattern × Action) :=
  [(quotedPattern, .ofClass "identifier.quote"),
    (floatPattern, .ofClass "number.float"),
    (hexPattern, .ofClass "number.hex"),
    (integerPattern, .ofClass "number"),
    (wordPattern, .ofCases wordCases),
    (namePattern, .ofClass "identifier"),
    (repetition (one .blank) 1 none true, .ofClass "white"),
    (.sequence [one (.single '/'), one (.single '*')],
      (Action.ofClass "comment").push "@comment"),
    (.sequence [one (.single '/'), repetition (one (.single '/')) 1 none true,
      repetition (one dot) 0 none true], .ofClass "comment"),
    (one (.single '"'), (Action.ofClass "string").push "@string"),
    (one bracketSet, .ofBrackets),
    (operatorPattern, .ofClass "operators"),
    (one delimiterSet, .ofClass "delimiter")]

theorem isStart_of_number {pattern : Pattern} {char : Char}
    (isNumber : pattern ∈ [floatPattern, hexPattern, integerPattern])
    (isFirst : pattern.firstChars.mem char = true) :
    char.isDigit = true ∨ char = '.' := by
  have zero : char = '0' → char.isDigit = true := by
    rintro rfl
    rfl
  simp only [List.mem_cons, List.not_mem_nil, or_false] at isNumber
  rcases isNumber with rfl | rfl | rfl <;>
    simp_all [floatPattern, hexPattern, integerPattern, Pattern.sequence, firstChars,
      canBeEmpty, CharSet.asciiDigit]

def commentPatterns : List (Pattern × Action) :=
  [(.sequence [one (.single '*'), one (.single '/')], (Action.ofClass "comment").pop),
    (one dot, .ofClass "comment")]

def stringPatterns : List (Pattern × Action) :=
  [(.sequence [one (.single '"'), one (.single '"')], .ofClass "string.escape"),
    (one (.single '"'), (Action.ofClass "string").pop), (one dot, .ofClass "string")]

theorem patterns_consume :
    ∀ rules ∈ [rootPatterns, commentPatterns, stringPatterns], ∀ rule ∈ rules,
      rule.1.isDirect = true ∧ rule.1.canBeEmpty = false := by
  decide +kernel

theorem tries_rootPatterns : grammar.Tries rootState rootPatterns :=
  tries_of_patterns? isCompiled.size_le isPosition_root (by decide +kernel)
    (patterns_consume _ (by simp))

theorem tries_commentPatterns : grammar.Tries commentState commentPatterns :=
  tries_of_patterns? isCompiled.size_le isPosition_comment (by decide +kernel)
    (patterns_consume _ (by simp))

theorem tries_stringPatterns : grammar.Tries stringState stringPatterns :=
  tries_of_patterns? isCompiled.size_le isPosition_string (by decide +kernel)
    (patterns_consume _ (by simp))

/-- At every moment of the scan of a document the rules are those of one of the three
states. -/
theorem top_of_isNested {bound : Nat} {stack : ActiveStates}
    (nested : language.IsNested bound stack) :
    stack.top = rootState ∨ stack.top = commentState ∨ stack.top = stringState := by
  have isLast := stack.getLast?_toList
  rcases toList_of_isNested nested with bare | ⟨state, isInner, isStack⟩
  · rw [bare] at isLast
    exact .inl ((Option.some.inj isLast).symm.trans start_eq)
  · rw [isStack] at isLast
    obtain rfl : state = stack.top := Option.some.inj isLast
    exact .inr isInner

theorem stateName_of_isNested {bound : Nat} {stack : ActiveStates}
    (nested : language.IsNested bound stack) :
    language.stateName stack.top ∈ ["root", "comment", "string"] ∧
      (language.stateName stack.top = "root" ↔ stack.top = rootState) := by
  obtain ⟨-, -, -, rootName, commentName, stringName⟩ := entered_eq
  rw [start_eq] at rootName
  rcases top_of_isNested nested with isTop | isTop | isTop
  · simp [isTop, rootName]
  · rw [isTop, show language.stateName commentState = "comment" from commentName]
    decide
  · rw [isTop, show language.stateName stringState = "string" from stringName]
    decide

theorem exists_tries_of_isNested {bound : Nat} {stack : ActiveStates}
    (nested : language.IsNested bound stack) :
    ∃ rules ∈ [rootPatterns, commentPatterns, stringPatterns],
    grammar.Tries stack.top rules := by
  rcases top_of_isNested nested with isTop | isTop | isTop
  · exact ⟨rootPatterns, by simp, isTop ▸ tries_rootPatterns⟩
  · exact ⟨commentPatterns, by simp, isTop ▸ tries_commentPatterns⟩
  · exact ⟨stringPatterns, by simp, isTop ▸ tries_stringPatterns⟩

end LineLexer.PowerQuery
