import LineLexer.Proofs.PowerQuery.Patterns
import LineLexer.Proofs.Scan.LineEnds

/-!
# Characters without a class in Power Query

Where no rule matches, a single character becomes a token of the class with the empty
name.  Inside of strings and comments this never happens.  Outside of them the patterns
leave out exactly the characters that are listed here: whatever begins like a name, a
number, white space, a string, a bracket, an operator or a delimiter is taken by some
rule, and a dot or a `#` depends on what follows it.
-/

namespace LineLexer.PowerQuery

open Pattern Grammar

/-- The characters that are always classified, besides those of names and white space. -/
def punctuation : List Char :=
  ['"', '(', ')', '[', ']', '\x7b', '\x7d', ',', ';', '=', '+', '<', '>', '-', '*', '&',
    '@', '?', '/', '!']

/-- A text continues a `#` to a quoted identifier. -/
def StartsQuoted (rest : List Char) : Prop :=
  ∃ inner behind, rest = '"' :: (inner ++ '"' :: behind) ∧ inner ≠ [] ∧
    ∀ char ∈ inner, isQuotedChar char = true

/-- A text continues a `#` to a word: it begins with small letters, and they do not go on
as a name. -/
def StartsWord (rest : List Char) : Prop :=
  rest.takeWhile Char.isLower ≠ [] ∧
    ∀ next, (rest.dropWhile Char.isLower).head? = some next →
      (next.isUpper || next.isDigit || next == '_') = false

/-- Outside of strings and comments no rule takes the character `char` where `rest`
follows it. -/
structure Unclassified (char : Char) (rest : List Char) : Prop where
  notName : (char.isAlphanum || char == '_') = false
  notBlank : Text.isBlank char = false
  notPunctuation : char ∉ punctuation
  dot : char = '.' → ∀ next, rest.head? = some next → next.isDigit = false ∧ next ≠ '.'
  hash : char = '#' → ¬ StartsQuoted rest ∧ ¬ StartsWord rest

/-- Some rule takes the beginning of a text. -/
def IsTaken (text : List Char) : Prop :=
  ∃ rule ∈ rootPatterns, ∃ count, rule.1.matchLength? text = some count

/-! ### What the rules take -/

section Taken

variable {char : Char} {rest : List Char}

theorem isTaken_of_takes {pattern : Pattern} {taken : List Char}
    (member : pattern ∈ rootPatterns.map Prod.fst)
      (takes : pattern.Takes none taken rest) : IsTaken (taken ++ rest) := by
  obtain ⟨rule, isRule, rfl⟩ := List.mem_map.mp member
  exact ⟨rule, isRule, exists_matchLength?_of_takes
    (patterns_consume _ (by simp) rule isRule).1 takes⟩

theorem isTaken_of_name (isName : (char.isAlphanum || char == '_') = true) :
    IsTaken (char :: rest) := by
  by_cases isDigit : char.isDigit = true
  · have takes : integerPattern.Takes none [char] rest := by
      refine ⟨[char], [], rfl, takes_loop_iff.mpr ⟨Nat.le_refl 1, ?_⟩,
        takes_optional_iff.mpr (.inl rfl)⟩
      simpa [CharSet.asciiDigit] using isDigit
    exact isTaken_of_takes (by simp [rootPatterns]) takes
  · have isStart : (char.isAlpha || char == '_') = true := by
      rw [Char.isAlphanum] at isName
      grind
    exact ⟨(namePattern, .ofClass "identifier"), by simp [rootPatterns],
      exists_matchLength?_name isStart⟩

theorem isTaken_of_blank (isBlank : Text.isBlank char = true) :
    IsTaken (char :: rest) := by
  have takes : (repetition (one .blank) 1 none true).Takes none [char] rest :=
    takes_loop_iff.mpr ⟨Nat.le_refl 1, by simpa [CharSet.mem] using isBlank⟩
  exact isTaken_of_takes (by simp [rootPatterns]) takes

theorem isTaken_of_punctuation (isPunctuation : char ∈ punctuation) :
    IsTaken (char :: rest) := by
  have areSets : (punctuation.all fun char =>
      [.single '"', bracketSet, operatorSet, delimiterSet].any (·.mem char)) = true := by
    decide
  obtain ⟨set, isSet, isMember⟩ :=
    List.any_eq_true.mp (List.all_eq_true.mp areSets char isPunctuation)
  have takes : (one set).Takes none [char] rest := ⟨char, rfl, isMember⟩
  simp only [List.mem_cons, List.not_mem_nil, or_false] at isSet
  rcases isSet with rfl | rfl | rfl | rfl
  · exact isTaken_of_takes (by simp [rootPatterns]) takes
  · exact isTaken_of_takes (by simp [rootPatterns]) takes
  · have takesOperator : operatorPattern.Takes none [char] rest := .inl takes
    exact isTaken_of_takes (by simp [rootPatterns]) takesOperator
  · exact isTaken_of_takes (by simp [rootPatterns]) takes

theorem isTaken_of_dot {next : Char} (isOther : next.isDigit = true ∨ next = '.') :
    IsTaken ('.' :: next :: rest) := by
  rcases isOther with isDigit | rfl
  · have takes : floatPattern.Takes none ['.', next] rest := by
      refine ⟨[], _, rfl, takes_loop_iff.mpr (by simp),
        takes_one_seq_iff.mpr ⟨'.', [next], rfl, by decide, ?_⟩⟩
      refine ⟨[next], [], rfl, takes_loop_iff.mpr ⟨Nat.le_refl 1, ?_⟩,
        takes_optional_iff.mpr (.inl rfl)⟩
      simpa [CharSet.asciiDigit] using isDigit
    exact isTaken_of_takes (by simp [rootPatterns]) takes
  · have takes : operatorPattern.Takes none ['.', '.'] rest := by
      refine .inr (.inr (.inr (.inr (.inr ?_))))
      exact takes_one_seq_iff.mpr ⟨'.', ['.'], rfl, by decide, '.', rfl, by decide⟩
    exact isTaken_of_takes (by simp [rootPatterns]) takes

theorem isTaken_of_quoted (starts : StartsQuoted rest) : IsTaken ('#' :: rest) := by
  obtain ⟨inner, behind, rfl, nonempty, areQuoted⟩ := starts
  have takes : quotedPattern.Takes none ('#' :: '"' :: (inner ++ ['"'])) behind :=
    takes_quoted_iff.mpr ⟨inner, rfl, nonempty, areQuoted⟩
  simpa using isTaken_of_takes (by simp [rootPatterns]) takes

theorem isTaken_of_word (starts : StartsWord rest) : IsTaken ('#' :: rest) := by
  obtain ⟨nonempty, ends⟩ := starts
  have isWord : IsWord ('#' :: rest.takeWhile Char.isLower) :=
    ⟨_, nonempty, fun char member => List.mem_takeWhile_imp member, .inr rfl⟩
  have stops : ¬ GoesOn (rest.dropWhile Char.isLower) := by
    rintro ⟨next, isNext, isName⟩
    have notLower := List.head?_dropWhile_not Char.isLower rest
    rw [isNext] at notLower
    have notOther := ends next isNext
    rw [isNameChar_eq] at isName
    grind
  have isTaken := isTaken_of_takes (by simp [rootPatterns])
    (takes_word_iff.mpr ⟨isWord, stops⟩)
  rwa [List.cons_append, List.takeWhile_append_dropWhile] at isTaken

end Taken

/-! ### What the rules leave out -/

section Left

variable {char : Char} {rest : List Char}

/-- No match begins with any other character. -/
theorem first_of_mem_firstChars {rule : Pattern × Action} (member : rule ∈ rootPatterns)
    (isFirst : rule.1.firstChars.mem char = true) :
    (char.isAlphanum || char == '_') = true ∨ Text.isBlank char = true ∨
    char ∈ punctuation ∨ char = '.' ∨
      char = '#' := by
  have isDigit_zero : char = '0' → char.isDigit = true := by
    rintro rfl
    rfl
  simp only [rootPatterns, List.mem_cons, List.not_mem_nil, or_false] at member
  simp only [punctuation, List.mem_cons, List.not_mem_nil, or_false]
  rcases member
    with rfl | rfl | rfl | rfl | rfl | rfl | rfl | rfl | rfl | rfl | rfl | rfl | rfl <;>
    simp [quotedPattern, floatPattern, hexPattern, integerPattern, wordPattern,
      namePattern, operatorPattern, Pattern.choice, Pattern.sequence, firstChars,
      canBeEmpty, CharSet.asciiDigit, bracketSet, operatorSet,
      delimiterSet, mem_ofRanges, mem_nameStartSet] at isFirst <;>
    grind [Char.isAlphanum, isAlpha_eq, CharSet.mem]

theorem rules_of_dot_and_hash :
    ∀ rule ∈ rootPatterns,
      (rule.1.firstChars.mem '.' = true → rule.1 = floatPattern ∨
        rule.1 = operatorPattern) ∧
        (rule.1.firstChars.mem '#' = true → rule.1 = quotedPattern ∨
          rule.1 = wordPattern) := by
  decide +kernel

variable {taken behind : List Char}

theorem startsQuoted_of_takes (same : '#' :: rest = taken ++ behind)
    (takes : quotedPattern.Takes none taken behind) : StartsQuoted rest := by
  obtain ⟨inner, rfl, nonempty, areQuoted⟩ := takes_quoted_iff.mp takes
  refine ⟨inner, behind, ?_, nonempty, areQuoted⟩
  simpa using (List.cons.inj same).2

theorem startsWord_of_takes (same : '#' :: rest = taken ++ behind)
    (takes : wordPattern.Takes none taken behind) : StartsWord rest := by
  obtain ⟨⟨letters, nonempty, areLower, isShape⟩, stops⟩ := takes_word_iff.mp takes
  have isHash : taken = '#' :: letters := by
    rcases isShape with rfl | isHash
    · obtain ⟨letter, others, rfl⟩ := List.exists_cons_of_ne_nil nonempty
      obtain rfl := (List.cons.inj same).1
      exact absurd (areLower '#' List.mem_cons_self) (by decide)
    · exact isHash
  subst isHash
  obtain rfl : rest = letters ++ behind := (List.cons.inj same).2
  -- The letters are the whole run, since what follows them is no letter either.
  have ends : ∀ next, behind.head? = some next → isNameChar next = false :=
    fun next isNext =>
    Bool.eq_false_iff.mpr fun isName => stops ⟨next, isNext, isName⟩
  have noLetter : behind.takeWhile Char.isLower = [] ∧
      behind.dropWhile Char.isLower = behind := by
    cases behind with
    | nil => exact ⟨rfl, rfl⟩
    | cons next behind =>
        have notLower : next.isLower = false := by
          have notName := ends next rfl
          rw [isNameChar_eq] at notName
          grind
        simp [notLower]
  constructor
  · rw [List.takeWhile_append_of_pos areLower, noLetter.1, List.append_nil]
    exact nonempty
  · intro next isNext
    rw [List.dropWhile_append_of_pos areLower, noLetter.2] at isNext
    have notName := ends next isNext
    rw [isNameChar_eq] at notName
    grind

theorem isDigit_of_takes_float (same : '.' :: rest = taken ++ behind)
    (takes : floatPattern.Takes none taken behind) :
    ∃ next, rest.head? = some next ∧ next.isDigit = true := by
  obtain ⟨digits, others, rfl, areDigits, isFraction⟩ := takes
  have areDigits := (takes_loop_iff.mp areDigits).2
  have isEmpty : digits = [] := by
    cases digits with
    | nil => rfl
    | cons digit digits =>
        obtain rfl := (List.cons.inj same).1
        exact absurd (areDigits '.' List.mem_cons_self) (by decide)
  subst isEmpty
  obtain ⟨point, others, rfl, -, fraction, exponent, rfl, areFraction, -⟩ :=
    takes_one_seq_iff.mp isFraction
  obtain ⟨enough, areFraction⟩ := takes_loop_iff.mp areFraction
  obtain ⟨next, more, rfl⟩ := List.exists_cons_of_length_pos enough
  refine ⟨next, ?_, areFraction next List.mem_cons_self⟩
  rw [(List.cons.inj same).2]
  rfl

theorem isDot_of_takes_operator (same : '.' :: rest = taken ++ behind)
    (takes : operatorPattern.Takes none taken behind) : rest.head? = some '.' := by
  have first_of_seq {set : CharSet} {pattern : Pattern}
      (inSeq : (seq (one set) pattern).Takes none taken behind) :
      set.mem '.' = true ∧ ∃ others, rest = others ++ behind ∧
      pattern.Takes (some '.') others behind := by
    obtain ⟨char, others, rfl, isMember, isOthers⟩ := takes_one_seq_iff.mp inSeq
    obtain ⟨rfl, rfl⟩ := List.cons.inj same
    exact ⟨isMember, others, rfl, isOthers⟩
  rcases takes with ⟨char, rfl, isMember⟩ | takes | takes | takes | takes | takes
  · obtain rfl := (List.cons.inj same).1
    exact absurd isMember (by decide)
  · exact absurd (first_of_seq takes).1 (by decide)
  · exact absurd (first_of_seq takes).1 (by decide)
  · exact absurd (first_of_seq takes).1 (by decide)
  · obtain ⟨-, others, rfl, isOthers⟩ := first_of_seq takes
    obtain ⟨next, more, rfl, isDot, -⟩ := takes_one_seq_iff.mp isOthers
    rw [CharSet.mem_single, beq_iff_eq] at isDot
    rw [isDot]
    rfl
  · obtain ⟨-, others, rfl, next, rfl, isDot⟩ := first_of_seq takes
    rw [CharSet.mem_single, beq_iff_eq] at isDot
    rw [isDot]
    rfl

end Left

theorem isTaken_iff {char : Char} {rest : List Char} :
    IsTaken (char :: rest) ↔ ¬ Unclassified char rest := by
  constructor
  · rintro ⟨rule, member, count, matched⟩ unclassified
    obtain ⟨direct, consumes⟩ := patterns_consume _ (by simp) rule member
    have isFirst : rule.1.firstChars.mem char = true := by
      by_contra notFirst
      rw [matchLength?_eq_none_of_not_mem_firstChars direct consumes
        (Bool.eq_false_iff.mpr notFirst)] at matched
      cases matched
    obtain ⟨taken, behind, same, -, takes⟩ := exists_takes_of_matchLength? direct matched
    obtain ⟨atDot, atHash⟩ := rules_of_dot_and_hash rule member
    rcases first_of_mem_firstChars member
      isFirst with isName | isBlank | isPunctuation | rfl | rfl
    · exact Bool.false_ne_true (unclassified.notName.symm.trans isName)
    · exact Bool.false_ne_true (unclassified.notBlank.symm.trans isBlank)
    · exact unclassified.notPunctuation isPunctuation
    · rcases atDot isFirst with isFloat | isOperator
      · obtain ⟨next, isNext, isDigit⟩ := isDigit_of_takes_float same (isFloat ▸ takes)
        exact Bool.false_ne_true ((unclassified.dot rfl next isNext).1.symm.trans isDigit)
      · exact (unclassified.dot rfl '.'
          (isDot_of_takes_operator same (isOperator ▸ takes))).2 rfl
    · rcases atHash isFirst with isQuoted | isWord
      · exact (unclassified.hash rfl).1 (startsQuoted_of_takes same (isQuoted ▸ takes))
      · exact (unclassified.hash rfl).2 (startsWord_of_takes same (isWord ▸ takes))
  · intro classified
    by_contra notTaken
    refine classified ⟨?_, ?_, ?_, ?_, ?_⟩
    · exact Bool.eq_false_iff.mpr fun isName => notTaken (isTaken_of_name isName)
    · exact Bool.eq_false_iff.mpr fun isBlank => notTaken (isTaken_of_blank isBlank)
    · exact fun isPunctuation => notTaken (isTaken_of_punctuation isPunctuation)
    · rintro rfl next isNext
      obtain ⟨others, rfl⟩ := List.head?_eq_some_iff.mp isNext
      exact ⟨Bool.eq_false_iff.mpr fun isDigit =>
        notTaken (isTaken_of_dot (.inl isDigit)),
        fun isDot => notTaken (isTaken_of_dot (.inr isDot))⟩
    · rintro rfl
      exact ⟨fun starts => notTaken (isTaken_of_quoted starts),
        fun starts => notTaken (isTaken_of_word starts)⟩

/-! ### The fallback in a scan -/

section Steps

variable {scanner : Scanner} {step : Step}

/-- Inside of strings and comments some rule takes every character but a line feed. -/
theorem isSome_rule_of_inner
    (isInner : scanner.stack.top = commentState ∨ scanner.stack.top = stringState)
    (isStep : scanner.step? language = some step) (noLineFeed : '\n' ∉ scanner.rest) :
      step.rule.isSome := by
  obtain ⟨rules, tries, rule, member, isDot⟩ :
      ∃ rules, grammar.Tries scanner.stack.top rules ∧
      ∃ rule ∈ rules, rule.1 = one dot := by
    rcases isInner with isTop | isTop
    · exact ⟨commentPatterns, isTop ▸ tries_commentPatterns, by decide⟩
    · exact ⟨stringPatterns, isTop ▸ tries_stringPatterns, by decide⟩
  rcases tries.step_cases isCompiled isStep with
    ⟨_, _, _, _, _, _, isRule, _⟩ | ⟨char, rest, rest_eq, noMatch, -, -, -⟩
  · exact isRule
  · have isOther : char ≠ '\n' := by
      rintro rfl
      exact noLineFeed (rest_eq ▸ List.mem_cons_self)
    have notMatched := noMatch rule member
    rw [isDot, rest_eq, matchLength?_one, mem_dot,
      beq_eq_false_iff_ne.mpr isOther] at notMatched
    cases notMatched

theorem rule_eq_none_iff_of_root (isRoot : scanner.stack.top = rootState)
    (isStep : scanner.step? language = some step) :
    step.rule = none ↔ ∃ char rest, scanner.rest = char :: rest ∧
      Unclassified char rest := by
  have tries : grammar.Tries scanner.stack.top rootPatterns := isRoot ▸ tries_rootPatterns
  rcases tries.step_cases isCompiled isStep with
    ⟨rule, member, taken, rest, rest_eq, matched, isRule, -⟩ | ⟨char, rest, rest_eq,
      noMatch, noRule, -, -⟩
  · constructor
    · intro noRule
      rw [noRule] at isRule
      cases isRule
    · rintro ⟨char, others, others_eq, unclassified⟩
      rw [others_eq] at matched
      exact absurd unclassified (isTaken_iff.mp ⟨rule, member, _, matched⟩)
  · refine ⟨fun _ => ⟨char, rest, rest_eq, ?_⟩, fun _ => noRule⟩
    by_contra classified
    obtain ⟨rule, member, count, matched⟩ := isTaken_iff.mpr classified
    rw [← rest_eq, noMatch rule member] at matched
    cases matched

theorem rule_eq_none_iff {bound : Nat} (nested : language.IsNested bound scanner.stack)
    (isStep : scanner.step? language = some step) (noLineFeed : '\n' ∉ scanner.rest) :
    step.rule = none ↔
      scanner.stack.top = rootState ∧ ∃ char rest, scanner.rest = char :: rest ∧
      Unclassified char rest := by
  rcases top_of_isNested nested with isRoot | isInner
  · rw [rule_eq_none_iff_of_root isRoot isStep, and_iff_right isRoot]
  · have isRule := isSome_rule_of_inner isInner isStep noLineFeed
    have notRoot : scanner.stack.top ≠ rootState := by
      rcases isInner with isTop | isTop <;> rw [isTop] <;> decide
    exact ⟨fun noRule => absurd noRule (Option.isSome_iff_ne_none.mp isRule),
      fun both => absurd both.1 notRoot⟩

/-- A token that no rule gives is one character of the class with the empty name, and it
changes no state. -/
theorem token_of_rule_eq_none {rules : List (Pattern × Action)}
    (tries : grammar.Tries scanner.stack.top rules)
    (isStep : scanner.step? language = some step) (noRule : step.rule = none) :
    ∃ char rest, scanner.rest = char :: rest ∧ step.token.start = scanner.offset ∧
      step.token.stop = scanner.offset + char.utf8Size ∧
      language.baseName step.token.classIndex = "" ∧
        step.token.side = none ∧ step.next.stack = scanner.stack := by
  rcases tries.step_cases isCompiled isStep with
    ⟨_, _, _, _, _, _, isRule, _⟩ | ⟨char, rest, rest_eq, -, -, stack_eq, token_eq⟩
  · rw [noRule] at isRule
    cases isRule
  · have class_eq : language.baseName language.defaultClass = "" :=
      isCompiled.baseName_eq isCompiled.defaultClass
    exact ⟨char, rest, rest_eq, by rw [token_eq], by rw [token_eq], by rw [token_eq,
      class_eq], by rw [token_eq], stack_eq⟩

end Steps

/-- In a document the fallback applies exactly to the characters that the patterns leave
out, and only outside of strings and comments. -/
theorem fallback_iff (text : String) :
    ∀ run ∈ language.runDocument text, ∀ count step,
      let place := (Scanner.start run.line run.startStack).afterCalls language count
      place.step? language = some step →
        language.stateName place.stack.top ∈ ["root", "comment", "string"] ∧
        (step.rule = none ↔ language.stateName place.stack.top = "root" ∧
          ∃ char rest, place.rest = char :: rest ∧ Unclassified char rest) ∧
        (step.rule = none → ∃ char rest, place.rest = char :: rest ∧
          step.token.start = place.offset ∧
          step.token.stop = place.offset + char.utf8Size ∧
          language.baseName step.token.classIndex = "" ∧
          step.token.side = none ∧ step.next.stack = place.stack) := by
  intro run member count step place isStep
  obtain ⟨isLine, -, bound, nested⟩ :=
    language.isNested_initialStack.exists_of_mem_runLines member
  have nestedPlace := @Language.IsNested.afterCalls language bound
    (.start run.line run.startStack) nested count
  obtain ⟨front, line_eq, -⟩ : place.LiesIn run.line :=
    (Scanner.start_liesIn run.line run.startStack).afterCalls
  have noLineFeed : '\n' ∉ place.rest := fun isLineFeed =>
    Text.noLineFeed_of_mem_documentLines isLine
      (line_eq ▸ List.mem_append_right front isLineFeed)
  obtain ⟨isName, isRoot_iff⟩ := stateName_of_isNested nestedPlace
  obtain ⟨rules, -, tries⟩ := exists_tries_of_isNested nestedPlace
  refine ⟨isName, ?_, token_of_rule_eq_none tries isStep⟩
  rw [isRoot_iff]
  exact rule_eq_none_iff nestedPlace isStep noLineFeed

/-- A `#` before a name with a digit is not the beginning of a word, so that no rule takes
it. -/
theorem fallback_iff_hash :
    let run := language.runLine language.initialStack "#x1"
    run ∈ language.runDocument "#x1" ∧ Unclassified '#' ['x', '1'] ∧
      ∃ step, (Scanner.start run.line run.startStack).step? language = some step ∧
      step.rule = none ∧
        step.token.stop = 1 ∧ language.baseName step.token.classIndex = "" ∧
        step.next.stack = run.startStack := by
  intro run
  have isRun : run ∈ language.runDocument "#x1" :=
    language.runLine_mem_runDocument ⟨by decide, by decide⟩
  have evaluated : ((Scanner.start run.line run.startStack).step? language).map
      Step.rule = some none := by
    decide +kernel
  obtain ⟨step, isStep, noRule⟩ := Option.map_eq_some_iff.mp evaluated
  have text_eq : ['#', 'x', '1'] =
      ((Scanner.start run.line run.startStack).afterCalls language 0).rest := by
    rw [Scanner.afterCalls, Scanner.start, show run.line = "#x1" from rfl]
    decide
  obtain ⟨-, isFallback, token⟩ := fallback_iff "#x1" run isRun 0 step isStep
  obtain ⟨-, char, rest, rest_eq, unclassified⟩ := isFallback.mp noRule
  obtain ⟨rfl, rfl⟩ := List.cons.inj (text_eq.trans rest_eq)
  obtain ⟨other, others, others_eq, -, stop_eq, class_eq, -, stack_eq⟩ := token noRule
  obtain ⟨rfl, -⟩ := List.cons.inj (text_eq.trans others_eq)
  exact ⟨isRun, unclassified, step, isStep, noRule, stop_eq, class_eq, stack_eq⟩

end LineLexer.PowerQuery
