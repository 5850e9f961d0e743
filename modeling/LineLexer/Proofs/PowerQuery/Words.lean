import LineLexer.Proofs.PowerQuery.Patterns
import LineLexer.Proofs.Scan.CaseOrder

/-!
# Words of Power Query

A word of small letters is a token of its own wherever it is not a part of a longer name.
Its class is that of the first of five sets of words that contains it, and what follows it
is scanned as a line of its own.  Where the word goes on with another character of names,
it is only the beginning of an identifier, even if the word is reserved.
-/

namespace LineLexer.PowerQuery

open Pattern Grammar

def wordClass (word : String) : String :=
  if word ∈ typeKeywords then "type"
  else if word ∈ keywords then "keyword"
  else if word ∈ constants then "constant"
  else if word ∈ constructors then "constructor"
  else if word ∈ operatorKeywords then "operators"
  else "identifier"

theorem caseClass_cons_words {name className word : String} {words : List String}
    {arms : List (Guard × String)} (isSet : grammar.wordSets.get? name = some words) :
    grammar.caseClass ((.inSet name, className) :: arms) word =
      if word ∈ words then className else grammar.caseClass arms word := by
  have holds_iff : grammar.guardHolds word (.inSet name) = true ↔ word ∈ words := by
    have key_eq (text : String) : grammar.wordKey text = text := rfl
    simp [guardHolds, listsKey, isSet, key_eq]
  by_cases member : word ∈ words
  · rw [if_pos member, caseClass_cons_inSet (holds_iff.mpr member)]
  · rw [if_neg member, caseClass_cons_of_not_holds
      (Bool.eq_false_iff.mpr (mt holds_iff.mp member))]

theorem caseClass_wordCases (word : String) :
    grammar.caseClass wordCases word = wordClass word := by
  have areSets : grammar.wordSets.get? "typeKeywords" = some typeKeywords ∧
      grammar.wordSets.get? "keywords" = some keywords ∧
      grammar.wordSets.get? "constants" = some constants ∧
        grammar.wordSets.get? "constructors" = some constructors ∧
          grammar.wordSets.get? "operatorKeywords" = some operatorKeywords := by
    decide +kernel
  have cases_eq : wordCases =
      [(.inSet "typeKeywords", "type"), (.inSet "keywords", "keyword"),
        (.inSet "constants", "constant"),
        (.inSet "constructors", "constructor"), (.inSet "operatorKeywords", "operators"),
        (.otherwise, "identifier")] := by
    decide +kernel
  obtain ⟨areTypes, areKeywords, areConstants, areConstructors, areOperators⟩ := areSets
  rw [cases_eq, caseClass_cons_words areTypes, caseClass_cons_words areKeywords,
    caseClass_cons_words areConstants, caseClass_cons_words areConstructors,
    caseClass_cons_words areOperators]
  rfl

/-! ### Where a word ends -/

section Ends

variable {word other rest otherRest : List Char}

theorem isNameChar_and_not_isLower {char : Char}
    (isOther : (char.isUpper || char.isDigit || char == '_') = true) :
    isNameChar char = true ∧ char.isLower = false := by
  by_cases isUnderscore : char = '_'
  · subst isUnderscore
    decide
  · rw [isNameChar_eq]
    grind [isLower_eq_false]

theorem IsWord.ne_nil (isWord : IsWord word) : word ≠ [] := by
  obtain ⟨letters, nonempty, -, rfl | rfl⟩ := isWord
  · exact nonempty
  · exact List.cons_ne_nil _ _

theorem IsWord.isLower_of_mem_tail (isWord : IsWord word) {char : Char}
    (member : char ∈ word.tail) : char.isLower = true := by
  obtain ⟨letters, -, areLower, rfl | rfl⟩ := isWord
  · exact areLower char (List.mem_of_mem_tail member)
  · exact areLower char member

theorem goesOn_append {more : List Char}
    (areNames : ∀ char ∈ more, isNameChar char = true)
      (goesOn : more = [] → GoesOn rest) : GoesOn (more ++ rest) := by
  cases more with
  | nil => exact goesOn rfl
  | cons char more => exact ⟨char, rfl, areNames char List.mem_cons_self⟩

/-- If one part of a word is split off and something is left of it, the rest goes on. -/
theorem IsWord.goesOn_of_append {more : List Char} (isWord : IsWord (other ++ more))
    (nonempty : other ≠ []) (isMore : more ≠ []) : GoesOn (more ++ rest) := by
  refine goesOn_append (fun char member => ?_) fun isEmpty => absurd isEmpty isMore
  refine isNameChar_of_isLower (isWord.isLower_of_mem_tail ?_)
  rw [List.tail_append_of_ne_nil nonempty]
  exact List.mem_append_right _ member

/-- A text that stands where a word stands and is not followed by a character of names is
not shorter than the word. -/
theorem IsWord.length_le (isWord : IsWord word) (nonempty : other ≠ [])
    (same : word ++ rest = other ++ otherRest) (stops : ¬ GoesOn otherRest) :
    word.length ≤ other.length := by
  rcases List.append_eq_append_iff.mp same with ⟨more, rfl, -⟩ | ⟨more, rfl, rfl⟩
  · rw [List.length_append]
    exact Nat.le_add_right _ _
  · rcases List.eq_nil_or_concat more with rfl | ⟨_, _, rfl⟩
    · rw [List.append_nil]
    · exact absurd (isWord.goesOn_of_append nonempty (by simp)) stops

theorem matchLength?_word (isWord : IsWord word) (stops : ¬ GoesOn rest) :
    wordPattern.matchLength? (word ++ rest) = some word.length := by
  refine matchLength?_eq_some_of_takes (by decide) (takes_word_iff.mpr ⟨isWord, stops⟩) ?_
  intro other otherRest same isTaken
  obtain ⟨isOther, otherStops⟩ := takes_word_iff.mp isTaken
  exact Nat.le_antisymm (isOther.length_le isWord.ne_nil same.symm stops)
    (isWord.length_le isOther.ne_nil same otherStops)

theorem quotedPattern_passesOver (isWord : IsWord word) :
    quotedPattern.matchLength? (word ++ rest) = none := by
  refine (matchLength?_eq_none_iff (by decide)).mpr fun taken others same isTaken => ?_
  obtain ⟨inner, rfl, -, -⟩ := takes_quoted_iff.mp isTaken
  obtain ⟨letters, nonempty, areLower, isShape⟩ := isWord
  obtain ⟨letter, behind, rfl⟩ := List.exists_cons_of_ne_nil nonempty
  have isLower := areLower letter List.mem_cons_self
  rcases isShape with rfl | rfl
  · obtain ⟨rfl, -⟩ := List.cons.inj same
    exact absurd isLower (by decide)
  · obtain ⟨rfl, -⟩ := List.cons.inj (List.cons.inj same).2
    exact absurd isLower (by decide)

theorem numberPattern_passesOver {pattern : Pattern}
    (isNumber : pattern ∈ [floatPattern, hexPattern, integerPattern])
    (direct : pattern.isDirect = true) (consumes : pattern.canBeEmpty = false)
    (isWord : IsWord word) : pattern.matchLength? (word ++ rest) = none := by
  obtain ⟨letters, nonempty, areLower, isShape⟩ := isWord
  obtain ⟨letter, behind, rfl⟩ := List.exists_cons_of_ne_nil nonempty
  have isLower := areLower letter List.mem_cons_self
  have notFirst {char : Char} (isOther : ¬ (char.isDigit = true ∨ char = '.')) :
      pattern.firstChars.mem char = false :=
    Bool.eq_false_iff.mpr (mt (isStart_of_number isNumber) isOther)
  rcases isShape with rfl | rfl
  · refine matchLength?_eq_none_of_not_mem_firstChars direct consumes (notFirst ?_)
    rintro (isDigit | rfl)
    · simp [isLower_eq_false, isDigit] at isLower
    · exact absurd isLower (by decide)
  · exact matchLength?_eq_none_of_not_mem_firstChars direct consumes
      (notFirst (by decide))

/-- The rules for quoted identifiers and numbers pass over words. -/
theorem matchOf?_eq_none_of_isWord {rule : Pattern × Action}
    (member : rule ∈ rootPatterns.take 4) (isWord : IsWord word) :
    matchOf? (word ++ rest) rule = none := by
  obtain ⟨direct, consumes⟩ :=
    patterns_consume _ (by simp) rule (List.mem_of_mem_take member)
  rw [matchOf?, Option.map_eq_none_iff]
  rcases List.mem_cons.mp member with rfl | isNumber
  · exact quotedPattern_passesOver isWord
  · exact numberPattern_passesOver
      (List.mem_map_of_mem (f := Prod.fst) isNumber) direct consumes isWord

/-- A word that goes on with another character of names is not chosen as a word. -/
theorem matchLength?_word_eq_none (isWord : IsWord word) {char : Char}
    (isName : isNameChar char = true) (notLower : char.isLower = false) :
    wordPattern.matchLength? (word ++ char :: rest) = none := by
  refine (matchLength?_eq_none_iff (by decide)).mpr fun other otherRest same isTaken => ?_
  obtain ⟨isOther, stops⟩ := takes_word_iff.mp isTaken
  rcases List.append_eq_append_iff.mp same with ⟨more, rfl, rest_eq⟩ | ⟨more, rfl, rfl⟩
  · cases more with
    | nil =>
        exact stops ⟨char, by rw [← List.nil_append otherRest, ← rest_eq]; rfl, isName⟩
    | cons next more =>
        obtain ⟨rfl, -⟩ := List.cons.inj rest_eq
        have inTail : char ∈ (word ++ char :: more).tail := by
          rw [List.tail_append_of_ne_nil isWord.ne_nil]
          exact List.mem_append_right _ List.mem_cons_self
        exact Bool.false_ne_true
          (notLower.symm.trans (isOther.isLower_of_mem_tail inTail))
  · by_cases isMore : more = []
    · subst isMore
      exact stops ⟨char, rfl, isName⟩
    · exact stops (isWord.goesOn_of_append isOther.ne_nil isMore)

/-- An identifier does not end between two characters of names. -/
theorem length_lt_of_takes_name (areNames : ∀ char ∈ word, isNameChar char = true)
    (goesOn : GoesOn rest) (same : word ++ rest = other ++ otherRest)
    (isTaken : namePattern.Takes none other otherRest) : word.length < other.length := by
  obtain ⟨head, behind, other_eq, -, -, isBoundary⟩ := takes_name_iff.mp isTaken
  have nonempty : other ≠ [] := other_eq ▸ List.cons_ne_nil head behind
  by_contra notLonger
  obtain ⟨more, rfl, rfl⟩ : ∃ more, word = other ++ more ∧ otherRest = more ++ rest := by
    rcases List.append_eq_append_iff.mp same with ⟨more, rfl, rfl⟩ | inWord
    · obtain rfl : more = [] := by simpa using notLonger
      exact ⟨[], by simp, by simp⟩
    · exact inWord
  have areNamesFront (char : Char) (member : char ∈ other) :=
    areNames char (List.mem_append_left more member)
  refine (isBoundary_iff nonempty areNamesFront).mp isBoundary
    (goesOn_append (fun char member => ?_) fun _ => goesOn)
  exact areNames char (List.mem_append_right other member)

end Ends

/-! ### Words and identifiers -/

section Tokens

variable {stack : ActiveStates} {word rest : List Char} {char : Char}

theorem findSome?_word (isWord : IsWord word) (stops : ¬ GoesOn rest) :
    rootPatterns.findSome? (matchOf? (word ++ rest)) =
      some (.ofCases wordCases, word.length) := by
  have parts : rootPatterns =
      rootPatterns.take 4 ++ (wordPattern, .ofCases wordCases) :: rootPatterns.drop 5 :=
        rfl
  have passed : (rootPatterns.take 4).findSome? (matchOf? (word ++ rest)) = none :=
    List.findSome?_eq_none_iff.mpr fun rule member =>
      matchOf?_eq_none_of_isWord member isWord
  rw [parts, List.findSome?_append, passed, Option.none_or, List.findSome?_cons, matchOf?,
    matchLength?_word isWord stops]
  rfl

theorem findSome?_name (rest : List Char) (isWord : IsWord word) (noHash : '#' ∉ word)
    (isName : isNameChar char = true) (notLower : char.isLower = false) :
    ∃ count, word.length < count ∧
      rootPatterns.findSome? (matchOf? (word ++ char :: rest)) =
        some (.ofClass "identifier", count) := by
  have parts : rootPatterns = rootPatterns.take 4 ++
      (wordPattern, .ofCases wordCases) :: (namePattern, .ofClass "identifier") ::
        rootPatterns.drop 6 := rfl
  have passed :
      (rootPatterns.take 4).findSome? (matchOf? (word ++ char :: rest)) = none :=
    List.findSome?_eq_none_iff.mpr fun rule member =>
      matchOf?_eq_none_of_isWord member isWord
  have areLower : ∀ letter ∈ word, letter.isLower = true := by
    obtain ⟨letters, -, areLower, rfl | rfl⟩ := isWord
    · exact areLower
    · exact absurd List.mem_cons_self noHash
  obtain ⟨count, matched⟩ : ∃ count, namePattern.matchLength? (word ++ char :: rest) =
      some count := by
    obtain ⟨head, others, rfl⟩ := List.exists_cons_of_ne_nil isWord.ne_nil
    exact exists_matchLength?_name
      (by simp [isAlpha_eq, areLower head List.mem_cons_self])
  obtain ⟨taken, behind, same, rfl, isTaken⟩ :=
    exists_takes_of_matchLength? (by decide) matched
  refine ⟨taken.length, ?_, ?_⟩
  · exact length_lt_of_takes_name
      (fun letter member => isNameChar_of_isLower (areLower letter member))
      ⟨char, rfl, isName⟩ same isTaken
  · rw [parts, List.findSome?_append, passed, Option.none_or,
      List.findSome?_cons, matchOf?, matchLength?_word_eq_none isWord isName notLower,
      Option.map_none, List.findSome?_cons, matchOf?, matched]
    rfl

theorem mem_classBases_of_wordClasses :
    ∀ base ∈ ["type", "keyword", "constant", "constructor", "operators",
    "identifier"], base ∈ grammar.classBases := by
  decide +kernel

theorem baseName_wordClass (text : String) :
    language.baseName (language.classIndexOf (wordClass text)) = wordClass text := by
  refine baseName_classIndexOf (mem_classBases_of_wordClasses _ ?_)
  unfold wordClass
  split_ifs <;> simp

theorem takesPieces_word (isRoot : stack.top = rootState) (isWord : IsWord word)
    (stops : ¬ GoesOn rest) :
    TakesPieces language stack
      [⟨language.classIndexOf (wordClass (String.ofList word)), word⟩] rest stack := by
  obtain ⟨name, entries, isTop, isEntries, selects⟩ := isRoot ▸ tries_rootPatterns
  exact takesPieces_of_emitted isCompiled word isTop isEntries
    (findSome?_word isWord stops ▸ selects (word ++ rest))
    (by rw [emitted, caseClass_wordCases]) .none

theorem exists_step_name (rest : List Char) (isRoot : stack.top = rootState)
    (isWord : IsWord word) (noHash : '#' ∉ word) (isName : isNameChar char = true)
    (notLower : char.isLower = false) :
    ∃ step, (Scanner.mk 0 (word ++ char :: rest) stack).step? language = some step ∧
    step.token.start = 0 ∧
      Text.byteLength word < step.token.stop ∧ language.baseName step.token.classIndex =
        "identifier" := by
  obtain ⟨name, entries, isTop, isEntries, selects⟩ := isRoot ▸ tries_rootPatterns
  obtain ⟨count, longer, chosen⟩ := findSome?_name rest isWord noHash isName notLower
  have selects := selects (word ++ char :: rest)
  rw [chosen] at selects
  obtain ⟨step, isStep, -, next_eq, token_eq⟩ :=
    @IsCompiled.step?_of_selects grammar Pattern.read language
      ⟨0, word ++ char :: rest, stack⟩ name entries isTop isEntries
      isCompiled _ none count selects .none
  refine ⟨step, isStep, by rw [token_eq], ?_, ?_⟩
  · have taken : (word ++ char :: rest).take count =
        word ++ (char :: rest).take (count - word.length) := by
      rw [List.take_append, List.take_of_length_le (Nat.le_of_lt longer)]
    have more : (char :: rest).take (count - word.length) ≠ [] := by
      simpa using Nat.sub_ne_zero_of_lt longer
    have stop_eq : step.token.stop =
        Text.byteLength ((word ++ char :: rest).take count) := by
      rw [token_eq, next_eq]
      exact Nat.zero_add _
    rw [stop_eq, taken, Text.byteLength_append]
    exact Nat.lt_add_of_pos_right (Text.byteLength_pos more)
  · rw [token_eq, Action.ofClass]
    dsimp only [emitted]
    exact baseName_classIndexOf (mem_classBases_of_wordClasses "identifier" (by simp))

end Tokens

/-- Where no character of names follows, a word is a token, the class is that of the first
set that contains it, the stack stays as it is, and what follows is scanned as a line of
its own.  A word without `#` before a capital letter, a digit or an underscore is only the
beginning of an identifier. -/
theorem words_classified (stack : ActiveStates) (word rest : String)
    (isRoot : stack.top = language.start) (isWord : IsWord word.toList) :
    (¬ GoesOn rest.toList → ∃ index, language.baseName index = wordClass word ∧
        language.lexLine stack (word ++ rest) =
          LexedLine.followedBy ⟨[⟨0, word.utf8ByteSize, index, none⟩], stack⟩
            (language.lexLine stack rest) ∧
        ((Scanner.start (word ++ rest) stack).next language).2.stack = stack) ∧
      ('#' ∉ word.toList →
        (∃ char, rest.toList.head? = some char ∧
          (char.isUpper || char.isDigit || char == '_') = true) →
          ∃ token others,
            (language.lexLine stack (word ++ rest)).tokens = token :: others ∧
              token.start = 0 ∧ word.utf8ByteSize < token.stop ∧
                language.baseName token.classIndex = "identifier") := by
  have isRoot : stack.top = rootState := isRoot.trans start_eq
  refine ⟨fun stops => ?_, fun noHash ⟨char, isNext, isOther⟩ => ?_⟩
  · have takes := takesPieces_word isRoot isWord stops
    rw [String.ofList_toList] at takes
    refine ⟨_, baseName_wordClass word, ?_, ?_⟩
    · have lexed := takes.lexLine
      simpa [Piece.row, Text.byteLength_toList] using lexed
    · have place_eq := (takes 0).afterCalls_eq
      have stack_eq := congrArg Scanner.stack place_eq
      simpa [Scanner.start, Piece.row, Scanner.afterCalls] using stack_eq
  · obtain ⟨others, rest_eq⟩ := List.head?_eq_some_iff.mp isNext
    obtain ⟨isName, notLower⟩ := isNameChar_and_not_isLower isOther
    obtain ⟨step, isStep, start_eq, longer, class_eq⟩ :=
      exists_step_name others isRoot isWord noHash isName notLower
    have fromStart : (Scanner.start (word ++ rest) stack).step? language = some step := by
      rw [Scanner.start, String.toList_append, rest_eq, isStep]
    have tokens_eq : (language.lexLine stack (word ++ rest)).tokens =
        step.token :: (step.next.steps language).map Step.token := by
      rw [Language.tokens_lexLine, Scanner.steps_of_step?_eq_some fromStart,
        List.map_cons]
    exact ⟨step.token, _, tokens_eq, start_eq,
      Text.byteLength_toList word ▸ longer, class_eq⟩

/-- A keyword is one before a letter that is not of ASCII; before an underscore it begins
an identifier. -/
theorem words_classified_let :
    (∃ index, language.baseName index = "keyword" ∧
        language.lexLine language.initialStack ("let" ++ "é") =
          LexedLine.followedBy ⟨[⟨0, 3, index, none⟩], language.initialStack⟩
            (language.lexLine language.initialStack "é")) ∧
      ∃ token others, (language.lexLine language.initialStack ("let" ++ "_1")).tokens =
        token :: others ∧
        token.start = 0 ∧ 3 < token.stop ∧ language.baseName token.classIndex =
          "identifier" := by
  have isWord : IsWord "let".toList := ⟨_, by decide, by simp, .inl rfl⟩
  have isClass : wordClass "let" = "keyword" := by decide +kernel
  have stops : ¬ GoesOn "é".toList := by
    rw [goesOn_iff]
    decide
  have isRoot := language.top_initialStack
  obtain ⟨index, class_eq, lexed, -⟩ :=
    (words_classified _ "let" "é" isRoot isWord).1 stops
  exact ⟨⟨index, class_eq.trans isClass, lexed⟩,
    (words_classified _ "let" "_1" isRoot isWord).2 (by decide) ⟨'_', rfl, rfl⟩⟩

end LineLexer.PowerQuery
