import LineLexer.Proofs.Scan.Choice
import LineLexer.Proofs.Scan.Safety

/-!
# Compiling keeps the meaning

A compiled language cuts every line as its grammar reads it.  The simulation goes step by
step: from a place at which all active states are states of the language, a step of the
scan is a step of the reading with the names of these states, and the two are at
corresponding places afterwards.  As there is at most one reading, the tokens and the end
of every reading are those of the scan.
-/

namespace LineLexer

/-- A token with the full name of its class. -/
def Language.namedToken (language : Language) (token : Token) : NamedToken :=
  ⟨token.start, token.stop, language.className token.classIndex, token.side⟩

namespace Grammar

variable {grammar : Grammar} {reader : PatternReader} {language : Language}

theorem IsCompiled.className_eq (isCompiled : grammar.IsCompiled reader language)
    {base : String} {index : ClassIndex} (isClass : grammar.IsClass base index) :
    language.className index = ClassNames.fullNameOf grammar.postfixText base := by
  rw [Language.className, isCompiled.classes_eq, isClass.fullName]
  rfl

theorem IsCompiled.baseName_eq (isCompiled : grammar.IsCompiled reader language)
    {base : String} {index : ClassIndex} (isClass : grammar.IsClass base index) :
    language.baseName index = base := by
  rw [Language.baseName, isCompiled.classes_eq, isClass.baseName]
  rfl

/-- A stack change does to the names of the active states what the transition says. -/
theorem ChangesBy.stackNames_apply (isCompiled : grammar.IsCompiled reader language)
    {transition : Option Transition} {change : Option StackChange}
    (changes : grammar.ChangesBy transition change) (stack : ActiveStates) :
    language.stackNames (StackChange.apply change stack).1 =
      Transition.applyTo (language.stackNames stack) transition := by
  cases changes with
  | none => rfl
  | @push target state isPosition =>
      change language.stackNames (stack.push state) = _ ++ [plainName target]
      rw [Language.stackNames, ActiveStates.toList_push, List.map_append,
        List.map_singleton, (isCompiled.isState isPosition).stateName_eq]
      rfl
  | pop =>
      have length_eq : (language.stackNames stack).length = stack.toList.length :=
        List.length_map _
      rw [StackChange.apply, Transition.applyTo]
      cases popped : stack.pop? with
      | none =>
          have bare := ActiveStates.length_toList_of_pop?_eq_none popped
          rw [if_pos (by omega)]
      | some left =>
          obtain ⟨state, rest⟩ := left
          have parts := ActiveStates.toList_eq_append_of_pop? popped
          have rest_length : 0 < rest.toList.length := Nat.succ_pos _
          have several : ¬ (language.stackNames stack).length ≤ 1 := by
            rw [length_eq, parts, List.length_append, List.length_singleton]
            omega
          rw [if_neg several]
          simp [Language.stackNames, parts]
  | popAll =>
      change language.stackNames stack.popAll = (language.stackNames stack).take 1
      rw [Language.stackNames, ActiveStates.toList_popAll, List.map_take]
      rfl

/-- The entries of the innermost active state stand for the rules that the scan tries. -/
theorem IsCompiled.exists_topEntries (isCompiled : grammar.IsCompiled reader language)
    {stack : ActiveStates} (admits : language.Admits stack) :
    ∃ entries placedRules origin originName,
      grammar.topEntries? (language.stackNames stack) = some entries ∧
        grammar.Splices origin originName entries placedRules ∧
        List.Forall₂ (grammar.CompilesRule reader) placedRules
          (language.rules stack.top) := by
  obtain ⟨name, lexState, isPosition, isLexState, compiles⟩ :=
    isCompiled.exists_state admits.top_lt
  obtain ⟨placedRules, ⟨position, entries, -, isEntries, splices⟩, related⟩ :=
    compiles.rules
  refine ⟨entries, placedRules, position, name, ?_, splices, ?_⟩
  · rw [topEntries?, Language.stackNames, List.getLast?_map, ActiveStates.getLast?_toList,
      Option.map_some, (isCompiled.isState isPosition).stateName_eq]
    exact isEntries
  · rwa [Language.rules_of_getElem? isLexState]

/-- The token of a match is the one that the emission of the rule makes of the matched
text. -/
theorem IsCompiled.namedToken_takeMatch (isCompiled : grammar.IsCompiled reader language)
    {placed : PlacedRule} {rule : Rule}
    (compiles : grammar.CompilesRule reader placed rule) (scanner : Scanner)
    (skipped : List Nat) (number count : Nat) :
    language.namedToken (scanner.takeMatch language skipped number rule count).token =
      grammar.tokenOf scanner.offset rule.action.emission (scanner.rest.take count) := by
  have emits : grammar.EmitsBy rule.action.emission rule.classifier :=
    compiles.action_eq ▸ compiles.emits
  obtain ⟨isClass, side_eq⟩ :=
    emits.classify isCompiled (String.ofList (scanner.rest.take count))
  rw [tokenOf, ← isCompiled.className_eq isClass, ← side_eq]
  rfl

theorem IsCompiled.namedToken_takeUnmatched
    (isCompiled : grammar.IsCompiled reader language) (scanner : Scanner)
    (skipped : List Nat) :
    language.namedToken (scanner.takeUnmatched language skipped).token =
      grammar.tokenOf scanner.offset (.token grammar.defaultClass)
        (scanner.rest.take 1) := by
  rw [tokenOf, emitted, ← isCompiled.className_eq isCompiled.defaultClass]
  rfl

/-- From a place at which all active states are states of the language, the scan of what
follows the cursor is a reading of it. -/
theorem IsCompiled.reads_steps (isCompiled : grammar.IsCompiled reader language)
    (scanner : Scanner) (admits : language.Admits scanner.stack) :
    grammar.Reads reader scanner.offset scanner.rest (language.stackNames scanner.stack)
      ((scanner.steps language).map fun step => language.namedToken step.token)
      (language.stackNames (scanner.finish language)) := by
  induction scanner using Scanner.induction_on_steps language with
  | atEnd scanner noStep =>
      rw [Scanner.steps_of_step?_eq_none noStep, Scanner.finish_of_step?_eq_none noStep,
        Scanner.step?_eq_none_iff.mp noStep]
      exact .finished
  | atStep scanner step isStep ih =>
      rw [Scanner.steps_of_step?_eq_some isStep, Scanner.finish_of_step?_eq_some isStep,
        List.map_cons]
      have others := ih (Scanner.admits_step isCompiled.numbersStates admits isStep)
      obtain ⟨entries, placedRules, origin, originName, isTop, splices, related⟩ :=
        isCompiled.exists_topEntries admits
      have selects : grammar.Selects reader scanner.rest entries
          (placedRules.findSome? (grammar.choiceOf? reader scanner.rest)) :=
            splices.selects
      rw [← winner_tryRules_eq related 0] at selects
      obtain ⟨nonempty, matched | unmatched⟩ := Scanner.step_cases isStep
      · obtain ⟨skipped, number, rule, count, tried, rfl⟩ := matched
        obtain ⟨-, isRule, -⟩ := tryRules_winner (congrArg Trial.winner tried)
        obtain ⟨placed, -, compiles⟩ :=
          isCompiled.exists_placedRule (List.mem_of_getElem? isRule)
        have changes : grammar.ChangesBy rule.action.transition rule.change :=
          compiles.action_eq ▸ compiles.changes
        have names_eq := changes.stackNames_apply isCompiled scanner.stack
        rw [tried] at selects
        rw [isCompiled.namedToken_takeMatch compiles]
        refine .matched nonempty isTop selects ?_
        rw [← names_eq]
        exact others
      · obtain ⟨skipped, tried, rfl⟩ := unmatched
        rw [tried] at selects
        rw [isCompiled.namedToken_takeUnmatched]
        obtain ⟨offset, chars, stack⟩ := scanner
        obtain ⟨char, rest, rfl⟩ := List.exists_cons_of_ne_nil nonempty
        exact .unmatched isTop selects others

/-- The tokens of a line in a compiled language, with the full names of their classes, and
the names of the states that are active at its end are those that reading the line by the
grammar gives, and no others. -/
theorem reads_iff_lexLine (compiled : grammar.compile reader = .ok language)
    {stack : ActiveStates} (admits : language.Admits stack) (line : String)
    (tokens : List NamedToken) (endNames : List String) :
    grammar.Reads reader 0 line.toList (language.stackNames stack) tokens endNames ↔
      tokens = (language.lexLine stack line).tokens.map language.namedToken ∧
        endNames = language.stackNames (language.lexLine stack line).endStack := by
  have scanned : grammar.Reads reader 0 line.toList (language.stackNames stack)
      ((language.lexLine stack line).tokens.map language.namedToken)
      (language.stackNames (language.lexLine stack line).endStack) := by
    have reads := (isCompiled_of_compile compiled).reads_steps
      (Scanner.start line stack) admits
    rw [Language.tokens_lexLine, Language.endStack_lexLine, List.map_map]
    exact reads
  constructor
  · exact fun reads => reads.unique scanned
  · rintro ⟨rfl, rfl⟩
    exact scanned

/-- In Power Query a comment is read up to its end, and what follows it by the rules
outside of comments. -/
theorem powerQuery_reads_endOfComment :
    PowerQuery.grammar.compile = .ok PowerQuery.language ∧
      PowerQuery.language.Admits ⟨0, [3]⟩ ∧
      PowerQuery.grammar.Reads Pattern.read 0 "*/ (".toList ["root", "comment"]
        [⟨0, 2, "comment.pq", none⟩, ⟨2, 3, "white.pq", none⟩,
          ⟨3, 4, "delimiter.parenthesis.pq", some .opening⟩] ["root"] := by
  -- The language is evaluated once for all four parts.
  have evaluated : (∀ state ∈ [0, 3], state < PowerQuery.language.states.size) ∧
      ["root", "comment"] = PowerQuery.language.stackNames ⟨0, [3]⟩ ∧
      [⟨0, 2, "comment.pq", none⟩, ⟨2, 3, "white.pq", none⟩,
          ⟨3, 4, "delimiter.parenthesis.pq", some .opening⟩] =
        (PowerQuery.language.lexLine ⟨0, [3]⟩ "*/ (").tokens.map
          PowerQuery.language.namedToken ∧
      ["root"] = PowerQuery.language.stackNames
        (PowerQuery.language.lexLine ⟨0, [3]⟩ "*/ (").endStack := by
    decide +kernel
  obtain ⟨inside, names_eq, tokens_eq, endNames_eq⟩ := evaluated
  have admits : PowerQuery.language.Admits ⟨0, [3]⟩ := inside
  refine ⟨PowerQuery.compile_grammar, admits, ?_⟩
  rw [names_eq]
  exact (reads_iff_lexLine PowerQuery.compile_grammar admits _ _ _).mpr
    ⟨tokens_eq, endNames_eq⟩

end Grammar

end LineLexer
