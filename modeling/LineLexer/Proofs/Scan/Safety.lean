import LineLexer.Catalog.PowerQuery
import LineLexer.Proofs.Language.Numbering
import LineLexer.Proofs.Scan.Resumption
import LineLexer.Scan.Document

/-!
# Scanning and reporting are safe

Nothing that a scan or a report looks up can be missing in a compiled language.  The
invariant of a scan is that all active states are states of the language and that the
cursor lies between two characters of the line; from such a place every step uses only
numbers in range, and it leads to such a place again.
-/

namespace LineLexer

/-- All states of the stack are states of the language. -/
def Language.Admits (language : Language) (stack : ActiveStates) : Prop :=
  ∀ state ∈ stack.toList, state < language.states.size

/-- Everything that a step of a scan of the line refers to exists. -/
structure Step.IsSafe (language : Language) (line : String) (step : Step) : Prop where
  state_lt : step.state < language.states.size
  skipped_lt : ∀ number ∈ step.skipped, number < (language.rules step.state).length
  rule_lt : ∀ number, step.rule = some number →
    number < (language.rules step.state).length
  classIndex_lt : step.token.classIndex < language.classes.size
  isSome_baseName : (language.classes.baseName? step.token.classIndex).isSome
  isSome_fullName : (language.classes.fullName? step.token.classIndex).isSome
  start_isValid : (String.Pos.Raw.mk step.token.start).IsValid line
  stop_isValid : (String.Pos.Raw.mk step.token.stop).IsValid line
  start_le_stop : step.token.start ≤ step.token.stop
  admits_next : language.Admits step.next.stack

/-- Everything that the run of a line refers to exists. -/
structure LineRun.IsSafe (language : Language) (run : LineRun) : Prop where
  admits_start : language.Admits run.startStack
  steps : ∀ step ∈ run.steps, step.IsSafe language run.line
  admits_end : language.Admits run.endStack

namespace Language.Admits

variable {language : Language} {stack : ActiveStates}

theorem single {state : StateIndex} (inside : state < language.states.size) :
    language.Admits (.single state) := by
  intro other member
  obtain rfl := List.mem_singleton.mp member
  exact inside

theorem top_lt (admits : language.Admits stack) : stack.top < language.states.size :=
  admits stack.top (List.mem_of_getLast? (ActiveStates.getLast?_toList stack))

/-- Entering a state of the language and leaving states keep all active states in the
language. -/
theorem apply (admits : language.Admits stack) {change : Option StackChange}
    (enters : ∀ state, change = some (.push state) → state < language.states.size) :
    language.Admits (StackChange.apply change stack).1 := by
  match change with
  | none => exact admits
  | some (.push state) =>
      intro other member
      change other ∈ (stack.push state).toList at member
      rw [ActiveStates.toList_push] at member
      rcases List.mem_append.mp member with member | member
      · exact admits other member
      · obtain rfl := List.mem_singleton.mp member
        exact enters other rfl
  | some .pop =>
      rw [StackChange.apply]
      split
      · rename_i state rest popped
        intro other member
        apply admits
        rw [ActiveStates.toList_eq_append_of_pop? popped]
        exact List.mem_append_left _ member
      · exact admits
  | some .popAll =>
      intro other member
      change other ∈ stack.popAll.toList at member
      rw [ActiveStates.toList_popAll] at member
      exact admits other (List.mem_of_mem_take member)

end Language.Admits

theorem Language.bracketOf?_mem {language : Language} {text : String} {index : ClassIndex}
    {side : Side} (isBracket : language.bracketOf? text = some (index, side)) :
    ∃ entry ∈ language.brackets, entry.classIndex = index := by
  obtain ⟨entry, member, isSide⟩ := List.exists_of_findSome?_eq_some isBracket
  refine ⟨entry, member, ?_⟩
  split at isSide
  · exact (Prod.mk.inj (Option.some.inj isSide)).1
  · split at isSide
    · exact (Prod.mk.inj (Option.some.inj isSide)).1
    · exact absurd isSide (by simp)

/-- The class that a rule gives a text is a class of the language. -/
theorem Language.ResolvesClasses.classify_lt {language : Language}
    (resolves : language.ResolvesClasses) {state : StateIndex} {rule : Rule}
    (member : rule ∈ language.rules state) (text : String) :
    (language.classify rule.classifier text).1 < language.classes.size := by
  have ofUse := resolves.rules state rule member
  generalize rule.classifier = classifier at ofUse
  cases classifier with
  | token index => exact ofUse index rfl
  | brackets =>
      rw [Language.classify]
      cases isBracket : language.bracketOf? text with
      | none => exact resolves.defaultClass
      | some found =>
          obtain ⟨entry, isEntry, index_eq⟩ := Language.bracketOf?_mem isBracket
          exact index_eq ▸ resolves.brackets entry isEntry
  | cases table =>
      change language.caseClass table text < language.classes.size
      rw [Language.caseClass]
      generalize (if language.ignoreCase then Text.lowerCase text else text) = key
      cases lookedUp : table.classOf[key]? with
      | none => exact ofUse table.otherwise (Or.inr rfl)
      | some index => exact ofUse index (Or.inl ⟨key, lookedUp⟩)

namespace Scanner

variable {language : Language} {line : String} {scanner : Scanner} {step : Step}

/-- The class of a token is a class of the language. -/
theorem step_classIndex_lt (resolves : language.ResolvesClasses)
    (isStep : scanner.step? language = some step) :
    step.token.classIndex < language.classes.size := by
  obtain ⟨-, matched | unmatched⟩ := step_cases isStep
  · obtain ⟨skipped, number, rule, count, tried, rfl⟩ := matched
    obtain ⟨-, isRule, -⟩ := tryRules_winner (congrArg Trial.winner tried)
    exact resolves.classify_lt (List.mem_of_getElem? isRule) _
  · obtain ⟨skipped, -, rfl⟩ := unmatched
    exact resolves.defaultClass

/-- The rules that a step refers to are rules of the state whose rules were tried. -/
theorem step_numbers_lt (isStep : scanner.step? language = some step) :
    step.state = scanner.stack.top ∧
      (∀ number ∈ step.skipped, number < (language.rules step.state).length) ∧
      ∀ number, step.rule = some number →
        number < (language.rules step.state).length := by
  have skipped_lt {skipped : List Nat} {winner : Option (Nat × Rule × Nat)}
      (tried : tryRules scanner.rest 0 (language.rules scanner.stack.top) =
        ⟨skipped, winner⟩) :
      ∀ number ∈ skipped, number < (language.rules scanner.stack.top).length := by
    intro number member
    have passed : number ∈
        (tryRules scanner.rest 0 (language.rules scanner.stack.top)).skipped := by
      rw [tried]
      exact member
    obtain ⟨-, rule, isRule, -⟩ := tryRules_skipped passed
    exact (List.getElem?_eq_some_iff.mp isRule).1
  obtain ⟨-, matched | unmatched⟩ := step_cases isStep
  · obtain ⟨skipped, number, rule, count, tried, rfl⟩ := matched
    refine ⟨rfl, skipped_lt tried, ?_⟩
    intro other isNumber
    obtain rfl := Option.some.inj isNumber
    obtain ⟨-, isRule, -⟩ := tryRules_winner (congrArg Trial.winner tried)
    exact (List.getElem?_eq_some_iff.mp isRule).1
  · obtain ⟨skipped, tried, rfl⟩ := unmatched
    refine ⟨rfl, skipped_lt tried, ?_⟩
    intro other isNumber
    exact absurd isNumber (by simp [takeUnmatched])

/-- A step keeps all active states in the language. -/
theorem admits_step {grammar : Grammar} (numbers : language.NumbersStates grammar)
    (admits : language.Admits scanner.stack)
    (isStep : scanner.step? language = some step) : language.Admits step.next.stack := by
  obtain ⟨change, stack_eq, isRuleChange⟩ := exists_change_of_step isStep
  rw [stack_eq]
  refine admits.apply fun state isPush => ?_
  obtain ⟨rule, isRule, isRulePush⟩ := isRuleChange state isPush
  obtain ⟨name, -, isState⟩ :=
    numbers.entered scanner.stack.top rule isRule state isRulePush
  exact isState.lt_size

/-- From a place in a line at which all active states are states of the language, a step
is safe. -/
theorem isSafe_step {grammar : Grammar} (numbers : language.NumbersStates grammar)
    (resolves : language.ResolvesClasses) (admits : language.Admits scanner.stack)
    (liesIn : scanner.LiesIn line) (isStep : scanner.step? language = some step) :
    step.IsSafe language line := by
  obtain ⟨state_eq, skipped_lt, rule_lt⟩ := step_numbers_lt isStep
  obtain ⟨count, -, -, advance, start_eq, stop_eq⟩ := step_advances isStep
  have classIndex_lt := step_classIndex_lt resolves isStep
  obtain ⟨isSome_baseName, isSome_fullName⟩ := ClassNames.isSome_names_of_lt classIndex_lt
  exact {
    state_lt := state_eq ▸ admits.top_lt
    skipped_lt := skipped_lt
    rule_lt := rule_lt
    classIndex_lt := classIndex_lt
    isSome_baseName := isSome_baseName
    isSome_fullName := isSome_fullName
    start_isValid := start_eq ▸ liesIn.isValid
    stop_isValid := stop_eq ▸ (liesIn.step isStep).isValid
    start_le_stop := by
      rw [start_eq, stop_eq, advance]
      exact Nat.le_add_right _ _
    admits_next := admits_step numbers admits isStep }

/-- All steps to the end of the line are safe, and all states that are active there are
states of the language. -/
theorem isSafe_steps {grammar : Grammar} (numbers : language.NumbersStates grammar)
    (resolves : language.ResolvesClasses) (admits : language.Admits scanner.stack)
    (liesIn : scanner.LiesIn line) :
    (∀ step ∈ scanner.steps language, step.IsSafe language line) ∧
      language.Admits (scanner.finish language) := by
  induction scanner using Scanner.induction_on_steps language with
  | atEnd scanner noStep =>
      rw [steps_of_step?_eq_none noStep, finish_of_step?_eq_none noStep]
      exact ⟨by simp, admits⟩
  | atStep scanner step isStep ih =>
      have isSafe := isSafe_step numbers resolves admits liesIn isStep
      obtain ⟨stepsSafe, admitsEnd⟩ := ih isSafe.admits_next (liesIn.step isStep)
      rw [steps_of_step?_eq_some isStep, finish_of_step?_eq_some isStep]
      refine ⟨?_, admitsEnd⟩
      intro other member
      rcases List.mem_cons.mp member with rfl | member
      · exact isSafe
      · exact stepsSafe other member

end Scanner

section Runs

variable {grammar : Grammar} {reader : PatternReader} {language : Language}
  {stack : ActiveStates}

theorem isSafe_runLine (numbers : language.NumbersStates grammar)
    (resolves : language.ResolvesClasses) (admits : language.Admits stack)
    (line : String) : (language.runLine stack line).IsSafe language := by
  obtain ⟨steps, admits_end⟩ :=
    Scanner.isSafe_steps numbers resolves admits (Scanner.start_liesIn line stack)
  exact ⟨admits, steps, admits_end⟩

theorem isSafe_runLines (numbers : language.NumbersStates grammar)
    (resolves : language.ResolvesClasses) (admits : language.Admits stack)
    (lines : List String) :
    ∀ run ∈ language.runLines stack lines, run.IsSafe language := by
  induction lines generalizing stack with
  | nil => simp [Language.runLines]
  | cons line lines ih =>
      have isSafe := isSafe_runLine numbers resolves admits line
      intro run member
      rcases List.mem_cons.mp member with rfl | member
      · exact isSafe
      · exact ih isSafe.admits_end run member

end Runs

/-- In a compiled language every number of a state is a position in the order of
declaration and every number of a class is that of a class, so that no run of a line from
states of the language can refer to anything that does not exist.  Documents start with
such states, and their lines end with such states. -/
theorem isSafe_of_compile {grammar : Grammar} {reader : PatternReader}
    {language : Language} (compiled : grammar.compile reader = .ok language) :
    language.NumbersStates grammar ∧ language.ResolvesClasses ∧
      language.Admits language.initialStack ∧
      (∀ stack, language.Admits stack →
        ∀ line, (language.runLine stack line).IsSafe language) ∧
      ∀ text, ∀ run ∈ language.runDocument text,
        run.IsSafe language ∧
          ∀ line, (language.runLine run.endStack line).IsSafe language := by
  have isCompiled := Grammar.isCompiled_of_compile compiled
  have numbers := isCompiled.numbersStates
  have resolves := isCompiled.resolvesClasses
  have admits : language.Admits language.initialStack := .single numbers.start.lt_size
  refine ⟨numbers, resolves, admits, fun stack admits line => ?_,
    fun text run member => ?_⟩
  · exact isSafe_runLine numbers resolves admits line
  · have isSafe := isSafe_runLines numbers resolves admits _ run member
    exact ⟨isSafe, fun line => isSafe_runLine numbers resolves isSafe.admits_end line⟩

/-- Scanning documents in Power Query is safe. -/
theorem powerQuery_isSafe :
    PowerQuery.grammar.compile = .ok PowerQuery.language ∧
      PowerQuery.language.NumbersStates PowerQuery.grammar ∧
      PowerQuery.language.ResolvesClasses ∧
      ∀ text, ∀ run ∈ PowerQuery.language.runDocument text,
        run.IsSafe PowerQuery.language := by
  obtain ⟨numbers, resolves, -, -, documents⟩ :=
    isSafe_of_compile PowerQuery.compile_grammar
  exact ⟨PowerQuery.compile_grammar, numbers, resolves,
    fun text run member => (documents text run member).1⟩

end LineLexer
