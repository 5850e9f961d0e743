import LineLexer.Catalog.PowerQuery
import LineLexer.Proofs.Language.Numbering
import LineLexer.Proofs.Scan.Lines
import LineLexer.Proofs.Scan.Resumption
import Mathlib.Data.List.Chain

/-!
# How active states are nested

Every active state but the one at the bottom has been entered from the state below it, by
one of the rules of that state.  This is so at every moment of a scan that begins with the
initial stack, since a step changes the stack by a rule of its innermost state.  Which
stacks can occur can thus be read off the rules.
-/

namespace LineLexer

namespace Language

/-- Some rule of the state `outer` enters the state `inner`. -/
def Enters (language : Language) (outer inner : StateIndex) : Prop :=
  ∃ rule ∈ language.rules outer, rule.change = some (.push inner)

/-- The stack starts with the start state, each of its states can be entered from the one
below it, and at most `bound` of them lie above the start state. -/
structure IsNested (language : Language) (bound : Nat) (stack : ActiveStates) : Prop where
  bottom_eq : stack.bottom = language.start
  isChain : stack.toList.IsChain language.Enters
  depth_le : stack.depth ≤ bound + 1

variable {language : Language} {bound : Nat} {stack : ActiveStates}

theorem isNested_initialStack (language : Language) :
    language.IsNested 0 language.initialStack where
  bottom_eq := rfl
  isChain := .singleton language.start
  depth_le := Nat.le_refl 1

namespace IsNested

theorem mono (nested : language.IsNested bound stack) {larger : Nat}
    (le : bound ≤ larger) :
    language.IsNested larger stack :=
  ⟨nested.bottom_eq, nested.isChain, Nat.le_trans nested.depth_le (Nat.succ_le_succ le)⟩

theorem push (nested : language.IsNested bound stack) {state : StateIndex}
    (enters : language.Enters stack.top state) :
    language.IsNested (bound + 1) (stack.push state) where
  bottom_eq := nested.bottom_eq
  isChain := by
    -- The only new neighbours are the state that was innermost before and the one that is
    -- entered.
    rw [ActiveStates.toList_push, List.isChain_append]
    refine ⟨nested.isChain, .singleton state, ?_⟩
    intro outer isLast inner isFirst
    rw [ActiveStates.getLast?_toList] at isLast
    obtain rfl := Option.some.inj isLast
    obtain rfl := Option.some.inj isFirst
    exact enters
  depth_le := Nat.succ_le_succ nested.depth_le

theorem pop (nested : language.IsNested bound stack) {state : StateIndex}
    {rest : ActiveStates} (popped : stack.pop? = some (state, rest)) :
    language.IsNested bound rest where
  bottom_eq := by
    rw [ActiveStates.bottom_eq_of_pop? popped, nested.bottom_eq]
  isChain := by
    have isChain := nested.isChain
    rw [ActiveStates.toList_eq_append_of_pop? popped] at isChain
    exact isChain.left_of_append
  depth_le := by
    have depth_le := nested.depth_le
    rw [← ActiveStates.length_toList, ActiveStates.toList_eq_append_of_pop? popped,
      List.length_append, ActiveStates.length_toList] at depth_le
    exact Nat.le_of_add_right_le depth_le

theorem popAll (nested : language.IsNested bound stack) :
    language.IsNested bound stack.popAll where
  bottom_eq := nested.bottom_eq
  isChain := nested.isChain.take 1
  depth_le := Nat.le_add_left 1 bound

/-- A change by a rule of the innermost state keeps the states nested and enters at most
one more. -/
theorem apply (nested : language.IsNested bound stack) {change : Option StackChange}
    (enters : ∀ state, change = some (.push state) → language.Enters stack.top state) :
    language.IsNested (bound + 1) (StackChange.apply change stack).1 := by
  have bound_le : bound ≤ bound + 1 := Nat.le_succ bound
  match change with
  | none => exact nested.mono bound_le
  | some (.push state) => exact nested.push (enters state rfl)
  | some .pop =>
      rw [StackChange.apply]
      split
      · rename_i state rest popped
        exact (nested.pop popped).mono bound_le
      · exact nested.mono bound_le
  | some .popAll => exact nested.popAll.mono bound_le

variable {scanner : Scanner}

theorem step (nested : language.IsNested bound scanner.stack) {step : Step}
    (isStep : scanner.step? language = some step) :
    language.IsNested (bound + 1) step.next.stack := by
  obtain ⟨change, stack_eq, isRuleChange⟩ := Scanner.exists_change_of_step isStep
  rw [stack_eq]
  exact nested.apply isRuleChange

/-- While a scan is asked for tokens, each token enters at most one more state. -/
theorem afterCalls (nested : language.IsNested bound scanner.stack) (count : Nat) :
    language.IsNested (bound + ((scanner.steps language).take count).length)
      (scanner.afterCalls language count).stack := by
  induction count generalizing bound scanner with
  | zero => exact nested
  | succ count ih =>
      rw [Scanner.afterCalls]
      cases isStep : scanner.step? language with
      | none =>
          -- All tokens have been given, and the calls that are left do nothing.
          rw [Scanner.next_of_step?_eq_none isStep]
          have later := ih nested
          rw [Scanner.steps_of_step?_eq_none isStep, List.take_nil] at later ⊢
          exact later
      | some step =>
          rw [Scanner.next_of_step?_eq_some isStep, Scanner.steps_of_step?_eq_some isStep,
            List.take_succ_cons, List.length_cons, Nat.add_comm _ 1, ← Nat.add_assoc]
          exact ih (nested.step isStep)

/-- At the end of a line the states are nested as after its last token. -/
theorem lexLine (nested : language.IsNested bound stack) (line : String) :
    language.IsNested (bound + (language.lexLine stack line).tokens.length)
      (language.lexLine stack line).endStack := by
  have atEnd := @afterCalls language bound (.start line stack) nested
    ((Scanner.start line stack).steps language).length
  rw [Scanner.stack_afterCalls_length, List.take_length] at atEnd
  rw [tokens_lexLine, List.length_map]
  exact atEnd

theorem lexLines (nested : language.IsNested bound stack) (lines : List String) :
    language.IsNested
      (bound + ((language.lexLines stack lines).flatMap LexedLine.tokens).length)
      (stackAfterLines stack (language.lexLines stack lines)) := by
  induction lines generalizing bound stack with
  | nil => exact nested
  | cons line lines ih =>
      rw [lexLines_cons, stackAfterLines_cons, List.flatMap_cons, List.length_append,
        ← Nat.add_assoc]
      exact ih (nested.lexLine line)

theorem exists_of_mem_lexLines (nested : language.IsNested bound stack)
    {lines : List String} {lexed : LexedLine}
    (member : lexed ∈ language.lexLines stack lines) :
    ∃ larger, language.IsNested larger lexed.endStack := by
  induction lines generalizing bound stack with
  | nil => cases member
  | cons line lines ih =>
      rw [lexLines_cons] at member
      rcases List.mem_cons.mp member with rfl | later
      · exact ⟨_, nested.lexLine line⟩
      · exact ih (nested.lexLine line) later

/-- The states are nested at the start of every line. -/
theorem exists_of_mem_runLines (nested : language.IsNested bound stack)
    {lines : List String} {run : LineRun} (member : run ∈ language.runLines stack lines) :
    run.line ∈ lines ∧ run = language.runLine run.startStack run.line ∧
      ∃ larger, language.IsNested larger run.startStack := by
  induction lines generalizing bound stack with
  | nil => cases member
  | cons line lines ih =>
      rcases List.mem_cons.mp member with rfl | later
      · exact ⟨List.mem_cons_self, rfl, bound, nested⟩
      · obtain ⟨isLine, isRun, isNested⟩ := ih (nested.lexLine line) later
        exact ⟨List.mem_cons_of_mem _ isLine, isRun, isNested⟩

/-- Where the states that are entered from the start state enter no others, at most one of
them is active. -/
theorem toList_eq (nested : language.IsNested bound stack)
    (shallow : ∀ outer inner, language.Enters language.start outer →
      ¬ language.Enters outer inner) :
    stack.toList = [language.start] ∨
      ∃ state, language.Enters language.start state ∧
      stack.toList = [language.start, state] := by
  have isChain := nested.isChain
  rw [ActiveStates.toList, nested.bottom_eq] at isChain ⊢
  cases above : stack.above.reverse with
  | nil => exact Or.inl rfl
  | cons outer others =>
      rw [above, List.isChain_cons_cons] at isChain
      obtain ⟨entered, isChain⟩ := isChain
      cases others with
      | nil => exact Or.inr ⟨outer, entered, rfl⟩
      | cons inner others =>
          exact absurd (List.isChain_cons_cons.mp isChain).1 (shallow outer inner entered)

end IsNested

/-- The states that the rules of a state enter. -/
def entered (language : Language) (state : StateIndex) : List StateIndex :=
  (language.rules state).filterMap fun rule =>
    match rule.change with
    | some (.push inner) => some inner
    | _ => none

theorem mem_entered_iff {outer inner : StateIndex} :
    inner ∈ language.entered outer ↔ language.Enters outer inner := by
  rw [entered, List.mem_filterMap, Enters]
  refine exists_congr fun rule => and_congr_right fun _ => ?_
  split
  · rename_i isChange
    simp [isChange]
  · rename_i notPush
    simpa using notPush inner

end Language

namespace PowerQuery

/-- Comments and strings are entered from the start state, and nothing is entered from
them. -/
theorem entered_eq :
    language.entered language.start = [3, 5] ∧ language.entered 3 = [] ∧
    language.entered 5 = [] ∧
      language.stateName language.start = "root" ∧ language.stateName 3 = "comment" ∧
        language.stateName 5 = "string" := by
  decide +kernel

theorem toList_of_isNested {bound : Nat} {stack : ActiveStates}
    (nested : language.IsNested bound stack) :
    stack.toList = [language.start] ∨ ∃ state, (state = 3 ∨ state = 5) ∧
    stack.toList = [language.start, state] := by
  obtain ⟨fromStart, fromComment, fromString, -⟩ := entered_eq
  have enters_start {state : StateIndex} (enters : language.Enters language.start state) :
      state = 3 ∨ state = 5 := by
    rw [← Language.mem_entered_iff, fromStart] at enters
    simpa using enters
  have shallow (outer inner : StateIndex)
      (enters : language.Enters language.start outer) :
      ¬ language.Enters outer inner := by
    rw [← Language.mem_entered_iff]
    rcases enters_start enters with rfl | rfl
    · rw [fromComment]
      exact List.not_mem_nil
    · rw [fromString]
      exact List.not_mem_nil
  exact (nested.toList_eq shallow).imp_right fun ⟨state, enters, isStack⟩ =>
    ⟨state, enters_start enters, isStack⟩

theorem stackNames_mem_of_isNested {bound : Nat} {stack : ActiveStates}
    (nested : language.IsNested bound stack) :
    language.stackNames stack ∈ [["root"], ["root", "comment"], ["root", "string"]] := by
  obtain ⟨-, -, -, startName, commentName, stringName⟩ := entered_eq
  rw [Language.stackNames]
  rcases toList_of_isNested nested with bare | ⟨state, rfl | rfl, isStack⟩
  · simp [bare, startName]
  · simp [isStack, startName, commentName]
  · simp [isStack, startName, stringName]

end PowerQuery

/-- At every moment of a scan in a compiled language, be it between two lines or between
two tokens, the start state lies at the bottom of the stack, each active state has been
entered by a rule of the state below it, and no more states have been entered than tokens
have been given.  In Power Query a line thus ends outside comments and strings, in a
comment or in a string, and these are never inside each other. -/
theorem nested_of_compile {grammar : Grammar} {reader : PatternReader}
    {language : Language} (compiled : grammar.compile reader = .ok language) :
    (∀ (lines : List String) (line : String) (count : Nat),
      let lexed := language.lexLines language.initialStack lines
      let startStack := stackAfterLines language.initialStack lexed
      let stack := ((Scanner.start line startStack).afterCalls language count).stack
      let tokens := lexed.flatMap LexedLine.tokens ++
        (language.lexLine startStack line).tokens.take count
      stack.toList.head? = some language.start ∧
        stack.toList.IsChain (fun outer inner =>
          ∃ rule ∈ language.rules outer, rule.change = some (.push inner) ∧
            ∃ name, rule.action.transition = some (.push name) ∧
              language.stateIndex? name = some inner) ∧
          stack.toList.length ≤ tokens.length + 1) ∧
      ∀ text, ∀ lexed ∈ PowerQuery.language.lexDocument text,
        PowerQuery.language.stackNames lexed.endStack ∈
          [["root"], ["root", "comment"], ["root", "string"]] := by
  have numbers := (Grammar.isCompiled_of_compile compiled).numbersStates
  refine ⟨?_, ?_⟩
  · intro lines line count lexed startStack stack tokens
    have nested : language.IsNested tokens.length stack := by
      have atStart : language.IsNested
          (lexed.flatMap LexedLine.tokens).length startStack := by
        rw [← Nat.zero_add (lexed.flatMap LexedLine.tokens).length]
        exact language.isNested_initialStack.lexLines lines
      have later := @Language.IsNested.afterCalls language _
        (.start line startStack) atStart count
      rwa [← List.length_map Step.token, List.map_take, ← List.length_append] at later
    refine ⟨congrArg some nested.bottom_eq, ?_, ?_⟩
    · refine nested.isChain.imp fun outer inner enters => ?_
      obtain ⟨rule, isRule, isPush⟩ := enters
      obtain ⟨name, isNamed, isState⟩ := numbers.entered outer rule isRule inner isPush
      exact ⟨rule, isRule, isPush, name, isNamed,
        (numbers.stateIndex?_iff name inner).mpr isState⟩
    · rw [ActiveStates.length_toList]
      exact nested.depth_le
  · intro text lexed member
    obtain ⟨bound, nested⟩ :=
      PowerQuery.language.isNested_initialStack.exists_of_mem_lexLines member
    exact PowerQuery.stackNames_mem_of_isNested nested

/-- A comment that a line leaves open has been entered by a rule of the start state. -/
theorem powerQuery_nested_openComment :
    let language := PowerQuery.language
    let lexed := language.lexLines language.initialStack ["a /* b"]
    PowerQuery.grammar.compile = .ok language ∧
      (stackAfterLines language.initialStack lexed).toList = [0, 3] ∧
        ∃ rule ∈ language.rules 0, rule.change = some (.push 3) ∧
          ∃ name, rule.action.transition = some (.push name) ∧
          language.stateIndex? name = some 3 := by
  intro language lexed
  have isStack : (stackAfterLines language.initialStack lexed).toList = [0, 3] := by
    decide +kernel
  obtain ⟨-, isChain, -⟩ :=
    (nested_of_compile PowerQuery.compile_grammar).1 ["a /* b"] "" 0
  have entered := List.isChain_cons_cons.mp (isStack ▸ isChain)
  exact ⟨PowerQuery.compile_grammar, isStack, entered.1⟩

end LineLexer
