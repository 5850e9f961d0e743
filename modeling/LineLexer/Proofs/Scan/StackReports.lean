import LineLexer.Language.Compile
import LineLexer.Proofs.Scan.Resumption
import LineLexer.Proofs.Scan.Tracing
import LineLexer.Proofs.Success

/-!
# Reports of the stack

A tracer is told of the stack when a step enters or leaves states.  It is told so after
every change of the stack, and otherwise only by a rule that leaves all states where no
state has been entered: leaving one state is not reported there, and leaving all of them
is.
-/

namespace LineLexer

/-- The stack that an event reports as changed. -/
def Event.reportedStack? : Event → Option ActiveStates
  | pushed stack => some stack
  | popped stack => some stack
  | _ => none

/-- Whether the rule of a step leaves all states of a stack that has only the one at the
bottom. -/
def Language.leavesNone (language : Language) (before : ActiveStates)
    (step : Step) : Bool :=
  before.above.isEmpty &&
    (step.rule.bind fun number => (language.rules before.top)[number]?).any
    (·.change == some .popAll)

/-- The stacks that are to be reported in a row of steps, of which the first starts with
the stack `before`. -/
def Language.stackReports (language : Language) :
    (before : ActiveStates) → List Step → List ActiveStates
  | _, [] => []
  | before, step :: steps =>
      if step.next.stack ≠ before ∨ language.leavesNone before step then
        step.next.stack :: language.stackReports step.next.stack steps
      else language.stackReports step.next.stack steps

variable {language : Language}

/-- A change of the stack is to be reported exactly if the stack is another one after it,
or if it leaves all states where there are none to leave. -/
theorem StackChange.isSome_event_apply (change : Option StackChange)
    (stack : ActiveStates) :
    (StackChange.apply change stack).2.isSome ↔
      (StackChange.apply change stack).1 ≠ stack ∨ stack.above = [] ∧
      change = some .popAll := by
  obtain ⟨bottom, above⟩ := stack
  match change with
  | none => simp [apply]
  | some (.push state) => simp [apply, ActiveStates.push]
  | some .pop => cases above <;> simp [apply, ActiveStates.pop?]
  | some .popAll => cases above <;> simp [apply, ActiveStates.popAll]

namespace Scanner

variable {scanner : Scanner} {step : Step}

theorem isSome_stackEvent_iff (isStep : scanner.step? language = some step) :
    step.stackEvent.isSome ↔ step.next.stack ≠ scanner.stack ∨
      language.leavesNone scanner.stack step := by
  obtain ⟨-, matched | unmatched⟩ := step_cases isStep
  · obtain ⟨skipped, number, rule, count, tried, rfl⟩ := matched
    obtain ⟨-, isRule, -⟩ := tryRules_winner (congrArg Trial.winner tried)
    have leaves_iff : language.leavesNone scanner.stack
        (scanner.takeMatch language skipped number rule count) ↔
        scanner.stack.above = [] ∧ rule.change = some .popAll := by
      have isWinner : (language.rules scanner.stack.top)[number]? = some rule := isRule
      simp [Language.leavesNone, takeMatch, isWinner]
    rw [leaves_iff]
    exact StackChange.isSome_event_apply rule.change scanner.stack
  · obtain ⟨skipped, -, rfl⟩ := unmatched
    simp [takeUnmatched, advance, Language.leavesNone]

end Scanner

theorem Step.filterMap_events (step : Step) :
    step.events.filterMap Event.reportedStack? =
      if step.stackEvent.isSome then [step.next.stack] else [] := by
  have noReport : (step.skipped.map (Event.emptyMatch step.state)).filterMap
      Event.reportedStack? = [] := by
    simp [List.filterMap_map, Event.reportedStack?]
  rw [events, List.filterMap_append, List.filterMap_append, noReport]
  cases step.rule <;> cases step.stackEvent with
  | none => rfl
  | some event => cases event <;> rfl

namespace Scanner

variable {scanner : Scanner} {step : Step}

/-- A step reports its stack once, or not at all. -/
theorem reportedStacks_of_step (isStep : scanner.step? language = some step) :
    step.events.filterMap Event.reportedStack? =
      if step.next.stack ≠ scanner.stack ∨ language.leavesNone scanner.stack step then
        [step.next.stack]
      else [] := by
  simp only [Step.filterMap_events, isSome_stackEvent_iff isStep]

theorem reportedStacks_of_steps (language : Language) (scanner : Scanner) :
    ((scanner.steps language).flatMap Step.events).filterMap Event.reportedStack? =
      language.stackReports scanner.stack (scanner.steps language) := by
  induction scanner using induction_on_steps language with
  | atEnd scanner noStep =>
      rw [steps_of_step?_eq_none noStep]
      rfl
  | atStep scanner step isStep ih =>
      rw [steps_of_step?_eq_some isStep, List.flatMap_cons, List.filterMap_append,
        reportedStacks_of_step isStep, ih, Language.stackReports]
      split <;> rfl

end Scanner

namespace Language

theorem reportedStacks_runLine (language : Language) (stack : ActiveStates)
    (line : String) :
    (language.runLine stack line).events.filterMap Event.reportedStack? =
      language.stackReports stack (language.runLine stack line).steps := by
  have atEnds (events : List Event) (first last : ActiveStates) :
      (Event.lineStart line first :: events ++ [Event.lineEnd last]).filterMap
        Event.reportedStack? = events.filterMap Event.reportedStack? := by
    rw [List.filterMap_append, List.filterMap_cons_none rfl]
    exact List.append_nil _
  rw [LineRun.events]
  exact (atEnds _ _ _).trans
    (Scanner.reportedStacks_of_steps language (.start line stack))

theorem reportedStacks_runLines (language : Language) (stack : ActiveStates)
    (lines : List String) :
    ((language.runLines stack lines).flatMap LineRun.events).filterMap
      Event.reportedStack? =
      (language.runLines stack lines).flatMap fun run =>
        language.stackReports run.startStack run.steps := by
  induction lines generalizing stack with
  | nil => rfl
  | cons line lines ih =>
      rw [runLines, List.flatMap_cons, List.flatMap_cons, List.filterMap_append,
        reportedStacks_runLine, ih]
      rfl

/-- When a scan is asked for a token, a tracer is told of a stack exactly if the token has
changed the stack, or if its rule leaves all states where there are none to leave; what it
is told of then is the new stack, and it is told once.  Over a document it is told of the
stacks after these tokens and of no others. -/
theorem reportedStacks_of_next (language : Language) :
    (∀ (scanner : TracedScanner (Array Event)) (step : Step),
      scanner.place.step? language = some step →
      ∃ events after, scanner.next .recorder language = (some step.token, after) ∧
        after.place = step.next ∧ after.trace.toList = scanner.trace.toList ++ events ∧
          events.filterMap Event.reportedStack? =
            if step.next.stack ≠ scanner.place.stack ∨
              language.leavesNone scanner.place.stack step then
              [step.next.stack]
            else []) ∧
      ∀ text, (language.documentEvents text).filterMap Event.reportedStack? =
        (language.runDocument text).flatMap fun run =>
          language.stackReports run.startStack run.steps := by
  refine ⟨fun scanner step isStep => ?_, fun text => ?_⟩
  · exact ⟨step.events, _, TracedScanner.next_of_step?_eq_some isStep, rfl,
      Tracer.hearAll_recorder step.events scanner.trace,
      Scanner.reportedStacks_of_step isStep⟩
  · rw [documentEvents_eq]
    exact reportedStacks_runLines language language.initialStack (Text.documentLines text)

end Language

def returning : Grammar :=
  let base : Grammar := { name := "x" }
  base
    |>.addState "root" [.rule "a" ((Action.ofClass "").push "inner"),
      .rule "b" (Action.ofClass "").popAll]
    |>.addState "inner" [.rule "b" (Action.ofClass "").popAll]

/-- Leaving all states in the start state is reported, although the stack stays the
same. -/
theorem returning_reportsSame :
    returning.compile.toOption.map (fun language =>
        ((language.runDocument "b").map fun run => (run.startStack, run.endStack),
          (language.documentEvents "b").filterMap Event.reportedStack?)) =
      some ([(.single 0, .single 0)], [.single 0]) := by
  decide +kernel

/-- Entering a state, leaving it and leaving none are reported, each with the stack after
it; the character that no rule matches is not. -/
theorem returning_reports :
    ∃ language, returning.compile = .ok language ∧
      (language.documentEvents "acbb").filterMap Event.reportedStack? =
        (language.runDocument "acbb").flatMap
          (fun run => language.stackReports run.startStack run.steps) ∧
      (language.documentEvents "acbb").filterMap Event.reportedStack? =
        [⟨0, [1]⟩, .single 0, .single 0] := by
  have evaluated : returning.compile.toOption.map (fun language =>
      (language.documentEvents "acbb").filterMap Event.reportedStack?) =
        some [⟨0, [1]⟩, .single 0, .single 0] := by
    decide +kernel
  obtain ⟨language, isLanguage, areReports⟩ := Option.map_eq_some_iff.mp evaluated
  exact ⟨language, toOption_eq_some_iff.mp isLanguage,
    (language.reportedStacks_of_next).2 "acbb", areReports⟩

end LineLexer
