import LineLexer.Proofs.Scan.Tracing

/-!
# Languages without empty matches

A rule that matches the empty text is passed over and told to the tracer.  In a language
whose rules have to consume something this never happens, so that the log that would tell
of it is the one that leaves it out.
-/

namespace LineLexer

/-- No rule of any state matches the empty text, whatever stands behind it. -/
def Language.AlwaysConsumes (language : Language) : Prop :=
  ∀ state, ∀ rule ∈ language.rules state, ∀ rest, rule.pattern.matchLength? rest ≠ some 0

/-- The event of a rule that was passed over. -/
def Event.isEmptyMatch : Event → Bool
  | .emptyMatch _ _ => true
  | _ => false

section Events

variable {language : Language} (consumes : language.AlwaysConsumes)

include consumes

theorem skipped_tryRules_eq_nil (state : StateIndex) (rest : List Char) (index : Nat) :
    (tryRules rest index (language.rules state)).skipped = [] := by
  refine List.eq_nil_iff_forall_not_mem.mpr fun number passed => ?_
  obtain ⟨-, rule, isRule, matched⟩ := tryRules_skipped passed
  exact consumes state rule (List.mem_of_getElem? isRule) rest matched

/-- No step passes over a rule. -/
theorem skipped_step_eq_nil {scanner : Scanner} {step : Step}
    (isStep : scanner.step? language = some step) : step.skipped = [] := by
  have noneSkipped := skipped_tryRules_eq_nil consumes scanner.stack.top scanner.rest 0
  obtain ⟨-, ⟨skipped, number, rule, count, tried, rfl⟩ | ⟨skipped, tried, rfl⟩⟩ :=
    Scanner.step_cases isStep
  · rw [tried] at noneSkipped
    exact noneSkipped
  · rw [tried] at noneSkipped
    exact noneSkipped

theorem isEmptyMatch_of_mem_stepEvents {scanner : Scanner} {step : Step} {event : Event}
    (isStep : scanner.step? language = some step) (member : event ∈ step.events) :
    event.isEmptyMatch = false := by
  rw [Step.events, skipped_step_eq_nil consumes isStep, List.map_nil, List.nil_append,
    List.mem_append, List.mem_singleton] at member
  rcases member with rfl | isChange
  · split <;> rfl
  · split at isChange
    · obtain rfl := List.mem_singleton.mp isChange
      rfl
    · obtain rfl := List.mem_singleton.mp isChange
      rfl
    · cases isChange

/-- The steps of a line tell of no empty match. -/
theorem isEmptyMatch_of_mem_steps (scanner : Scanner) {event : Event}
    (member : event ∈ (scanner.steps language).flatMap Step.events) :
    event.isEmptyMatch = false := by
  induction scanner using Scanner.induction_on_steps language with
  | atEnd scanner noStep =>
      rw [Scanner.steps_of_step?_eq_none noStep] at member
      cases member
  | atStep scanner step isStep ih =>
      rw [Scanner.steps_of_step?_eq_some isStep, List.flatMap_cons,
        List.mem_append] at member
      exact member.elim (isEmptyMatch_of_mem_stepEvents consumes isStep) ih

theorem isEmptyMatch_of_mem_runLine {stack : ActiveStates} {line : String} {event : Event}
    (member : event ∈ (language.runLine stack line).events) :
    event.isEmptyMatch = false := by
  rw [LineRun.events, List.mem_append, List.mem_cons, List.mem_singleton] at member
  rcases member with (rfl | isInside) | rfl
  · rfl
  · exact isEmptyMatch_of_mem_steps consumes (.start line stack) isInside
  · rfl

theorem isEmptyMatch_of_mem_runLines {stack : ActiveStates} {lines : List String}
    {event : Event}
    (member : event ∈ (language.runLines stack lines).flatMap LineRun.events) :
    event.isEmptyMatch = false := by
  induction lines generalizing stack with
  | nil => cases member
  | cons line lines ih =>
      rw [Language.runLines, List.flatMap_cons, List.mem_append] at member
      exact member.elim (isEmptyMatch_of_mem_runLine consumes) ih

/-- A tracer hears of no empty match in any document. -/
theorem isEmptyMatch_of_mem_documentEvents {text : String} {event : Event}
    (member : event ∈ language.documentEvents text) : event.isEmptyMatch = false := by
  rw [Language.documentEvents_eq] at member
  exact isEmptyMatch_of_mem_runLines consumes member

end Events

/-! ### Logs -/

namespace TraceLog

variable {language : Language} {log : TraceLog} {event : Event} {events : List Event}

/-- The log, to be continued with another verbosity. -/
def withVerbosity (log : TraceLog) (verbosity : Verbosity) : TraceLog :=
  { log with verbosity := verbosity }

@[simp]
theorem withVerbosity_withVerbosity (first second : Verbosity) :
    (log.withVerbosity first).withVerbosity second = log.withVerbosity second :=
  rfl

theorem verbosity_hear : (hear language event log).verbosity = log.verbosity := by
  cases event with
  | emptyMatch state rule =>
      obtain ⟨verbosity, _⟩ := log
      cases verbosity <;> rfl
  | _ => rfl

/-- The two verbose logs tell the same about every event but empty matches. -/
theorem hear_withVerbosity_verbose (isVeryVerbose : log.verbosity = .veryVerbose)
    (noEmptyMatch : event.isEmptyMatch = false) :
    hear language event (log.withVerbosity .verbose) =
      (hear language event log).withVerbosity .verbose := by
  obtain ⟨_, palette, lineCount, line, lines⟩ := log
  obtain rfl : _ = Verbosity.veryVerbose := isVeryVerbose
  cases event with
  | emptyMatch state rule => cases noEmptyMatch
  | _ => rfl

theorem hearAll_withVerbosity_verbose (isVeryVerbose : log.verbosity = .veryVerbose)
    (noEmptyMatch : ∀ event ∈ events, event.isEmptyMatch = false) :
    tracer.hearAll language events (log.withVerbosity .verbose) =
      (tracer.hearAll language events log).withVerbosity .verbose := by
  induction events generalizing log with
  | nil => rfl
  | cons event events ih =>
      obtain ⟨first, others⟩ := List.forall_mem_cons.mp noEmptyMatch
      calc
        tracer.hearAll language (event :: events) (log.withVerbosity .verbose) =
            tracer.hearAll language events
              ((hear language event log).withVerbosity .verbose) :=
          congrArg (tracer.hearAll language events)
            (hear_withVerbosity_verbose isVeryVerbose first)
        _ = (tracer.hearAll language events (hear language event log)).withVerbosity
          .verbose :=
          ih (verbosity_hear.trans isVeryVerbose) others

/-- Where no rule matches the empty text, the two verbose logs of a document that go on
from one log are the same. -/
theorem output_veryVerbose_eq (consumes : language.AlwaysConsumes) (text : String)
    (log : TraceLog) :
    (language.lexDocumentTraced tracer text (log.withVerbosity .veryVerbose)).2.output =
      (language.lexDocumentTraced tracer text (log.withVerbosity .verbose)).2.output := by
  have noEmptyMatch : ∀ event ∈ (language.runDocument text).flatMap LineRun.events,
      event.isEmptyMatch = false :=
    fun event member => isEmptyMatch_of_mem_runLines consumes member
  have logs_eq := @hearAll_withVerbosity_verbose language
    (log.withVerbosity .veryVerbose) _ rfl noEmptyMatch
  rw [withVerbosity_withVerbosity] at logs_eq
  rw [Language.lexDocumentTraced_eq, Language.lexDocumentTraced_eq, logs_eq]
  rfl

end TraceLog

end LineLexer
