import LineLexer.Proofs.PowerQuery.Patterns
import LineLexer.Proofs.Scan.EmptyMatches

/-!
# No empty matches in Power Query

Some patterns of Power Query consist of optional parts and loops for the most part, but
each has a part that has to consume something.  So no rule ever matches the empty text,
and a log that would tell of it tells nothing more.
-/

namespace LineLexer.PowerQuery

open Pattern

/-- Whether an entry is no rule with a pattern that might consume nothing. -/
def consumes : Entry → Bool
  | .rule written _ => (parse grammar.ignoreCase written).toOption.all fun pattern =>
      pattern.isDirect && !pattern.canBeEmpty
  | .include _ => true

theorem entries_consume : ∀ state ∈ grammar.states.toList, ∀ entry ∈ state.2,
    consumes entry := by
  decide +kernel

theorem alwaysConsumes_language : language.AlwaysConsumes := by
  intro state rule isRule rest
  obtain ⟨placed, ⟨-, entries, isEntries, isEntry⟩, compiles⟩ :=
    isCompiled.exists_placedRule isRule
  obtain ⟨pattern, isParsed, matcher_eq⟩ := read_eq_ok_iff.mp compiles.pattern
  have isState := OrderedMap.get?_eq_some_iff_mem_toList.mp isEntries
  have consumesEntry := entries_consume _ isState _ isEntry
  rw [consumes, isParsed, Except.toOption, Option.all_some, Bool.and_eq_true,
    Bool.not_eq_true'] at consumesEntry
  rw [← matcher_eq]
  exact matchLength?_ne_some_zero consumesEntry.1 consumesEntry.2

/-- No rule of any state matches the empty text, whatever text it is tried on.  So no step
from any stack passes over a rule, a tracer hears of no empty match in any document, and
the log that would tell of empty matches is the one that leaves them out. -/
theorem no_empty_matches (text : String) :
    language.AlwaysConsumes ∧
      (∀ (scanner : Scanner) step, scanner.step? language = some step →
        step.skipped = []) ∧
      (∀ state number, Event.emptyMatch state number ∉ language.documentEvents text) ∧
      ∀ log : TraceLog,
        (language.lexDocumentTraced TraceLog.tracer text
          (log.withVerbosity .veryVerbose)).2.output =
          (language.lexDocumentTraced TraceLog.tracer text
            (log.withVerbosity .verbose)).2.output := by
  have consumes := alwaysConsumes_language
  refine ⟨consumes, fun scanner step => skipped_step_eq_nil consumes,
    fun state number member => ?_, ?_⟩
  · cases isEmptyMatch_of_mem_documentEvents consumes member
  · exact TraceLog.output_veryVerbose_eq consumes text

/-- A dot that no rule takes is told as such, and no rule is passed over at it. -/
theorem no_empty_matches_dot :
    (∃ step, (Scanner.start "." language.initialStack).step? language = some step ∧
      step.rule = none ∧
        step.skipped = []) ∧
      (language.lexDocumentTraced TraceLog.tracer "."
        { verbosity := .veryVerbose }).2.output =
        (language.lexDocumentTraced TraceLog.tracer "."
          { verbosity := .verbose }).2.output := by
  obtain ⟨-, passesOver, -, outputs_eq⟩ := no_empty_matches "."
  have evaluated : ((Scanner.start "." language.initialStack).step? language).map
      Step.rule = some none := by
    decide +kernel
  obtain ⟨step, isStep, noRule⟩ := Option.map_eq_some_iff.mp evaluated
  exact ⟨⟨step, isStep, noRule, passesOver _ step isStep⟩, outputs_eq {}⟩

end LineLexer.PowerQuery
