import LineLexer.Proofs.Scan.Lines
import LineLexer.Report.TraceLog

/-!
# Traced scans are scans

A traced scan gives the tokens and stacks that a scan gives, whatever the tracer does, and
leaves the tracer in the state that it has after hearing the events of the runs.  That
draining a scan and finishing it then tells of the end of the line only once is due to the
flag of the scan, so the drained scan is described with its flag.
-/

namespace LineLexer

variable {σ : Type} {tracer : Tracer σ} {language : Language}

namespace TracedScanner

variable {scanner after : TracedScanner σ}

theorem drain_of_next_eq_none (isNext : scanner.next tracer language = (none, after)) :
    scanner.drain tracer language = ([], after) := by
  rw [drain]
  split
  · rename_i other isOther
    rw [isNext] at isOther
    obtain ⟨-, rfl⟩ := Prod.mk.inj isOther
    rfl
  · rename_i token other isOther
    rw [isNext] at isOther
    cases isOther

theorem drain_of_next_eq_some {token : Token}
    (isNext : scanner.next tracer language = (some token, after)) :
    scanner.drain tracer language =
      (token :: (after.drain tracer language).1, (after.drain tracer language).2) := by
  rw [drain]
  split
  · rename_i other isOther
    rw [isNext] at isOther
    cases isOther
  · rename_i first other isOther
    rw [isNext] at isOther
    obtain ⟨isToken, rfl⟩ := Prod.mk.inj isOther
    obtain rfl := Option.some.inj isToken
    rfl

/-- Draining a scan gives all its tokens.  The scan then stands at the end of the line,
has told of all its steps and of this end, and does not tell of the end again. -/
theorem exists_drain_eq (tracer : Tracer σ) (language : Language) (place : Scanner)
    (trace : σ) :
    ∃ last : Scanner, last.step? language = none ∧ last.stack = place.finish language ∧
      drain tracer language ⟨place, false, trace⟩ =
        ((place.steps language).map Step.token,
          ⟨last, true,
            tracer.hearAll language
              ((place.steps language).flatMap Step.events ++ [.lineEnd last.stack])
                trace⟩) := by
  induction place using Scanner.induction_on_steps language generalizing trace with
  | atEnd place noStep =>
      -- The flag is not set yet, so that this is where the end of the line is told.
      refine ⟨place, noStep, (Scanner.finish_of_step?_eq_none noStep).symm, ?_⟩
      rw [drain_of_next_eq_none (next_of_step?_eq_none noStep),
        Scanner.steps_of_step?_eq_none noStep]
      rfl
  | atStep place step isStep ih =>
      obtain ⟨last, noStep, stack_eq, drained⟩ :=
        ih (tracer.hearAll language step.events trace)
      refine ⟨last, noStep, ?_, ?_⟩
      · rw [stack_eq, Scanner.finish_of_step?_eq_some isStep]
      · rw [drain_of_next_eq_some (next_of_step?_eq_some isStep),
          Scanner.steps_of_step?_eq_some isStep, List.map_cons, List.flatMap_cons,
          List.append_assoc, Tracer.hearAll_append]
        simp only [drained]

/-- Finishing a scan that has told of the end of the line tells nothing any more. -/
theorem finish_of_isDone {last : Scanner} {trace : σ}
    (noStep : last.step? language = none) :
    finish tracer language ⟨last, true, trace⟩ = (last.stack, trace) := by
  have isNext : next tracer language ⟨last, true, trace⟩ = (none, ⟨last, true, trace⟩) :=
    next_of_step?_eq_none noStep
  rw [finish, drain_of_next_eq_none isNext]

end TracedScanner

namespace Tracer

theorem hearAll_recorder (events : List Event) (heard : Array Event) :
    (recorder.hearAll language events heard).toList = heard.toList ++ events := by
  induction events generalizing heard with
  | nil => exact (List.append_nil _).symm
  | cons event events ih =>
      calc
        (recorder.hearAll language (event :: events) heard).toList =
            (heard.push event).toList ++ events := ih (heard.push event)
        _ = heard.toList ++ event :: events := by simp

end Tracer

namespace Language

variable {stack : ActiveStates} {trace : σ}

theorem lexLineTraced_eq {line : String} :
    language.lexLineTraced tracer stack line trace =
      (language.lexLine stack line,
        tracer.hearAll language (language.runLine stack line).events trace) := by
  obtain ⟨last, noStep, stack_eq, drained⟩ :=
    TracedScanner.exists_drain_eq tracer language (.start line stack)
      (tracer.hear language (.lineStart line stack) trace)
  rw [lexLineTraced, TracedScanner.start]
  simp only [drained, TracedScanner.finish_of_isDone noStep]
  rw [stack_eq]
  rfl

theorem lexLinesTraced_eq {lines : List String} :
    language.lexLinesTraced tracer stack lines trace =
      (language.lexLines stack lines,
        tracer.hearAll language ((language.runLines stack lines).flatMap LineRun.events)
          trace) := by
  induction lines generalizing stack trace with
  | nil => rfl
  | cons line lines ih =>
      rw [lexLinesTraced]
      simp only [lexLineTraced_eq, ih]
      rw [runLines, List.flatMap_cons, Tracer.hearAll_append]
      rfl

theorem lexDocumentTraced_eq {text : String} :
    language.lexDocumentTraced tracer text trace =
      (language.lexDocument text,
        tracer.hearAll language
          ((language.runDocument text).flatMap LineRun.events) trace) :=
  lexLinesTraced_eq

/-- The events of a document are those of the runs of its lines, one after the other. -/
theorem documentEvents_eq (text : String) :
    language.documentEvents text =
      (language.runDocument text).flatMap LineRun.events := by
  rw [documentEvents, lexDocumentTraced_eq]
  exact Tracer.hearAll_recorder _ #[]

end Language

/-- The log that is written while a document is scanned is the one that can be written
afterwards from its runs. -/
theorem TraceLog.lexDocumentTraced_eq_addRuns (text : String) (log : TraceLog) :
    (language.lexDocumentTraced TraceLog.tracer text log).2 =
      log.addRuns language (language.runDocument text) := by
  rw [Language.lexDocumentTraced_eq, Tracer.hearAll, List.foldl_flatMap]
  rfl

end LineLexer
