import LineLexer.Proofs.Scan.EmptyMatches
import LineLexer.Proofs.Scan.Resumption

/-!
# Trace logs of a session

A log goes on over any number of documents and lines.  It keeps the number and the text of
the line that is being scanned, and writes what it hears with their help.  What it has
written in the end can be said without them: each event is told as one that happened in a
certain line of the session, which has a certain number.  The logs of a session at the
three verbosities tell these same events, and differ only in what they leave out.
-/

namespace LineLexer

/-! ### Sessions -/

/-- What is scanned with a log: a document, or a line from a given stack. -/
inductive Traced where
  | document (text : String)
  | line (stack : ActiveStates) (text : String)

def Traced.runs (language : Language) : Traced → List LineRun
  | document text => language.runDocument text
  | line stack text => [language.runLine stack text]

/-- The log after a document or a line has been scanned with it. -/
def TraceLog.trace (language : Language) (log : TraceLog) : Traced → TraceLog
  | .document text => (language.lexDocumentTraced tracer text log).2
  | .line stack text => (language.lexLineTraced tracer stack text log).2

/-- The log after documents and lines have been scanned with it one after the other. -/
def TraceLog.traceAll (language : Language) (log : TraceLog)
    (session : List Traced) : TraceLog :=
  session.foldl (trace language) log

/-- An event with the line in which it happens and the number of this line in the
session. -/
structure NumberedEvent where
  number : Nat
  line : String
  event : Event

/-- The events of lines that are numbered from `first` on. -/
def numberedEvents : (first : Nat) → List LineRun → List NumberedEvent
  | _, [] => []
  | first, run :: runs =>
      run.events.map (⟨first, run.line, ·⟩) ++ numberedEvents (first + 1) runs

/-! ### Kinds of events -/

def Event.isLineStart : Event → Bool
  | .lineStart _ _ => true
  | _ => false

def Event.isToken : Event → Bool
  | .matched _ _ _ => true
  | .fallback _ _ => true
  | _ => false

def Step.tokenEvent (step : Step) : Event :=
  match step.rule with
  | some rule => .matched step.state rule step.token.classedSpan
  | none => .fallback step.state step.token.classedSpan

theorem Step.isToken_tokenEvent (step : Step) : step.tokenEvent.isToken = true := by
  rw [tokenEvent]
  split <;> rfl

theorem Step.isLineStart_tokenEvent (step : Step) :
    step.tokenEvent.isLineStart = false := by
  rw [tokenEvent]
  split <;> rfl

/-- The events of a step: one for its token, and others that are of no token. -/
theorem Step.exists_events_eq (step : Step) : ∃ changes : List Event,
    step.events = step.skipped.map (.emptyMatch step.state) ++
      step.tokenEvent :: changes ∧
      ∀ event ∈ changes, event.isLineStart = false ∧ event.isToken = false := by
  refine ⟨_, by rw [events, List.append_assoc]; rfl, fun event isChange => ?_⟩
  split at isChange
  · obtain rfl := List.mem_singleton.mp isChange
    exact ⟨rfl, rfl⟩
  · obtain rfl := List.mem_singleton.mp isChange
    exact ⟨rfl, rfl⟩
  · cases isChange

theorem Step.isLineStart_of_mem_events {step : Step} {event : Event}
    (member : event ∈ step.events) : event.isLineStart = false := by
  obtain ⟨changes, events_eq, areChanges⟩ := step.exists_events_eq
  rw [events_eq, List.mem_append, List.mem_cons, List.mem_map] at member
  rcases member with ⟨number, -, rfl⟩ | rfl | isChange
  · rfl
  · exact step.isLineStart_tokenEvent
  · exact (areChanges event isChange).1

theorem Step.filter_isToken_events (step : Step) :
    step.events.filter Event.isToken = [step.tokenEvent] := by
  obtain ⟨changes, events_eq, areChanges⟩ := step.exists_events_eq
  have noneSkipped :
      (step.skipped.map (Event.emptyMatch step.state)).filter Event.isToken = [] :=
    List.filter_eq_nil_iff.mpr fun event member => by
      obtain ⟨number, -, rfl⟩ := List.mem_map.mp member
      exact Bool.false_ne_true
  have noneChanges : changes.filter Event.isToken = [] :=
    List.filter_eq_nil_iff.mpr fun event member => by simp [areChanges event member]
  rw [events_eq, List.filter_append, List.filter_cons_of_pos step.isToken_tokenEvent,
    noneSkipped, noneChanges, List.nil_append]

namespace LineRun

variable (run : LineRun)

/-- Only the first event of a line is its start. -/
theorem filter_isLineStart_events :
    run.events.filter Event.isLineStart = [.lineStart run.line run.startStack] := by
  have noOther : (run.steps.flatMap Step.events).filter Event.isLineStart = [] :=
    List.filter_eq_nil_iff.mpr fun event member => by
      obtain ⟨step, -, isEvent⟩ := List.mem_flatMap.mp member
      simp [Step.isLineStart_of_mem_events isEvent]
  rw [events, List.filter_append, List.filter_cons_of_pos rfl, noOther]
  rfl

/-- The events of a line that are of tokens are those of its steps. -/
theorem filter_isToken_events :
    run.events.filter Event.isToken = run.steps.map Step.tokenEvent := by
  have ofSteps (steps : List Step) :
      (steps.flatMap Step.events).filter Event.isToken = steps.map Step.tokenEvent := by
    induction steps with
    | nil => rfl
    | cons step steps ih =>
        rw [List.flatMap_cons, List.filter_append, ih, Step.filter_isToken_events]
        rfl
  rw [events, List.filter_append, List.filter_cons_of_neg Bool.false_ne_true, ofSteps,
    List.filter_cons_of_neg Bool.false_ne_true, List.filter_nil, List.append_nil]

end LineRun

/-- The starts of lines among numbered events, in order and with consecutive numbers. -/
theorem filter_isLineStart_numberedEvents (first : Nat) (runs : List LineRun) :
    (numberedEvents first runs).filter (·.event.isLineStart) =
      runs.mapIdx fun index run =>
        ⟨first + index, run.line, .lineStart run.line run.startStack⟩ := by
  induction runs generalizing first with
  | nil => rfl
  | cons run runs ih =>
      have ofRun : (run.events.map (NumberedEvent.mk first run.line)).filter
          (·.event.isLineStart) =
          [⟨first, run.line, .lineStart run.line run.startStack⟩] := by
        rw [List.filter_map]
        exact congrArg _ run.filter_isLineStart_events
      rw [numberedEvents, List.filter_append, ofRun, ih, List.mapIdx_cons]
      simp only [List.singleton_append, Nat.add_zero, Nat.add_assoc, Nat.add_comm 1]

/-! ### What a log tells of an event -/

/-- The span, the text and the class of a token of the line. -/
def Token.logText (token : Token) (language : Language) (palette : Palette)
    (line : String) : String :=
  toString token.start ++ ".." ++ toString token.stop ++ " " ++
    palette.green ++ Text.quoted (token.text line) ++ palette.reset ++ " " ++
    palette.classLabel (language.className token.classIndex)

/-- What a log tells of the token of a step: the rule or the fallback that it comes from,
and the token. -/
def Step.logText (step : Step) (language : Language) (palette : Palette)
    (line : String) : String :=
  match step.rule with
  | some rule =>
      "  " ++ palette.dimmed (language.stateName step.state ++ "#" ++ toString rule) ++
        " " ++ step.token.logText language palette line
  | none =>
      "  " ++ palette.dimmed (language.stateName step.state) ++ " fallback " ++
        step.token.logText language palette line

namespace NumberedEvent

variable (told : NumberedEvent) (language : Language) (palette : Palette)

/-- The line of a log for an event, if a log of this verbosity tells it. -/
def line? (verbosity : Verbosity) : Option String :=
  TraceLog.eventLine? { verbosity, palette, lineCount := told.number, line := told.line }
    language told.event

/-- What every log says that tells an event. -/
def text : String :=
  (told.line? language palette
    (if told.event.isEmptyMatch then .veryVerbose else .normal)).getD ""

/-- What the verbose logs say at the end of the line for a match. -/
def patternText : String :=
  match told.event with
  | .matched state rule _ => " " ++ TraceLog.patternText language state rule
  | _ => ""

variable {told : NumberedEvent} {language : Language} {palette : Palette}

/-- Logs leave out empty matches unless they are very verbose, and patterns unless they
are verbose. -/
theorem line?_eq (verbosity : Verbosity) :
    told.line? language palette verbosity =
      if told.event.isEmptyMatch ∧ verbosity ≠ .veryVerbose then none
      else some (told.text language palette ++
        if verbosity = .normal then "" else told.patternText language) := by
  obtain ⟨number, line, event⟩ := told
  cases event with
  | matched state rule token =>
      cases verbosity <;>
        simp [line?, text, patternText, TraceLog.eventLine?, TraceLog.tokenText,
          Event.isEmptyMatch, String.append_assoc]
  | _ =>
      cases verbosity <;>
        simp [line?, text, patternText, TraceLog.eventLine?, TraceLog.tokenText,
          Event.isEmptyMatch]

theorem text_of_tokenEvent {number : Nat} {line : String} (step : Step) :
    text ⟨number, line, step.tokenEvent⟩ language palette =
      step.logText language palette line := by
  obtain ⟨state, skipped, rule, token, stackEvent, next⟩ := step
  cases rule with
  | none => rfl
  | some rule => exact String.append_empty

end NumberedEvent

/-! ### Writing -/

namespace TraceLog

variable {language : Language} {log : TraceLog}

def addLines (log : TraceLog) (more : List String) : TraceLog :=
  { log with lines := log.lines ++ more.toArray }

/-- The log when it has heard of the start of a line, without what it tells of this. -/
def startLine (log : TraceLog) (line : String) : TraceLog :=
  { log with lineCount := log.lineCount + 1, line := line }

theorem hear_of_inside {event : Event} (inside : event.isLineStart = false) :
    hear language event log = log.addLines (log.eventLine? language event).toList := by
  cases told : log.eventLine? language event with
  | none =>
      cases event with
      | lineStart line stack => cases inside
      | _ => simp [hear, told, addLines]
  | some text =>
      cases event with
      | lineStart line stack => cases inside
      | _ => simp [hear, told, addLines]

/-- What is added to a log does not change what it tells. -/
theorem eventLine?_addLines (more : List String) (event : Event) :
    (log.addLines more).eventLine? language event = log.eventLine? language event := by
  cases event <;> rfl

theorem addLines_addLines (first second : List String) :
    (log.addLines first).addLines second = log.addLines (first ++ second) := by
  simp [addLines]

/-- Inside of a line a log adds what it tells and changes in nothing else. -/
theorem hearAll_of_inside {events : List Event}
    (inside : ∀ event ∈ events, event.isLineStart = false) :
    tracer.hearAll language events log =
      log.addLines (events.filterMap (log.eventLine? language)) := by
  induction events generalizing log with
  | nil => simp [addLines, Tracer.hearAll]
  | cons event events ih =>
      obtain ⟨first, others⟩ := List.forall_mem_cons.mp inside
      calc
        tracer.hearAll language (event :: events) log =
            tracer.hearAll language events
              (log.addLines (log.eventLine? language event).toList) :=
          congrArg (tracer.hearAll language events) (hear_of_inside first)
        _ = log.addLines ((log.eventLine? language event).toList ++
          events.filterMap (log.eventLine? language)) := by
          rw [ih others, funext (eventLine?_addLines _), addLines_addLines]
        _ = log.addLines ((event :: events).filterMap (log.eventLine? language)) := by
          rw [List.filterMap_cons]
          cases log.eventLine? language event <;> rfl

theorem addRun_eq (run : LineRun) :
    log.addRun language run =
      (log.startLine run.line).addLines
        (run.events.filterMap ((log.startLine run.line).eventLine? language)) := by
  have inside : ∀ event ∈ run.steps.flatMap Step.events ++ [.lineEnd run.endStack],
      event.isLineStart = false := by
    intro event member
    rcases List.mem_append.mp member with ofStep | isEnd
    · obtain ⟨step, -, isEvent⟩ := List.mem_flatMap.mp ofStep
      exact Step.isLineStart_of_mem_events isEvent
    · obtain rfl := List.mem_singleton.mp isEnd
      rfl
  calc
    log.addRun language run =
        tracer.hearAll language (run.steps.flatMap Step.events ++ [.lineEnd run.endStack])
          ((log.startLine run.line).addLines
            ((log.startLine run.line).eventLine? language
              (.lineStart run.line run.startStack)).toList) := rfl
    _ = _ := by
      rw [hearAll_of_inside inside, funext (eventLine?_addLines _), addLines_addLines]
      rfl

/-- What a log has written when it has seen the runs of some lines. -/
theorem toList_lines_addRuns (runs : List LineRun) :
    (log.addRuns language runs).lines.toList = log.lines.toList ++
      (numberedEvents (log.lineCount + 1) runs).filterMap
        (·.line? language log.palette log.verbosity) := by
  induction runs generalizing log with
  | nil => exact (List.append_nil _).symm
  | cons run runs ih =>
      -- The log reads the number and the text of the line from its own fields.
      have told_eq : run.events.filterMap ((log.startLine run.line).eventLine? language) =
          (run.events.map (NumberedEvent.mk (log.lineCount + 1) run.line)).filterMap
            (·.line? language log.palette log.verbosity) := by
        rw [List.filterMap_map]
        rfl
      calc
        (log.addRuns language (run :: runs)).lines.toList =
            ((log.addRun language run).addRuns language runs).lines.toList := rfl
        _ = log.lines.toList ++ run.events.filterMap
          ((log.startLine run.line).eventLine? language) ++
              (numberedEvents (log.lineCount + 1 + 1) runs).filterMap
                (·.line? language log.palette log.verbosity) := by
          rw [ih, addRun_eq]
          simp [addLines, startLine]
        _ = _ := by
          rw [told_eq, numberedEvents, List.filterMap_append, List.append_assoc]

theorem trace_eq (traced : Traced) :
    log.trace language traced = log.addRuns language (traced.runs language) := by
  cases traced with
  | document text => exact lexDocumentTraced_eq_addRuns text log
  | line stack text =>
      rw [trace, Language.lexLineTraced_eq]
      rfl

theorem traceAll_eq (session : List Traced) :
    log.traceAll language session =
      log.addRuns language (session.flatMap (Traced.runs language)) := by
  induction session generalizing log with
  | nil => rfl
  | cons traced session ih =>
      rw [List.flatMap_cons, addRuns, List.foldl_append]
      calc
        log.traceAll language (traced :: session) =
          (log.trace language traced).traceAll language session := rfl
        _ = _ := by
          rw [ih, trace_eq]
          rfl

end TraceLog

/-! ### Patterns of matches -/

section Matches

variable {language : Language}

theorem Language.exists_of_mem_runLines {stack : ActiveStates} {lines : List String}
    {run : LineRun} (member : run ∈ language.runLines stack lines) :
    ∃ stack line, run = language.runLine stack line := by
  induction lines generalizing stack with
  | nil => cases member
  | cons line lines ih =>
      rcases List.mem_cons.mp member with rfl | member
      · exact ⟨stack, line, rfl⟩
      · exact ih member

theorem Traced.exists_of_mem_runs {traced : Traced} {run : LineRun}
    (member : run ∈ traced.runs language) :
    ∃ stack line, run = language.runLine stack line := by
  cases traced with
  | document text => exact Language.exists_of_mem_runLines member
  | line stack text => exact ⟨stack, text, List.mem_singleton.mp member⟩

theorem exists_run_of_mem_numberedEvents {first : Nat} {runs : List LineRun}
    {told : NumberedEvent} (member : told ∈ numberedEvents first runs) :
    ∃ run ∈ runs, told.event ∈ run.events := by
  induction runs generalizing first with
  | nil => cases member
  | cons run runs ih =>
      rcases List.mem_append.mp member with ofRun | later
      · obtain ⟨event, isEvent, rfl⟩ := List.mem_map.mp ofRun
        exact ⟨run, List.mem_cons_self, isEvent⟩
      · obtain ⟨other, isOther, isEvent⟩ := ih later
        exact ⟨other, List.mem_cons_of_mem run isOther, isEvent⟩

/-- A match that happens in a line is that of a rule of the state. -/
theorem Language.exists_rule_of_matched {stack : ActiveStates} {line : String}
    {state : StateIndex} {number : Nat} {token : ClassedSpan}
    (member : .matched state number token ∈ (language.runLine stack line).events) :
    ∃ rule, (language.rules state)[number]? = some rule := by
  -- A match is an event of a token, and so that of a step.
  have isToken : Event.matched state number token ∈
      (language.runLine stack line).events.filter Event.isToken :=
    List.mem_filter.mpr ⟨member, rfl⟩
  rw [LineRun.filter_isToken_events] at isToken
  obtain ⟨step, isStep, event_eq⟩ := List.mem_map.mp isToken
  obtain ⟨place, -, isNext⟩ :=
    (Scanner.start_liesIn line stack).exists_of_mem_steps isStep
  obtain ⟨-, ⟨skipped, other, rule, count, tried, rfl⟩ | ⟨skipped, tried, rfl⟩⟩ :=
    Scanner.step_cases isNext
  · obtain ⟨rfl, rfl, -⟩ := Event.matched.inj event_eq
    obtain ⟨-, isRule, -⟩ := tryRules_winner (congrArg Trial.winner tried)
    exact ⟨rule, isRule⟩
  · cases event_eq

theorem NumberedEvent.patternText_of_ne_matched {told : NumberedEvent}
    (isOther : ∀ state number token, told.event ≠ .matched state number token) :
    told.patternText language = "" := by
  rw [patternText]
  split
  · rename_i state number token isMatch
    exact absurd isMatch (isOther state number token)
  · rfl

/-- The pattern that is told of a match in a session is that of a rule of the state. -/
theorem exists_rule_of_told_match {first : Nat} {session : List Traced}
    {told : NumberedEvent}
    (member : told ∈ numberedEvents first (session.flatMap (Traced.runs language)))
    {state : StateIndex} {number : Nat} {token : ClassedSpan}
    (isMatch : told.event = .matched state number token) :
    ∃ rule, (language.rules state)[number]? = some rule ∧
      told.patternText language = " /" ++ rule.patternText ++ "/" := by
  obtain ⟨run, isRun, isEvent⟩ := exists_run_of_mem_numberedEvents member
  obtain ⟨traced, -, ofTraced⟩ := List.mem_flatMap.mp isRun
  obtain ⟨stack, line, rfl⟩ := Traced.exists_of_mem_runs ofTraced
  obtain ⟨rule, isRule⟩ := Language.exists_rule_of_matched (isMatch ▸ isEvent)
  refine ⟨rule, isRule, ?_⟩
  simp [NumberedEvent.patternText, isMatch, TraceLog.patternText, isRule,
    ← String.append_assoc]

end Matches

/-! ### The three logs -/

section Views

variable {language : Language} {palette : Palette}

theorem filterMap_line?_veryVerbose (events : List NumberedEvent) :
    events.filterMap (·.line? language palette .veryVerbose) =
      events.map fun told => told.text language palette ++ told.patternText language := by
  rw [← List.filterMap_eq_map]
  congr 1
  funext told
  simp [NumberedEvent.line?_eq]

theorem filterMap_line?_of_ne_veryVerbose {verbosity : Verbosity}
    (less : verbosity ≠ .veryVerbose) (events : List NumberedEvent) :
    events.filterMap (·.line? language palette verbosity) =
      (events.filter (!·.event.isEmptyMatch)).map fun told =>
        told.text language palette ++
          if verbosity = .normal then "" else told.patternText language := by
  induction events with
  | nil => rfl
  | cons told events ih =>
      rw [List.filterMap_cons, NumberedEvent.line?_eq, ih]
      cases isEmptyMatch : told.event.isEmptyMatch <;> simp [less, isEmptyMatch]

variable (language palette)

theorem map_text_lineStarts (first : Nat) (runs : List LineRun) :
    ((numberedEvents first runs).filter (·.event.isLineStart)).map
      (·.text language palette) = runs.mapIdx fun index run =>
        "line " ++ toString (first + index) ++ " " ++
          palette.dimmed (language.stackText run.startStack) := by
  simp only [filter_isLineStart_numberedEvents, List.mapIdx_eq_zipIdx_map, List.map_map]
  rfl

theorem map_text_tokens (first : Nat) (runs : List LineRun) :
    ((numberedEvents first runs).filter (·.event.isToken)).map (·.text language palette) =
      runs.flatMap fun run => run.steps.map (·.logText language palette run.line) := by
  induction runs generalizing first with
  | nil => rfl
  | cons run runs ih =>
      have ofRun :
          ((run.events.map (NumberedEvent.mk first run.line)).filter
            (·.event.isToken)).map
          (·.text language palette) =
            run.steps.map (·.logText language palette run.line) := by
        calc
          _ = ((run.events.filter Event.isToken).map
            (NumberedEvent.mk first run.line)).map
                (·.text language palette) := by
            rw [List.filter_map]
            rfl
          _ = _ := by
            rw [LineRun.filter_isToken_events, List.map_map, List.map_map]
            exact List.map_congr_left fun step _ => NumberedEvent.text_of_tokenEvent step
      rw [numberedEvents, List.filter_append, List.map_append, ofRun, ih,
        List.flatMap_cons]

/-- Leaving out empty matches leaves all events of another kind. -/
theorem filter_filter_isEmptyMatch {kind : Event → Bool}
    (isOther : ∀ event, kind event → event.isEmptyMatch = false)
    (events : List NumberedEvent) :
    (events.filter (!·.event.isEmptyMatch)).filter (kind ·.event) =
      events.filter (kind ·.event) := by
  rw [List.filter_filter]
  refine List.filter_congr fun told _ => ?_
  cases isKind : kind told.event with
  | false => rfl
  | true => simp [isOther told.event isKind]

end Views

/-- Three logs of a session that differ in nothing but their verbosity tell the events of
the same runs.  The verbose log is the very verbose one without the lines for empty
matches, and the normal log is the verbose one without the pattern of the rule at the end
of each line for a match.  In all of them the lines for starts of lines are numbered from
one on and show the stack that the line starts with, and the line for a token shows its
span, its text and its class. -/
theorem TraceLog.lines_traceAll (language : Language) (palette : Palette)
    (session : List Traced) :
    let runs := session.flatMap (Traced.runs language)
    let events := numberedEvents 1 runs
    let others := events.filter (!·.event.isEmptyMatch)
    let brief (told : NumberedEvent) := told.text language palette
    let full (told : NumberedEvent) :=
      told.text language palette ++ told.patternText language
    let lines verbosity := (traceAll language { verbosity, palette } session).lines.toList
    lines .veryVerbose = events.map full ∧ lines .verbose = others.map full ∧
      lines .normal = others.map brief ∧
      (∀ told ∈ events,
        (∀ state number token, told.event = .matched state number token →
          ∃ rule, (language.rules state)[number]? = some rule ∧
            told.patternText language = " /" ++ rule.patternText ++ "/") ∧
        ((∀ state number token, told.event ≠ .matched state number token) →
          told.patternText language = "")) ∧
      ∀ shown ∈ [events, others],
        (shown.filter (·.event.isLineStart)).map brief = (runs.mapIdx fun index run =>
          "line " ++ toString (index + 1) ++ " " ++
            palette.dimmed (language.stackText run.startStack)) ∧
        (shown.filter (·.event.isToken)).map brief = runs.flatMap fun run =>
          run.steps.map (·.logText language palette run.line) := by
  intro runs events others brief full lines
  have lines_eq (verbosity : Verbosity) :
      lines verbosity = events.filterMap (·.line? language palette verbosity) := by
    simp only [lines, traceAll_eq, toList_lines_addRuns]
    rfl
  refine ⟨?_, ?_, ?_, fun told member =>
    ⟨?_, NumberedEvent.patternText_of_ne_matched⟩, ?_⟩
  · rw [lines_eq, filterMap_line?_veryVerbose]
  · rw [lines_eq, filterMap_line?_of_ne_veryVerbose (by decide)]
    rfl
  · rw [lines_eq, filterMap_line?_of_ne_veryVerbose (by decide)]
    exact List.map_congr_left fun told _ => String.append_empty
  · exact fun state number token isMatch => exists_rule_of_told_match member isMatch
  · have ofEvents := And.intro (map_text_lineStarts language palette 1 runs)
      (map_text_tokens language palette 1 runs)
    simp only [Nat.add_comm 1] at ofEvents
    have starts_eq : others.filter (·.event.isLineStart) =
        events.filter (·.event.isLineStart) :=
      filter_filter_isEmptyMatch (fun event => by cases event <;>
        simp [Event.isLineStart, Event.isEmptyMatch]) events
    have tokens_eq : others.filter (·.event.isToken) = events.filter (·.event.isToken) :=
      filter_filter_isEmptyMatch (fun event => by cases event <;>
        simp [Event.isToken, Event.isEmptyMatch]) events
    refine List.forall_mem_cons.mpr ⟨ofEvents, List.forall_mem_singleton.mpr ?_⟩
    rw [starts_eq, tokens_eq]
    exact ofEvents

end LineLexer
