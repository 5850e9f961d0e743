import LineLexer.Scan.Document

/-!
# Traced scans

A tracer is told of everything that happens while lines are scanned, in the order in which
it happens.  It has a state of its own, which the scan passes on from one event to the
next and never looks at.

A traced scan tells of the start of the line when it is set up and of the end of the line
when it is asked for a token and has none.  It can be asked again after that, so it
remembers that it has told of the end.
-/

namespace LineLexer

/-- A tracer with states in `σ`: the state after an event of a scan in a language. -/
structure Tracer (σ : Type) where
  hear : Language → Event → σ → σ

/-- A traced scan: its place in the line, whether the tracer has been told of the end of
the line, and the state of the tracer. -/
structure TracedScanner (σ : Type) where
  place : Scanner
  isDone : Bool
  trace : σ

namespace Tracer

variable {σ : Type}

/-- The tracer that keeps all events. -/
def recorder : Tracer (Array Event) where
  hear _ event events := events.push event

def hearAll (tracer : Tracer σ) (language : Language) (events : List Event)
    (trace : σ) : σ :=
  events.foldl (fun trace event => tracer.hear language event trace) trace

/-- Tries rules in order, where `index` is the number of the first of them, up to the
first that matches some of the text. -/
def tryRules (tracer : Tracer σ) (language : Language) (state : StateIndex)
    (text : List Char) : (index : Nat) → List Rule → σ → Option (Nat × Rule × Nat) × σ
  | _, [], trace => (none, trace)
  | index, rule :: rules, trace =>
      match rule.pattern.matchLength? text with
      | none => tracer.tryRules language state text (index + 1) rules trace
      | some 0 =>
          tracer.tryRules language state text (index + 1) rules
            (tracer.hear language (.emptyMatch state index) trace)
      | some (count + 1) => (some (index, rule, count + 1), trace)

def changeStack (tracer : Tracer σ) (language : Language) (change : Option StackChange)
    (stack : ActiveStates) (trace : σ) : ActiveStates × σ :=
  match change with
  | none => (stack, trace)
  | some (.push state) =>
      let stack := stack.push state
      (stack, tracer.hear language (.pushed stack) trace)
  | some .pop =>
      -- Nothing is told of the state at the bottom, which is not left.
      match stack.pop? with
      | some (_, stack) => (stack, tracer.hear language (.popped stack) trace)
      | none => (stack, trace)
  | some .popAll =>
      let stack := stack.popAll
      (stack, tracer.hear language (.popped stack) trace)

end Tracer

namespace TracedScanner

variable {σ : Type}

def start (tracer : Tracer σ) (language : Language) (line : String) (stack : ActiveStates)
    (trace : σ) : TracedScanner σ where
  place := .start line stack
  isDone := false
  trace := tracer.hear language (.lineStart line stack) trace

/-- Takes the token at the cursor, where the line does not end. -/
def step (tracer : Tracer σ) (language : Language) (scanner : TracedScanner σ) :
    Token × TracedScanner σ :=
  let place := scanner.place
  let state := place.stack.top
  match tracer.tryRules language state place.rest 0
    (language.rules state) scanner.trace with
  | (some (index, rule, count), trace) =>
      let text := place.rest.take count
      let (classIndex, side) := language.classify rule.classifier (String.ofList text)
      let token : Token :=
        ⟨place.offset, place.offset + Text.byteLength text, classIndex, side⟩
      let trace := tracer.hear language (.matched state index token.classedSpan) trace
      let (stack, trace) := tracer.changeStack language rule.change place.stack trace
      (token, { scanner with place := place.advance count stack, trace := trace })
  | (none, trace) =>
      let next := place.advance 1 place.stack
      let token : Token := ⟨place.offset, next.offset, language.defaultClass, none⟩
      (token, { scanner with
        place := next
        trace := tracer.hear language (.fallback state token.classedSpan) trace })

/-- Asks the scan for its next token.  The end of the line is told at the first call that
finds it. -/
def next (tracer : Tracer σ) (language : Language) (scanner : TracedScanner σ) :
    Option Token × TracedScanner σ :=
  if scanner.place.rest.isEmpty then
    if scanner.isDone then (none, scanner)
    else
      (none, { scanner with
        isDone := true
        trace := tracer.hear language (.lineEnd scanner.place.stack) scanner.trace })
  else
    let (token, scanner) := scanner.step tracer language
    (some token, scanner)

end TracedScanner

section Steps

variable {σ : Type} {tracer : Tracer σ} {language : Language}

namespace Tracer

theorem hearAll_append (first second : List Event) (trace : σ) :
    tracer.hearAll language (first ++ second) trace =
      tracer.hearAll language second (tracer.hearAll language first trace) :=
  List.foldl_append

/-- A traced scan tries rules as an untraced one does, and tells of those that it passes
over. -/
theorem tryRules_eq (state : StateIndex) (text : List Char) (index : Nat)
    (rules : List Rule) (trace : σ) :
    tracer.tryRules language state text index rules trace =
      ((LineLexer.tryRules text index rules).winner,
        tracer.hearAll language
          ((LineLexer.tryRules text index rules).skipped.map (.emptyMatch state))
            trace) := by
  induction rules generalizing index trace with
  | nil => rfl
  | cons rule rules ih =>
      rw [tryRules, LineLexer.tryRules]
      cases rule.pattern.matchLength? text with
      | none => exact ih (index + 1) trace
      | some count =>
          cases count with
          | zero => exact ih (index + 1) _
          | succ count => rfl

/-- A traced scan changes the stack as an untraced one does, and tells of what is to be
reported. -/
theorem changeStack_eq (change : Option StackChange) (stack : ActiveStates) (trace : σ) :
    tracer.changeStack language change stack trace =
      ((StackChange.apply change stack).1,
        tracer.hearAll language
          (match (StackChange.apply change stack).2 with
            | some .pushed => [.pushed (StackChange.apply change stack).1]
            | some .popped => [.popped (StackChange.apply change stack).1]
            | none => []) trace) := by
  match change with
  | none => rfl
  | some (.push state) => rfl
  | some .pop =>
      rw [changeStack, StackChange.apply]
      cases stack.pop? with
      | none => rfl
      | some left => rfl
  | some .popAll => rfl

end Tracer

namespace TracedScanner

/-- A traced scan takes the token that an untraced one takes, and tells of the events of
this step. -/
theorem step_eq {scanner : TracedScanner σ} {step : Step}
    (isStep : scanner.place.step? language = some step) :
    scanner.step tracer language =
      (step.token, { scanner with
        place := step.next
        trace := tracer.hearAll language step.events scanner.trace }) := by
  rw [Scanner.step?] at isStep
  split at isStep
  · cases isStep
  · rw [TracedScanner.step]
    simp only [Tracer.tryRules_eq] at isStep ⊢
    cases won :
      (tryRules scanner.place.rest 0 (language.rules scanner.place.stack.top)).winner with
    | none =>
        rw [won] at isStep
        obtain rfl := Option.some.inj isStep
        simp [Step.events, Scanner.takeUnmatched, Tracer.hearAll]
    | some winner =>
        obtain ⟨index, rule, count⟩ := winner
        rw [won] at isStep
        obtain rfl := Option.some.inj isStep
        simp only [Tracer.changeStack_eq, Step.events, Tracer.hearAll_append]
        rfl

theorem next_of_step?_eq_some {scanner : TracedScanner σ} {step : Step}
    (isStep : scanner.place.step? language = some step) :
    scanner.next tracer language =
      (some step.token, { scanner with
        place := step.next
        trace := tracer.hearAll language step.events scanner.trace }) := by
  have notEmpty : ¬ scanner.place.rest.isEmpty = true := by
    intro isEmpty
    rw [Scanner.step?, if_pos isEmpty] at isStep
    cases isStep
  rw [next, if_neg notEmpty, step_eq isStep]

/-- At the end of the line a scan gives no token, and tells of the end once. -/
theorem next_of_step?_eq_none {scanner : TracedScanner σ}
    (noStep : scanner.place.step? language = none) :
    scanner.next tracer language =
      (none,
        if scanner.isDone then scanner
        else { scanner with
          isDone := true
          trace := tracer.hear language
            (.lineEnd scanner.place.stack) scanner.trace }) := by
  have isEmpty : scanner.place.rest.isEmpty = true := by
    rw [Scanner.step?_eq_none_iff.mp noStep]
    rfl
  rw [next, if_pos isEmpty]
  split <;> rfl

/-- Every token that a scan gives takes at least one character. -/
theorem length_rest_next {scanner after : TracedScanner σ} {token : Token}
    (isNext : scanner.next tracer language = (some token, after)) :
    after.place.rest.length < scanner.place.rest.length := by
  cases isStep : scanner.place.step? language with
  | none =>
      rw [next_of_step?_eq_none isStep] at isNext
      cases isNext
  | some step =>
      rw [next_of_step?_eq_some isStep] at isNext
      obtain ⟨-, rfl⟩ := Prod.mk.inj isNext
      exact Scanner.length_rest_step isStep

/-- Asks the scan for tokens until it has none. -/
def drain (tracer : Tracer σ) (language : Language) (scanner : TracedScanner σ) :
    List Token × TracedScanner σ :=
  match _ : scanner.next tracer language with
  | (none, scanner) => ([], scanner)
  | (some token, scanner) =>
      let (tokens, scanner) := drain tracer language scanner
      (token :: tokens, scanner)
termination_by scanner.place.rest.length
decreasing_by exact length_rest_next ‹_›

/-- Takes all tokens that are left and gives the stack at the end of the line. -/
def finish (tracer : Tracer σ) (language : Language) (scanner : TracedScanner σ) :
    ActiveStates × σ :=
  let scanner := (scanner.drain tracer language).2
  (scanner.place.stack, scanner.trace)

end TracedScanner

end Steps

namespace Language

variable {σ : Type}

/-- Cuts a line into tokens and tells a tracer of it.  The scan is drained for the tokens
and finished for the stack. -/
def lexLineTraced (language : Language) (tracer : Tracer σ) (stack : ActiveStates)
    (line : String) (trace : σ) : LexedLine × σ :=
  let (tokens, scanner) :=
    (TracedScanner.start tracer language line stack trace).drain tracer language
  let (endStack, trace) := scanner.finish tracer language
  (⟨tokens, endStack⟩, trace)

def lexLinesTraced (language : Language) (tracer : Tracer σ) (stack : ActiveStates) :
    List String → σ → List LexedLine × σ
  | [], trace => ([], trace)
  | line :: lines, trace =>
      let (lexed, trace) := language.lexLineTraced tracer stack line trace
      let (others, trace) := language.lexLinesTraced tracer lexed.endStack lines trace
      (lexed :: others, trace)

def lexDocumentTraced (language : Language) (tracer : Tracer σ) (text : String)
    (trace : σ) : List LexedLine × σ :=
  language.lexLinesTraced tracer language.initialStack (Text.documentLines text) trace

/-- The events of a document, as a tracer hears them. -/
def documentEvents (language : Language) (text : String) : List Event :=
  (language.lexDocumentTraced .recorder text #[]).2.toList

end Language

end LineLexer
