import LineLexer.Scan.Step

/-!
# Scanning a line

The run of a line is the list of all its steps.  Everything that is known about a line
afterwards is read off its run: the tokens, the stack for the next line and the events
that a trace reports.
-/

namespace LineLexer

namespace Scanner

/-- All steps from a place to the end of the line. -/
def steps (language : Language) (scanner : Scanner) : List Step :=
  match _ : scanner.step? language with
  | none => []
  | some step => step :: step.next.steps language
termination_by scanner.rest.length
decreasing_by exact length_rest_step ‹_›

def stackAfter (stack : ActiveStates) (steps : List Step) : ActiveStates :=
  match steps.getLast? with
  | some step => step.next.stack
  | none => stack

/-- The stack at the end of the line. -/
def finish (language : Language) (scanner : Scanner) : ActiveStates :=
  stackAfter scanner.stack (scanner.steps language)

/-- Asks a scan for its next token.  At the end of the line there is none, and the place
stays the same. -/
def next (language : Language) (scanner : Scanner) : Option Token × Scanner :=
  match scanner.step? language with
  | some step => (some step.token, step.next)
  | none => (none, scanner)

/-- The place after asking a scan for its next token a number of times. -/
def afterCalls (language : Language) : (count : Nat) → Scanner → Scanner
  | 0, scanner => scanner
  | count + 1, scanner => afterCalls language count (scanner.next language).2

end Scanner

/-- What happens while a line is scanned, in the order in which it happens.  A rule that
matches the empty text is passed over, and where no rule matches one character becomes a
token. -/
inductive Event where
  | lineStart (line : String) (stack : ActiveStates)
  | emptyMatch (state : StateIndex) (rule : Nat)
  | matched (state : StateIndex) (rule : Nat) (token : ClassedSpan)
  | fallback (state : StateIndex) (token : ClassedSpan)
  | pushed (stack : ActiveStates)
  | popped (stack : ActiveStates)
  | lineEnd (stack : ActiveStates)
  deriving DecidableEq, Repr

/-- The events of a step: the rules that were passed over, the token, and the change of
the stack. -/
def Step.events (step : Step) : List Event :=
  step.skipped.map (.emptyMatch step.state) ++
    [match step.rule with
      | some rule => .matched step.state rule step.token.classedSpan
      | none => .fallback step.state step.token.classedSpan] ++
    match step.stackEvent with
    | some .pushed => [.pushed step.next.stack]
    | some .popped => [.popped step.next.stack]
    | none => []

/-- The run of a line. -/
structure LineRun where
  line : String
  startStack : ActiveStates
  steps : List Step

namespace LineRun

def endStack (run : LineRun) : ActiveStates :=
  Scanner.stackAfter run.startStack run.steps

def lexed (run : LineRun) : LexedLine :=
  ⟨run.steps.map Step.token, run.endStack⟩

def events (run : LineRun) : List Event :=
  .lineStart run.line run.startStack :: run.steps.flatMap Step.events ++
    [.lineEnd run.endStack]

end LineRun

namespace Language

def runLine (language : Language) (stack : ActiveStates) (line : String) : LineRun where
  line := line
  startStack := stack
  steps := (Scanner.start line stack).steps language

/-- Cuts a line into tokens. -/
def lexLine (language : Language) (stack : ActiveStates) (line : String) : LexedLine :=
  (language.runLine stack line).lexed

end Language

end LineLexer
