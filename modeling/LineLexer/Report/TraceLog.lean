import LineLexer.Palette
import LineLexer.Scan.Tracing
import LineLexer.Text.Quoted

/-!
# Trace logs

The readable log of the decisions of a scan, one event a line.  It is written by a tracer,
goes on over any number of lines and documents and numbers the lines it has seen.  More
verbose logs add the pattern of each rule that matched, and then also the rules that were
passed over.
-/

namespace LineLexer

/-- How much a trace log tells: tokens, changes of the stack and the starts and ends of
lines; also which rules won; also those that were passed over because they matched the
empty text. -/
inductive Verbosity where
  | normal
  | verbose
  | veryVerbose
  deriving DecidableEq, Repr

/-- A trace log, with the number of lines that it has seen and the text of the last of
them. -/
structure TraceLog where
  verbosity : Verbosity := .normal
  palette : Palette := .plain
  lineCount : Nat := 0
  line : String := ""
  lines : Array String := #[]

namespace TraceLog

/-- The pattern of a rule of a state, between slashes. -/
def patternText (language : Language) (state : StateIndex) (rule : Nat) : String :=
  match (language.rules state)[rule]? with
  | some rule => "/" ++ rule.patternText ++ "/"
  | none => "//"

/-- The span, the text and the class of a token of the line. -/
def tokenText (log : TraceLog) (language : Language) (token : ClassedSpan) : String :=
  toString token.start ++ ".." ++ toString token.stop ++ " " ++
    log.palette.green ++ Text.quoted (Text.slice log.line token.start token.stop) ++
      log.palette.reset ++ " " ++
    log.palette.classLabel (language.className token.classIndex)

/-- The line of the log for an event of the scanned line, if the log tells it. -/
def eventLine? (log : TraceLog) (language : Language) : Event → Option String
  | .lineStart _ stack =>
      some ("line " ++ toString log.lineCount ++ " " ++
        log.palette.dimmed (language.stackText stack))
  | .emptyMatch state rule =>
      if log.verbosity = .veryVerbose then
        some ("  " ++ log.palette.dimmed
          (language.stateName state ++ "#" ++ toString rule) ++
          " skipped empty match " ++ patternText language state rule)
      else none
  | .matched state rule token =>
      some ("  " ++ log.palette.dimmed
        (language.stateName state ++ "#" ++ toString rule) ++ " " ++
        log.tokenText language token ++
        (if log.verbosity = .normal then "" else " " ++ patternText language state rule))
  | .fallback state token =>
      some ("  " ++ log.palette.dimmed (language.stateName state) ++ " fallback " ++
        log.tokenText language token)
  | .pushed stack => some ("  push " ++ language.stackText stack)
  | .popped stack => some ("  pop " ++ language.stackText stack)
  | .lineEnd stack => some ("  end " ++ log.palette.dimmed (language.stackText stack))

def hear (language : Language) (event : Event) (log : TraceLog) : TraceLog :=
  let log :=
    match event with
    | .lineStart line _ => { log with lineCount := log.lineCount + 1, line := line }
    | _ => log
  match log.eventLine? language event with
  | some text => { log with lines := log.lines.push text }
  | none => log

def tracer : Tracer TraceLog where
  hear := hear

def addRun (language : Language) (log : TraceLog) (run : LineRun) : TraceLog :=
  tracer.hearAll language run.events log

def addRuns (language : Language) (log : TraceLog) (runs : List LineRun) : TraceLog :=
  runs.foldl (addRun language) log

def output (log : TraceLog) : String :=
  String.join (log.lines.toList.map (· ++ "\n"))

end TraceLog

end LineLexer
