import LineLexer.Catalog.Resolution
import LineLexer.CommandLine.Command
import LineLexer.Report.RuleDump
import LineLexer.Report.TokenDump
import LineLexer.Report.TokenJson

/-!
# Running commands

What a command writes, given what was read for it.  A command reads at most one source,
and reads it before its language is looked up, so a source that cannot be read is reported
first.
-/

namespace LineLexer.CommandLine

/-- Where a source is read from. -/
inductive SourceOrigin where
  | file (path : String)
  | standardInput
  deriving DecidableEq, Repr

/-- Why a source cannot be read; any other reason is in the words of the operating
system. -/
inductive ReadFailure where
  | notFound
  | permissionDenied
  | isDirectory
  | notDirectory
  | nameTooLong
  | notText
  | other (reason : String)
  deriving DecidableEq, Repr

/-- The words that report why a source cannot be read. -/
def ReadFailure.reason : ReadFailure → String
  | notFound => "No such file or directory (os error 2)"
  | permissionDenied => "Permission denied (os error 13)"
  | isDirectory => "Is a directory (os error 21)"
  | notDirectory => "Not a directory (os error 20)"
  | nameTooLong => "File name too long (os error 36)"
  | notText => "stream did not contain valid UTF-8"
  | other reason => reason

def textOfBytes (bytes : ByteArray) : Except ReadFailure String :=
  match String.fromUTF8? bytes with
  | some text => .ok text
  | none => .error .notText

/-- Why a command fails. -/
inductive Failure where
  | noInput
  | unreadable (origin : SourceOrigin) (failure : ReadFailure)
  | unknownLanguage (unknown : UnknownLanguage)

namespace Failure

/-- The sentence that reports a failure. -/
def message : Failure → String
  | noInput => "no input: pass a source file, '-' for stdin, or -s <TEXT>"
  | unreadable (.file path) failure =>
      "failed to read '" ++ path ++ "': " ++ failure.reason
  | unreadable .standardInput failure => "failed to read stdin: " ++ failure.reason
  | unknownLanguage unknown => unknown.message

/-- The hints after the sentence, each after an empty line. -/
def hints : Failure → List String
  | unknownLanguage unknown =>
      (unknown.suggestion.map fun name => "Did you mean '" ++ name ++ "'?").toList ++
        ["Run 'pqlex lang list' for the full list."]
  | _ => []

def report (failure : Failure) : String :=
  "error: " ++ failure.message ++ "\n" ++
    String.join (failure.hints.map fun hint => "\n" ++ hint ++ "\n")

end Failure

/-- How the program ends. -/
structure Outcome where
  code : Nat
  output : String
  errors : String
  deriving DecidableEq, Repr

/-- The outcome of a command that writes a text or fails. -/
def Outcome.of : Except Failure String → Outcome
  | .ok output => ⟨0, output, ""⟩
  | .error failure => ⟨1, "", failure.report⟩

namespace SourceChoice

/-- Where the source has to be read from, unless it is given as text. -/
def origin? (source : SourceChoice) : Option SourceOrigin :=
  match source.text, source.path with
  | some _, _ => none
  | none, none => none
  | none, some path => some (if path = "-" then .standardInput else .file path)

/-- The text of the source, where `contents` is what reading gives. -/
def load (source : SourceChoice) (contents : SourceOrigin → Except ReadFailure String) :
    Except Failure String :=
  match source.text with
  | some text => .ok text
  | none =>
      match source.origin? with
      | none => .error .noInput
      | some origin => (contents origin).mapError (.unreadable origin)

def language (source : SourceChoice) : Except Failure BuiltIn :=
  (BuiltIn.resolve source.languageName source.path).mapError .unknownLanguage

end SourceChoice

namespace Command

/-- Where the command has to read from. -/
def origin? : Command → Option SourceOrigin
  | tokens source _ _ _ _ => source.origin?
  | trace source _ _ => source.origin?
  | dump _ _ => none
  | config _ _ => none
  | languageList => none

/-- The language that a command asks for by name. -/
def namedLanguage (name : Option String) : Except Failure BuiltIn :=
  (BuiltIn.resolve name none).mapError .unknownLanguage

/-- What the command writes to standard output, where `contents` is what reading gives and
`toTerminal` says whether standard output is a terminal. -/
def output (contents : SourceOrigin → Except ReadFailure String) (toTerminal : Bool) :
    Command → Except Failure String
  | tokens source showSpans merge asJson color => do
      let text ← source.load contents
      let builtIn ← source.language
      if asJson then return (builtIn.language.documentJson merge text).pretty ++ "\n"
      else
        let style : DumpStyle :=
          { palette := .ofChoice (color.isColored toTerminal), showSpans := showSpans,
            merge := merge }
        return style.dump builtIn.language text
  | trace source verbosity color => do
      let text ← source.load contents
      let builtIn ← source.language
      let log : TraceLog :=
        { verbosity := verbosityOf verbosity,
          palette := .ofChoice (color.isColored toTerminal) }
      return (builtIn.language.lexDocumentTraced TraceLog.tracer text log).2.output
  | dump name color => do
      let builtIn ← namedLanguage name
      return builtIn.language.dumpRules (.ofChoice (color.isColored toTerminal))
  | config name compact => do
      let builtIn ← namedLanguage name
      return builtIn.configuration.toJson.render (!compact) ++ "\n"
  | languageList => return String.join (BuiltIn.all.map BuiltIn.listing)

def run (command : Command) (contents : SourceOrigin → Except ReadFailure String)
    (toTerminal : Bool) : Outcome :=
  .of (command.output contents toTerminal)

end Command

end LineLexer.CommandLine
