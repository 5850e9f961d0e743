import LineLexer.CommandLine.Run

/-!
# The program

Reads the arguments, the one source that a command may need and the kind of standard
output, and writes the outcome of the command.
-/

namespace LineLexer.CommandLine

/-- What the program can be asked for. -/
def usage : String :=
  "Usage: pqlex tokens|trace [SOURCE|-s TEXT] [-l LANG] [--spans] [--coalesce] " ++
    "[--json] [-v|-vv] [--color WHEN]\n" ++
    "       pqlex dump [-l LANG] [--color WHEN]\n" ++
    "       pqlex config [-l LANG] [--compact]\n" ++
    "       pqlex lang list"

/-- What is shown for arguments that are refused or ask for help. -/
def UsageError.message : UsageError → String
  | invalidValue => "error: a value is missing or is not possible"
  | unknownArgument => "error: unexpected argument"
  | argumentConflict => "error: arguments exclude each other"
  | tooManyValues => "error: unexpected value"
  | invalidSubcommand => "error: unrecognized command"
  | displayHelp => usage
  | missingSubcommand => usage

/-- Whether an error of the operating system has the given number; some calls report it
negated. -/
def hasNumber (code number : UInt32) : Bool :=
  code == number || code == 0 - number

/-- The failure that an error of the operating system stands for. -/
def failureOf : IO.Error → ReadFailure
  | .noFileOrDirectory _ _ _ => .notFound
  | .permissionDenied _ _ _ => .permissionDenied
  | .inappropriateType _ code _ =>
      if hasNumber code 20 then .notDirectory else .isDirectory
  | .invalidArgument file code details =>
      if hasNumber code 36 then .nameTooLong
      else .other (toString (IO.Error.invalidArgument file code details))
  | error => .other (toString error)

/-- All bytes of a stream, after those read before. -/
partial def readBytes (stream : IO.FS.Stream) (before : ByteArray) : IO ByteArray := do
  let bytes ← stream.read 65536
  if bytes.isEmpty then return before else readBytes stream (before ++ bytes)

def readOrigin (origin : SourceOrigin) : IO (Except ReadFailure String) := do
  try
    let bytes ←
      match origin with
      | .file path => IO.FS.readBinFile path
      | .standardInput => readBytes (← IO.getStdin) ByteArray.empty
    return textOfBytes bytes
  catch error => return .error (failureOf error)

end LineLexer.CommandLine

open LineLexer.CommandLine in
/-- Runs the command that the arguments ask for. -/
def main (arguments : List String) : IO UInt32 := do
  match Command.read arguments with
  | .error error =>
      if error.code = 0 then IO.println error.message else IO.eprintln error.message
      return error.code.toUInt32
  | .ok command =>
      let contents ←
        match command.origin? with
        | some origin => readOrigin origin
        | none => pure (.ok "")
      let toTerminal ← (← IO.getStdout).isTty
      let outcome := command.run (fun _ => contents) toTerminal
      IO.print outcome.output
      IO.eprint outcome.errors
      return outcome.code.toUInt32
