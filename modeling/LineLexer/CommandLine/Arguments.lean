/-!
# Reading arguments

A command is described by its options and by whether it takes a path.  Arguments are read
from left to right.  An option that takes a value takes it from its own argument, after
`=` or directly after its letter, or else from the next argument; that value is looked at
only when something else follows, so a mistake in between is found first.  After `--`
every argument is a path.
-/

namespace LineLexer.CommandLine

/-- Why arguments are refused, or help is shown instead. -/
inductive UsageError where
  | invalidValue
  | unknownArgument
  | argumentConflict
  | tooManyValues
  | invalidSubcommand
  | displayHelp
  | missingSubcommand
  deriving DecidableEq, Repr

/-- The status with which the program ends. -/
def UsageError.code : UsageError → Nat
  | displayHelp => 0
  | _ => 2

/-- What an option does.  A value is one of those that are allowed, or any if there are
none. -/
inductive OptionKind where
  | flag
  | count
  | value (allowed : List String)
  | help
  deriving DecidableEq, Repr

/-- An option of a command: the name by which its value is found, the letter after a
single hyphen and the word after two. -/
structure OptionSpec where
  name : String
  short : Option Char
  long : Option String
  kind : OptionKind
  deriving DecidableEq, Repr

/-- The option that every command has. -/
def helpOption : OptionSpec :=
  ⟨"help", some 'h', some "help", .help⟩

/-- What a command accepts.  The options named in `pathConflicts` cannot be given together
with a path. -/
structure CommandSpec where
  options : List OptionSpec
  takesPath : Bool
  pathConflicts : List String
  deriving DecidableEq, Repr

namespace CommandSpec

def ofLong? (spec : CommandSpec) (word : String) : Option OptionSpec :=
  spec.options.find? (·.long == some word)

def ofShort? (spec : CommandSpec) (letter : Char) : Option OptionSpec :=
  spec.options.find? (·.short == some letter)

end CommandSpec

/-- The arguments that have been given, the last option first.  Options that take no value
have the empty value. -/
structure Matches where
  path : Option String := none
  given : List (String × String) := []
  deriving DecidableEq, Repr

namespace Matches

def value? (found : Matches) (name : String) : Option String :=
  (found.given.find? (·.1 == name)).map Prod.snd

def has (found : Matches) (name : String) : Bool :=
  found.given.any (·.1 == name)

/-- How often an option is given. -/
def count (found : Matches) (name : String) : Nat :=
  found.given.countP (·.1 == name)

end Matches

/-- What has been read but not yet looked at. -/
inductive Waiting where
  | nothing
  | valueOf (option : OptionSpec)
  | option (option : OptionSpec) (value : String)
  | path (value : String)

/-- The state of reading arguments.  After an argument of two hyphens all others are
paths. -/
structure Reading where
  found : Matches := {}
  waiting : Waiting := .nothing
  hasPath : Bool := false
  onlyPaths : Bool := false

namespace Reading

def acceptValue (found : Matches) (option : OptionSpec) (value : String) :
    Except UsageError Matches :=
  if found.has option.name then .error .argumentConflict
  else
    match option.kind with
    | .value allowed =>
        if allowed.isEmpty || allowed.contains value then
          .ok { found with given := (option.name, value) :: found.given }
        else .error .invalidValue
    | _ => .error .tooManyValues

/-- Looks at what waits. -/
def settle (reading : Reading) : Except UsageError Matches :=
  match reading.waiting with
  | .nothing => .ok reading.found
  | .valueOf _ => .error .invalidValue
  | .option option value => acceptValue reading.found option value
  | .path value =>
      if value.isEmpty then .error .invalidValue
      else .ok { reading.found with path := some value }

/-- Accepts an option that is given without a value. -/
def acceptOption (reading : Reading) (option : OptionSpec) :
    Except UsageError Reading := do
  let found ← reading.settle
  match option.kind with
  | .help => .error .displayHelp
  | .count =>
      return { reading with
        found := { found with given := (option.name, "") :: found.given },
        waiting := .nothing }
  | .flag =>
      if found.has option.name then .error .argumentConflict
      else
        return { reading with
          found := { found with given := (option.name, "") :: found.given },
          waiting := .nothing }
  | .value _ => return { reading with found := found, waiting := .valueOf option }

/-- Accepts an option that is given with a value in the same argument. -/
def acceptAttached (reading : Reading) (option : OptionSpec) (value : String) :
    Except UsageError Reading :=
  match option.kind with
  | .value _ => do
      let found ← reading.settle
      let found ← acceptValue found option value
      return { reading with found := found, waiting := .nothing }
  | _ => .error .tooManyValues

/-- Reads an argument that starts with two hyphens, without them. -/
def readLong (spec : CommandSpec) (reading : Reading) (text : List Char) :
    Except UsageError Reading :=
  match spec.ofLong? (String.ofList (text.takeWhile (· != '='))) with
  | none => .error .unknownArgument
  | some option =>
      match text.dropWhile (· != '=') with
      | [] => reading.acceptOption option
      | _ :: value => reading.acceptAttached option (String.ofList value)

/-- Reads the letters of an argument that starts with a single hyphen.  What follows the
letter of an option that takes a value is its value. -/
def readShort (spec : CommandSpec) (reading : Reading) :
    List Char → Except UsageError Reading
  | [] => .ok reading
  | letter :: rest =>
      match spec.ofShort? letter with
      | none => .error .unknownArgument
      | some option =>
          match option.kind, rest with
          | .value _, '=' :: value => reading.acceptAttached option (String.ofList value)
          | .value _, [] => reading.acceptOption option
          | .value _, value => reading.acceptAttached option (String.ofList value)
          | _, rest => do
              let reading ← reading.acceptOption option
              readShort spec reading rest

def readPath (spec : CommandSpec) (reading : Reading) (argument : String) :
    Except UsageError Reading :=
  if spec.takesPath && !reading.hasPath then do
    let found ← reading.settle
    return { reading with found := found, waiting := .path argument, hasPath := true }
  else .error .unknownArgument

def readArgument (spec : CommandSpec) (reading : Reading) (argument : String) :
    Except UsageError Reading :=
  if reading.onlyPaths then reading.readPath spec argument
  else
    match argument.toList with
    | ['-', '-'] => .ok { reading with onlyPaths := true }
    | '-' :: '-' :: text => reading.readLong spec text
    | '-' :: letter :: text => reading.readShort spec (letter :: text)
    | _ =>
        match reading.waiting with
        | .valueOf option => .ok { reading with waiting := .option option argument }
        | _ => reading.readPath spec argument

end Reading

/-- The arguments of a command, if it accepts them. -/
def CommandSpec.read (spec : CommandSpec) (arguments : List String) :
    Except UsageError Matches := do
  let reading ← arguments.foldlM (Reading.readArgument spec) {}
  let found ← reading.settle
  if found.path.isSome && spec.pathConflicts.any found.has then .error .argumentConflict
  else return found

end LineLexer.CommandLine
