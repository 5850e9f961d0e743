import LineLexer.CommandLine.Arguments

/-!
# Menus of commands

Commands are found by name, and some names only lead to further names.  A menu also knows
the command `help`, which takes the names that lead to a command, and the option for help.
-/

namespace LineLexer.CommandLine

/-- A command, or a choice between further commands by name. -/
inductive Menu (α : Type) where
  | command (spec : CommandSpec) (meaning : Matches → α)
  | choice (entries : List (String × Menu α))

/-- What a command without options of its own accepts. -/
def bareSpec : CommandSpec := ⟨[helpOption], false, []⟩

namespace Menu

variable {α : Type}

def named? (entries : List (String × Menu α)) (name : String) : Option (Menu α) :=
  (entries.find? (·.1 == name)).map Prod.snd

/-- Whether some names lead to a command or to a choice, which includes each choice's own
`help`. -/
def leads : List String → Menu α → Bool
  | [], _ => true
  | _ :: _, .command _ _ => false
  | name :: names, .choice entries =>
      match named? entries name with
      | some menu => leads names menu
      | none => name == "help" && names.isEmpty

/-- The error for an argument that stands where a name should. -/
def strayArgument (argument : String) : UsageError :=
  match argument.toList with
  | '-' :: _ :: _ =>
      match ({} : Reading).readArgument bareSpec argument with
      | .error error => error
      | .ok _ => .unknownArgument
  | _ => .invalidSubcommand

/-- The error for the arguments after `--` where a name should stand.  A name there is not
taken for one. -/
def afterHyphens (entries : List (String × Menu α)) : List String → UsageError
  | [] => .missingSubcommand
  | argument :: _ =>
      if (named? entries argument).isSome || argument == "help" then .unknownArgument
      else .invalidSubcommand

/-- What arguments mean: the names that lead to a command, and then the command's own
arguments. -/
def read : List String → Menu α → Except UsageError α
  | arguments, .command spec meaning => (spec.read arguments).map meaning
  | [], .choice _ => .error .missingSubcommand
  | argument :: arguments, .choice entries =>
      match named? entries argument with
      | some menu => read arguments menu
      | none =>
          if argument = "help" then
            .error (if leads arguments (.choice entries) then .displayHelp
              else .invalidSubcommand)
          else if argument = "--" then .error (afterHyphens entries arguments)
          else .error (strayArgument argument)

end Menu

end LineLexer.CommandLine
