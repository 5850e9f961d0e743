import LineLexer.CommandLine.Menu
import LineLexer.Report.TraceLog

/-!
# The commands

What the arguments of the program ask for.  The commands that read a source accept each
other's options, so that changing from one to the other means changing one word.
-/

namespace LineLexer.CommandLine

/-- When output is coloured; `auto` is when it goes to a terminal. -/
inductive ColorChoice where
  | auto
  | always
  | never
  deriving DecidableEq, Repr

namespace ColorChoice

/-- Whether output is coloured, where the choice alone decides. -/
def fixed? : ColorChoice → Option Bool
  | auto => none
  | always => some true
  | never => some false

/-- Whether output is coloured, when it goes to a terminal or does not. -/
def isColored (choice : ColorChoice) (toTerminal : Bool) : Bool :=
  choice.fixed?.getD toTerminal

end ColorChoice

/-- What a source is read from, and its language.  The path `-` is standard input. -/
structure SourceChoice where
  path : Option String
  text : Option String
  languageName : Option String
  deriving DecidableEq, Repr

/-- What the program is asked to do. -/
inductive Command where
  | tokens (source : SourceChoice) (showSpans merge asJson : Bool) (color : ColorChoice)
  | trace (source : SourceChoice) (verbosity : Nat) (color : ColorChoice)
  | dump (languageName : Option String) (color : ColorChoice)
  | config (languageName : Option String) (compact : Bool)
  | languageList
  deriving DecidableEq, Repr

/-- The verbosity that an option given so many times asks for. -/
def verbosityOf : Nat → Verbosity
  | 0 => .normal
  | 1 => .verbose
  | _ => .veryVerbose

namespace Command

/-- The source itself. -/
def sourceOption : OptionSpec := ⟨"source", some 's', some "source", .value []⟩

def languageOption : OptionSpec := ⟨"lang", some 'l', some "lang", .value []⟩

/-- When output is coloured. -/
def colorOption : OptionSpec :=
  ⟨"color", none, some "color", .value ["auto", "always", "never"]⟩

/-- Whether byte offsets are shown. -/
def spansOption : OptionSpec := ⟨"spans", none, some "spans", .flag⟩

/-- Whether runs of one class are merged. -/
def coalesceOption : OptionSpec := ⟨"coalesce", none, some "coalesce", .flag⟩

/-- Whether tokens are written as JSON. -/
def jsonOption : OptionSpec := ⟨"json", none, some "json", .flag⟩

/-- Whether JSON is written on one line. -/
def compactOption : OptionSpec := ⟨"compact", none, some "compact", .flag⟩

/-- How much a trace tells. -/
def verboseOption : OptionSpec := ⟨"verbose", some 'v', none, .count⟩

def tokensSpec : CommandSpec where
  options := [sourceOption, languageOption, spansOption, coalesceOption, jsonOption,
    colorOption, verboseOption, helpOption]
  takesPath := true
  pathConflicts := ["source"]

def traceSpec : CommandSpec where
  options := [sourceOption, languageOption, verboseOption, colorOption, spansOption,
    coalesceOption, jsonOption, helpOption]
  takesPath := true
  pathConflicts := ["source"]

def dumpSpec : CommandSpec := ⟨[languageOption, colorOption, helpOption], false, []⟩

def configSpec : CommandSpec := ⟨[languageOption, compactOption, helpOption], false, []⟩

/-- The choice of colours in the arguments. -/
def colorChoice (found : Matches) : ColorChoice :=
  match found.value? "color" with
  | some "always" => .always
  | some "never" => .never
  | _ => .auto

def sourceChoice (found : Matches) : SourceChoice :=
  ⟨found.path, found.value? "source", found.value? "lang"⟩

/-- The greatest number of times that an option is counted. -/
def countLimit : Nat := 255

def ofTokensMatches (found : Matches) : Command :=
  .tokens (sourceChoice found) (found.has "spans") (found.has "coalesce")
    (found.has "json") (colorChoice found)

def ofTraceMatches (found : Matches) : Command :=
  .trace (sourceChoice found) (min (found.count "verbose") countLimit) (colorChoice found)

def ofDumpMatches (found : Matches) : Command :=
  .dump (found.value? "lang") (colorChoice found)

def ofConfigMatches (found : Matches) : Command :=
  .config (found.value? "lang") (found.has "compact")

def menu : Menu Command :=
  .choice [
    ("tokens", .command tokensSpec ofTokensMatches),
    ("trace", .command traceSpec ofTraceMatches),
    ("dump", .command dumpSpec ofDumpMatches),
    ("config", .command configSpec ofConfigMatches),
    ("lang", .choice [("list", .command bareSpec fun _ => .languageList)])]

/-- The command that the program's arguments ask for. -/
def read (arguments : List String) : Except UsageError Command :=
  menu.read arguments

end Command

end LineLexer.CommandLine
