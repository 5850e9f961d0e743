import LineLexer.Proofs.Scan.Steps
import LineLexer.Scan.Document

/-!
# Scanning several lines

Lines that are scanned one after the other hand on nothing but a stack.  So a list of
lines can be cut anywhere: the lines after the cut are scanned from the stack that the
lines before it leave.
-/

namespace LineLexer

/-- The stack that some lexed lines leave, where `stack` is the one that the first of them
started with. -/
def stackAfterLines (stack : ActiveStates) (lexed : List LexedLine) : ActiveStates :=
  (lexed.getLast?.map LexedLine.endStack).getD stack

@[simp]
theorem stackAfterLines_nil (stack : ActiveStates) : stackAfterLines stack [] = stack :=
  rfl

@[simp]
theorem stackAfterLines_cons (stack : ActiveStates) (first : LexedLine)
    (lexed : List LexedLine) :
    stackAfterLines stack (first :: lexed) = stackAfterLines first.endStack lexed := by
  cases lexed with
  | nil => rfl
  | cons second lexed => simp [stackAfterLines, List.getLast?_cons]

theorem stackAfterLines_append (stack : ActiveStates) (first second : List LexedLine) :
    stackAfterLines stack (first ++ second) =
      stackAfterLines (stackAfterLines stack first) second := by
  induction first generalizing stack with
  | nil => rfl
  | cons lexed first ih =>
      rw [List.cons_append, stackAfterLines_cons, stackAfterLines_cons, ih]

namespace Language

/-- Cuts lines into tokens, the first of them from the given stack. -/
def lexLines (language : Language) (stack : ActiveStates)
    (lines : List String) : List LexedLine :=
  (language.runLines stack lines).map LineRun.lexed

variable {language : Language} {stack : ActiveStates}

@[simp]
theorem lexLines_nil : language.lexLines stack [] = [] :=
  rfl

@[simp]
theorem lexLines_cons {line : String} {lines : List String} :
    language.lexLines stack (line :: lines) =
      language.lexLine stack line ::
        language.lexLines (language.lexLine stack line).endStack lines :=
  rfl

theorem lexDocument_eq_lexLines (text : String) :
    language.lexDocument text =
      language.lexLines language.initialStack (Text.documentLines text) :=
  rfl

theorem map_line_runLines {lines : List String} :
    (language.runLines stack lines).map LineRun.line = lines := by
  induction lines generalizing stack with
  | nil => rfl
  | cons line lines ih => exact congrArg (line :: ·) ih

/-- Beside each line of a document stands what the scan of this line has found. -/
theorem zip_documentLines_lexDocument (text : String) :
    (Text.documentLines text).zip (language.lexDocument text) =
      (language.runDocument text).map fun run => (run.line, run.lexed) := by
  have lines_eq : Text.documentLines text =
      (language.runDocument text).map LineRun.line :=
    map_line_runLines.symm
  rw [lines_eq, lexDocument, List.zip_map']

@[simp]
theorem length_lexLines {lines : List String} :
    (language.lexLines stack lines).length = lines.length := by
  induction lines generalizing stack with
  | nil => rfl
  | cons line lines ih => rw [lexLines_cons, List.length_cons, List.length_cons, ih]

theorem lexLines_append {first second : List String} :
    language.lexLines stack (first ++ second) =
      language.lexLines stack first ++
        language.lexLines (stackAfterLines stack (language.lexLines stack first))
          second := by
  induction first generalizing stack with
  | nil => rfl
  | cons line first ih =>
      rw [List.cons_append, lexLines_cons, lexLines_cons, stackAfterLines_cons,
        List.cons_append, ih]

/-- The first lines are scanned without regard to those after them. -/
theorem take_lexLines_append {first second : List String} :
    (language.lexLines stack (first ++ second)).take first.length =
      language.lexLines stack first := by
  rw [lexLines_append, List.take_left' length_lexLines]

end Language

end LineLexer
