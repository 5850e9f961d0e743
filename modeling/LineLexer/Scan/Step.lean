import LineLexer.Language.Basic
import LineLexer.Text.LowerCase
import LineLexer.Token

/-!
# One step of the scan

At the cursor the rules of the innermost active state are tried in order on the rest of
the line.  The first that matches some text gives the next token and may change the stack;
rules that match the empty text are passed over.  When no rule matches, one character
becomes a token of the default class.  So each step takes at least one character, and the
scan of a line always ends.
-/

namespace LineLexer

/-- A place in a line that is being scanned. -/
structure Scanner where
  offset : Nat
  rest : List Char
  stack : ActiveStates
  deriving DecidableEq, Repr

/-- The outcome of trying the rules of a state in order: the numbers of those that matched
the empty text, and the one that won, with its number and the number of characters it
matched. -/
structure Trial where
  skipped : List Nat
  winner : Option (Nat × Rule × Nat)

/-- Tries rules in order, where `index` is the number of the first of them. -/
def tryRules (text : List Char) : (index : Nat) → List Rule → Trial
  | _, [] => ⟨[], none⟩
  | index, rule :: rules =>
      match rule.pattern.matchLength? text with
      | none => tryRules text (index + 1) rules
      | some 0 =>
          let trial := tryRules text (index + 1) rules
          { trial with skipped := index :: trial.skipped }
      | some (count + 1) => ⟨[], some (index, rule, count + 1)⟩

/-- What happened to the stack in a step.  Leaving all states counts as `popped` even
where there was none to leave. -/
inductive StackEvent where
  | pushed
  | popped
  deriving DecidableEq, Repr

/-- A step of the scan.  `skipped` has the numbers of the rules that matched the empty
text. -/
structure Step where
  state : StateIndex
  skipped : List Nat
  rule : Option Nat
  token : Token
  stackEvent : Option StackEvent
  next : Scanner
  deriving DecidableEq, Repr

namespace Language

/-- The entry of the bracket table for a text, with the side of the pair that it is. -/
def bracketOf? (language : Language) (text : String) : Option (ClassIndex × Side) :=
  language.brackets.findSome? fun entry =>
    if entry.opening = text then some (entry.classIndex, .opening)
    else if entry.closing = text then some (entry.classIndex, .closing)
    else none

def caseClass (language : Language) (table : CaseTable) (word : String) : ClassIndex :=
  let key := if language.ignoreCase then Text.lowerCase word else word
  (table.classOf[key]?).getD table.otherwise

/-- The class of a matched text and, for a bracket, its side. -/
def classify (language : Language) (classifier : Classifier) (text : String) :
    ClassIndex × Option Side :=
  match classifier with
  | .token index => (index, none)
  | .cases table => (language.caseClass table text, none)
  | .brackets =>
      match language.bracketOf? text with
      | some (index, side) => (index, some side)
      | none => (language.defaultClass, none)

end Language

/-- The stack after a change, and what to report.  Leaving the state at the bottom changes
nothing and is not reported; leaving all states is always reported. -/
def StackChange.apply (change : Option StackChange) (stack : ActiveStates) :
    ActiveStates × Option StackEvent :=
  match change with
  | none => (stack, none)
  | some (.push state) => (stack.push state, some .pushed)
  | some .pop =>
      match stack.pop? with
      | some (_, stack) => (stack, some .popped)
      | none => (stack, none)
  | some .popAll => (stack.popAll, some .popped)

namespace Scanner

def start (line : String) (stack : ActiveStates) : Scanner :=
  ⟨0, line.toList, stack⟩

/-- The place after taking some characters. -/
def advance (scanner : Scanner) (count : Nat) (stack : ActiveStates) : Scanner where
  offset := scanner.offset + Text.byteLength (scanner.rest.take count)
  rest := scanner.rest.drop count
  stack := stack

/-- The step that takes the match of a rule. -/
def takeMatch (language : Language) (scanner : Scanner) (skipped : List Nat) (index : Nat)
    (rule : Rule) (count : Nat) : Step :=
  let (classIndex, side) :=
    language.classify rule.classifier (String.ofList (scanner.rest.take count))
  let (stack, stackEvent) := StackChange.apply rule.change scanner.stack
  let next := scanner.advance count stack
  { state := scanner.stack.top
    skipped := skipped
    rule := some index
    token := ⟨scanner.offset, next.offset, classIndex, side⟩
    stackEvent := stackEvent
    next := next }

/-- The step that takes one character that no rule matches. -/
def takeUnmatched (language : Language) (scanner : Scanner) (skipped : List Nat) : Step :=
  let next := scanner.advance 1 scanner.stack
  { state := scanner.stack.top
    skipped := skipped
    rule := none
    token := ⟨scanner.offset, next.offset, language.defaultClass, none⟩
    stackEvent := none
    next := next }

/-- The next step, unless the scan has reached the end of the line. -/
def step? (language : Language) (scanner : Scanner) : Option Step :=
  if scanner.rest.isEmpty then none
  else
    let trial := tryRules scanner.rest 0 (language.rules scanner.stack.top)
    match trial.winner with
    | some (index, rule, count) =>
        some (scanner.takeMatch language trial.skipped index rule count)
    | none => some (scanner.takeUnmatched language trial.skipped)

theorem step?_eq_none_iff {language : Language} {scanner : Scanner} :
    scanner.step? language = none ↔ scanner.rest = [] := by
  rw [step?]
  split
  · rename_i isEmpty
    simpa using isEmpty
  · rename_i nonempty
    constructor
    · intro noStep
      simp only at noStep
      split at noStep <;> simp at noStep
    · intro isEmpty
      simp [isEmpty] at nonempty

theorem length_rest_advance {scanner : Scanner} {count : Nat} {stack : ActiveStates}
    (positive : 0 < count) (rest_nonempty : scanner.rest ≠ []) :
    (scanner.advance count stack).rest.length < scanner.rest.length := by
  have nonempty := List.length_pos_iff.mpr rest_nonempty
  simp only [advance, List.length_drop]
  omega

end Scanner

/-- A rule that wins matches at least one character. -/
theorem tryRules_winner_pos {text : List Char} {index : Nat} {rules : List Rule}
    {winner : Nat × Rule × Nat} (won : (tryRules text index rules).winner = some winner) :
    0 < winner.2.2 := by
  induction rules generalizing index with
  | nil => simp [tryRules] at won
  | cons rule rules ih =>
      rw [tryRules] at won
      split at won
      · exact ih won
      · exact ih won
      · simp only [Option.some.injEq] at won
        subst won
        exact Nat.succ_pos _

namespace Scanner

/-- Every step takes at least one character. -/
theorem length_rest_step {language : Language} {scanner : Scanner} {step : Step}
    (isStep : scanner.step? language = some step) :
    step.next.rest.length < scanner.rest.length := by
  rw [step?] at isStep
  split at isStep
  · exact absurd isStep (by simp)
  · rename_i nonempty
    have rest_nonempty : scanner.rest ≠ [] := by simpa using nonempty
    simp only at isStep
    split at isStep
    · rename_i index rule count won
      obtain rfl := Option.some.inj isStep
      exact length_rest_advance (tryRules_winner_pos won) rest_nonempty
    · obtain rfl := Option.some.inj isStep
      exact length_rest_advance Nat.one_pos rest_nonempty

end Scanner

end LineLexer
