import LineLexer.Proofs.Scan.Lines

/-!
# Scanning does not look at origins

A rule of a language knows the state in whose own list it stands, for reports only.
Erasing this from all rules commutes with a step of the scan, so two languages that differ
in nothing else run every document alike.
-/

namespace LineLexer

/-- The rule without the state in which it stands. -/
def Rule.unplaced (rule : Rule) : Rule :=
  { rule with origin := 0 }

def LexState.unplaced (lexState : LexState) : LexState :=
  { lexState with rules := lexState.rules.map Rule.unplaced }

namespace Language

/-- The language without the states in which its rules stand. -/
def unplaced (language : Language) : Language :=
  { language with states := language.states.map LexState.unplaced }

variable {language : Language}

theorem rules_unplaced (language : Language) (state : StateIndex) :
    language.unplaced.rules state = (language.rules state).map Rule.unplaced := by
  rw [rules, rules, unplaced, Array.getElem?_map]
  cases language.states[state]? <;> rfl

theorem tryRules_map_unplaced (text : List Char) (index : Nat) (rules : List Rule) :
    tryRules text index (rules.map Rule.unplaced) =
      { skipped := (tryRules text index rules).skipped
        winner := (tryRules text index rules).winner.map
          fun winner => (winner.1, winner.2.1.unplaced, winner.2.2) } := by
  induction rules generalizing index with
  | nil => rfl
  | cons rule rules ih =>
      have pattern_eq : rule.unplaced.pattern = rule.pattern := rfl
      rw [List.map_cons, tryRules, tryRules, pattern_eq, ih]
      split <;> rfl

theorem step?_unplaced (language : Language) (scanner : Scanner) :
    scanner.step? language.unplaced = scanner.step? language := by
  rw [Scanner.step?, Scanner.step?, rules_unplaced, tryRules_map_unplaced]
  generalize tryRules scanner.rest 0 (language.rules scanner.stack.top) = trial
  obtain ⟨skipped, winner⟩ := trial
  cases winner <;> rfl

theorem steps_unplaced (language : Language) (scanner : Scanner) :
    scanner.steps language.unplaced = scanner.steps language := by
  induction scanner using Scanner.induction_on_steps language with
  | atEnd scanner noStep =>
      have noOther := (step?_unplaced language scanner).trans noStep
      rw [Scanner.steps_of_step?_eq_none noStep, Scanner.steps_of_step?_eq_none noOther]
  | atStep scanner step isStep ih =>
      have isOther := (step?_unplaced language scanner).trans isStep
      rw [Scanner.steps_of_step?_eq_some isStep,
        Scanner.steps_of_step?_eq_some isOther, ih]

theorem runLines_unplaced (language : Language) (stack : ActiveStates)
    (lines : List String) :
    language.unplaced.runLines stack lines = language.runLines stack lines := by
  induction lines generalizing stack with
  | nil => rfl
  | cons line lines ih =>
      have run_eq : language.unplaced.runLine stack line =
          language.runLine stack line := by
        rw [runLine, runLine, steps_unplaced]
      rw [runLines, runLines, run_eq, ih]

/-- Languages that differ only in where their rules stand run every document alike. -/
theorem runDocument_eq_of_unplaced_eq {other : Language}
    (same : other.unplaced = language.unplaced) (text : String) :
    other.runDocument text = language.runDocument text := by
  have stack_eq : other.initialStack = language.initialStack :=
    congrArg ActiveStates.single (congrArg Language.start same : other.unplaced.start = _)
  rw [runDocument, runDocument, ← runLines_unplaced other, ← runLines_unplaced language,
    same, stack_eq]

end Language

end LineLexer
