import LineLexer.Proofs.Pattern.CaseClosure
import LineLexer.Proofs.Scan.Reading
import LineLexer.Proofs.Scan.Resumption

/-!
# Languages that ignore case

Where case is ignored, two lines that differ in the case of ASCII letters are scanned in
the same steps: the same rules match equally much, and the stack changes in the same way.
The tokens are the same too, with one exception.  A word is put into lower case before it
is looked up in a case table, but it is looked up as it stands in the bracket table.  So a
token of a bracket rule has the same class and side in both lines exactly if the table
does not tell its two spellings apart.
-/

namespace LineLexer

attribute [ext] Token

/-- The places have the same offset and stack, and the texts after them differ in the case
of ASCII letters at most. -/
structure Scanner.SameUpToCase (first second : Scanner) : Prop where
  offset_eq : first.offset = second.offset
  stack_eq : first.stack = second.stack
  rest : Text.SameUpToCase first.rest second.rest

namespace Language

/-- The language looks words up without regard to case, and so do its patterns match. -/
structure IgnoresCase (language : Language) : Prop where
  ofWords : language.ignoreCase = true
  ofPatterns : ∀ state, ∀ rule ∈ language.rules state, rule.pattern.IgnoresCase

/-- The rule of a step looks the text of its token up in the bracket table, and the table
gives another class or side to the text at the same place of another line. -/
def TellsApart (language : Language) (line other : String) (step : Step) : Prop :=
  ∃ number rule, step.rule = some number ∧
    (language.rules step.state)[number]? = some rule ∧
    rule.classifier = .brackets ∧
    language.classify .brackets (step.token.text line) ≠
      language.classify .brackets (step.token.text other)

/-- A step of a line and the step at the same place of another line.  They have everything
in common but the class and side of a token for which the bracket table tells the two
texts apart. -/
structure Corresponds (language : Language) (line other : String)
    (step counterpart : Step) : Prop where
  state_eq : step.state = counterpart.state
  skipped_eq : step.skipped = counterpart.skipped
  rule_eq : step.rule = counterpart.rule
  start_eq : step.token.start = counterpart.token.start
  stop_eq : step.token.stop = counterpart.token.stop
  stackEvent_eq : step.stackEvent = counterpart.stackEvent
  stack_eq : step.next.stack = counterpart.next.stack
  token_eq_iff : step.token = counterpart.token ↔ ¬language.TellsApart line other step

variable {language : Language}

theorem IgnoresCase.classify_eq (ignores : language.IgnoresCase)
    {first second : List Char} (same : Text.SameUpToCase first second)
    {classifier : Classifier} (noBrackets : classifier ≠ .brackets) :
    language.classify classifier (String.ofList first) =
      language.classify classifier (String.ofList second) := by
  cases classifier with
  | token index => rfl
  | brackets => exact absurd rfl noBrackets
  | cases table =>
      rw [classify, classify, caseClass, caseClass, ignores.ofWords]
      simp only [↓reduceIte, same.lowerCase_eq]

theorem tryRules_eq_of_sameUpToCase {first second : List Char}
    (same : Text.SameUpToCase first second) {rules : List Rule}
    (ignore : ∀ rule ∈ rules, rule.pattern.IgnoresCase) (index : Nat) :
    tryRules first index rules = tryRules second index rules := by
  induction rules generalizing index with
  | nil => rfl
  | cons rule rules ih =>
      rw [List.forall_mem_cons] at ignore
      rw [tryRules, tryRules, ignore.1 first second same, ih ignore.2]

end Language

namespace Scanner

variable {language : Language} {first second : Scanner}

theorem SameUpToCase.advance (same : first.SameUpToCase second) (count : Nat)
    {stack otherStack : ActiveStates} (stack_eq : stack = otherStack) :
    (first.advance count stack).SameUpToCase (second.advance count otherStack) where
  offset_eq := by
    rw [Scanner.advance, Scanner.advance, same.offset_eq,
      (same.rest.take count).byteLength_eq]
  stack_eq := stack_eq
  rest := same.rest.drop count

/-- Matches of one rule at the same place of two lines that differ in case correspond to
each other. -/
theorem SameUpToCase.corresponds_takeMatch (ignores : language.IgnoresCase)
    (same : first.SameUpToCase second) {line other : String} (inLine : first.LiesIn line)
    (inOther : second.LiesIn other) (skipped : List Nat) {number : Nat} {rule : Rule}
    (isRule : (language.rules first.stack.top)[number]? = some rule) (count : Nat) :
    language.Corresponds line other (first.takeMatch language skipped number rule count)
      (second.takeMatch language skipped number rule count) := by
  let step := first.takeMatch language skipped number rule count
  let counterpart := second.takeMatch language skipped number rule count
  have stack_eq : step.next.stack = counterpart.next.stack :=
    congrArg (fun stack => (StackChange.apply rule.change stack).1) same.stack_eq
  have start_eq : step.token.start = counterpart.token.start := same.offset_eq
  have stop_eq : step.token.stop = counterpart.token.stop :=
    (same.advance count stack_eq).offset_eq
  have text_eq : step.token.text line = String.ofList (first.rest.take count) :=
    inLine.text_takeMatch language skipped number rule count
  have otherText_eq : step.token.text other = String.ofList (second.rest.take count) := by
    rw [← inOther.text_takeMatch language skipped number rule count, Token.text,
      Token.text, start_eq, stop_eq]
  have token_eq_iff : step.token = counterpart.token ↔
      language.classify rule.classifier (String.ofList (first.rest.take count)) =
        language.classify rule.classifier (String.ofList (second.rest.take count)) := by
    rw [Token.ext_iff, Prod.ext_iff]
    exact ⟨fun tokens => tokens.2.2, fun classes => ⟨start_eq, stop_eq, classes⟩⟩
  refine ⟨congrArg ActiveStates.top same.stack_eq, rfl, rfl, start_eq, stop_eq,
    congrArg (fun stack => (StackChange.apply rule.change stack).2) same.stack_eq,
    stack_eq, ?_⟩
  -- The number of the step and its state determine the rule, so only this rule can tell
  -- the texts apart.
  refine token_eq_iff.trans ⟨?_, fun notApart => ?_⟩
  · rintro sameClass ⟨otherNumber, otherRule, byRule, isOther, isBrackets, differ⟩
    obtain rfl : number = otherNumber := Option.some.inj byRule
    obtain rfl : rule = otherRule := Option.some.inj (isRule.symm.trans isOther)
    rw [text_eq, otherText_eq, ← isBrackets] at differ
    exact differ sameClass
  · by_cases isBrackets : rule.classifier = .brackets
    · by_contra differ
      refine notApart ⟨number, rule, rfl, isRule, isBrackets, ?_⟩
      rwa [text_eq, otherText_eq, ← isBrackets]
    · exact ignores.classify_eq (same.rest.take count) isBrackets

theorem SameUpToCase.corresponds_takeUnmatched (same : first.SameUpToCase second)
    (line other : String) (skipped : List Nat) :
    language.Corresponds line other (first.takeUnmatched language skipped)
      (second.takeUnmatched language skipped) := by
  have offset_eq := (same.advance 1 same.stack_eq).offset_eq
  refine ⟨congrArg ActiveStates.top same.stack_eq, rfl, rfl, same.offset_eq,
    offset_eq, rfl, same.stack_eq, ?_⟩
  refine iff_of_true ?_ ?_
  · exact Token.ext same.offset_eq offset_eq rfl rfl
  · rintro ⟨number, rule, byRule, -⟩
    cases byRule

/-- What holds before a step of a line holds after it, and the step at the same place of
the other line corresponds to it. -/
theorem SameUpToCase.step (ignores : language.IgnoresCase)
    (same : first.SameUpToCase second) {line other : String} (inLine : first.LiesIn line)
    (inOther : second.LiesIn other) {step : Step}
    (isStep : first.step? language = some step) :
    ∃ counterpart, second.step? language = some counterpart ∧
      language.Corresponds line other step counterpart ∧
      step.next.SameUpToCase counterpart.next := by
  have triedAlike : tryRules first.rest 0 (language.rules first.stack.top) =
      tryRules second.rest 0 (language.rules second.stack.top) := by
    rw [Language.tryRules_eq_of_sameUpToCase same.rest (ignores.ofPatterns _),
      same.stack_eq]
  obtain ⟨nonempty, matched | unmatched⟩ := step_cases isStep
  · have otherNonempty : second.rest ≠ [] := same.rest.eq_nil_iff.not.mp nonempty
    obtain ⟨skipped, number, rule, count, tried, rfl⟩ := matched
    obtain ⟨-, isRule, -⟩ := tryRules_winner (congrArg Trial.winner tried)
    have corresponds :=
      same.corresponds_takeMatch ignores inLine inOther skipped isRule count
    rw [triedAlike] at tried
    have isCounterpart := step?_of_winner otherNonempty (congrArg Trial.winner tried)
    rw [tried] at isCounterpart
    exact ⟨_, isCounterpart, corresponds, same.advance count corresponds.stack_eq⟩
  · have otherNonempty : second.rest ≠ [] := same.rest.eq_nil_iff.not.mp nonempty
    obtain ⟨skipped, tried, rfl⟩ := unmatched
    rw [triedAlike] at tried
    have isCounterpart := step?_of_no_winner otherNonempty (congrArg Trial.winner tried)
    rw [tried] at isCounterpart
    exact ⟨_, isCounterpart, same.corresponds_takeUnmatched line other skipped,
      same.advance 1 same.stack_eq⟩

/-- From two such places to the ends of their lines the steps correspond to each other. -/
theorem SameUpToCase.steps (ignores : language.IgnoresCase)
    (same : first.SameUpToCase second) {line other : String} (inLine : first.LiesIn line)
    (inOther : second.LiesIn other) :
    List.Forall₂ (language.Corresponds line other) (first.steps language)
      (second.steps language) ∧
      first.finish language = second.finish language := by
  induction first using induction_on_steps language generalizing second with
  | atEnd first noStep =>
      have otherNoStep : second.step? language = none :=
        step?_eq_none_iff.mpr (same.rest.eq_nil_iff.mp (step?_eq_none_iff.mp noStep))
      rw [steps_of_step?_eq_none noStep, steps_of_step?_eq_none otherNoStep,
        finish_of_step?_eq_none noStep, finish_of_step?_eq_none otherNoStep]
      exact ⟨.nil, same.stack_eq⟩
  | atStep first step isStep ih =>
      obtain ⟨counterpart, isCounterpart, corresponds, sameAfter⟩ :=
        same.step ignores inLine inOther isStep
      obtain ⟨others, finish_eq⟩ :=
        ih sameAfter (inLine.step isStep) (inOther.step isCounterpart)
      rw [steps_of_step?_eq_some isStep, steps_of_step?_eq_some isCounterpart,
        finish_of_step?_eq_some isStep, finish_of_step?_eq_some isCounterpart]
      exact ⟨.cons corresponds others, finish_eq⟩

end Scanner

section Lines

variable {language : Language} {line other : String}

/-- If no rule looks words up in the bracket table, lines that differ in case have the
same tokens. -/
theorem Language.IgnoresCase.lexLine_eq (ignores : language.IgnoresCase)
    (noBrackets : ∀ state, ∀ rule ∈ language.rules state, rule.classifier ≠ .brackets)
    (stack : ActiveStates) (same : Text.SameUpToCase line.toList other.toList) :
    language.lexLine stack line = language.lexLine stack other := by
  have sameStart : (Scanner.start line stack).SameUpToCase (.start other stack) :=
    ⟨rfl, rfl, same⟩
  obtain ⟨correspond, finish_eq⟩ :=
    sameStart.steps ignores (Scanner.start_liesIn line stack)
      (Scanner.start_liesIn other stack)
  have notApart (step : Step) : ¬language.TellsApart line other step := by
    rintro ⟨number, rule, -, isRule, isBrackets, -⟩
    exact noBrackets step.state rule (List.mem_of_getElem? isRule) isBrackets
  refine LexedLine.mk.injEq _ _ _ _ |>.mpr ⟨?_, finish_eq⟩
  rw [← List.forall₂_eq_eq_eq, List.forall₂_map_left_iff, List.forall₂_map_right_iff]
  exact correspond.imp fun step counterpart corresponds =>
    corresponds.token_eq_iff.mpr (notApart step)

end Lines

namespace Grammar

variable {grammar : Grammar} {language : Language}

end Grammar

end LineLexer
