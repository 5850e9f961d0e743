import LineLexer.Proofs.Pattern.Bounds
import LineLexer.Scan.Line

/-!
# What a step of the scan can do

A step takes the match of the first rule that matches some text, or one character if there
is no such rule.  The facts about trying rules and about single steps that stand here are
all that is needed of their definitions; what a whole scan does follows from them by
induction over its steps.
-/

namespace LineLexer

/-- The rule that wins is one of the rules that were tried, and it matches some of the
text. -/
theorem tryRules_winner {text : List Char} {index number count : Nat} {rules : List Rule}
    {rule : Rule}
    (won : (tryRules text index rules).winner = some (number, rule, count)) :
    index ≤ number ∧ rules[number - index]? = some rule ∧
      rule.pattern.matchLength? text = some count := by
  induction rules generalizing index with
  | nil => simp [tryRules] at won
  | cons first rules ih =>
      -- The two ways to pass over the first rule leave the same facts about the others.
      have of_tail (won : (tryRules text (index + 1) rules).winner =
          some (number, rule, count)) :
          index ≤ number ∧ (first :: rules)[number - index]? = some rule ∧
            rule.pattern.matchLength? text = some count := by
        obtain ⟨after, isRule, matched⟩ := ih won
        refine ⟨by omega, ?_, matched⟩
        rw [show number - index = (number - (index + 1)) + 1 by omega,
          List.getElem?_cons_succ]
        exact isRule
      rw [tryRules] at won
      split at won
      · exact of_tail won
      · exact of_tail won
      · rename_i length matched
        simp only [Option.some.injEq, Prod.mk.injEq] at won
        obtain ⟨rfl, rfl, rfl⟩ := won
        exact ⟨Nat.le_refl _, by simp, matched⟩

/-- The rules that were passed over are among the rules that were tried, and they match
the empty text. -/
theorem tryRules_skipped {text : List Char} {index number : Nat} {rules : List Rule}
    (passed : number ∈ (tryRules text index rules).skipped) :
    index ≤ number ∧ ∃ rule, rules[number - index]? = some rule ∧
      rule.pattern.matchLength? text = some 0 := by
  induction rules generalizing index with
  | nil => simp [tryRules] at passed
  | cons first rules ih =>
      have of_tail (passed : number ∈ (tryRules text (index + 1) rules).skipped) :
          index ≤ number ∧ ∃ rule, (first :: rules)[number - index]? = some rule ∧
            rule.pattern.matchLength? text = some 0 := by
        obtain ⟨after, rule, isRule, matched⟩ := ih passed
        refine ⟨by omega, rule, ?_, matched⟩
        rw [show number - index = (number - (index + 1)) + 1 by omega,
          List.getElem?_cons_succ]
        exact isRule
      rw [tryRules] at passed
      split at passed
      · exact of_tail passed
      · rename_i matched
        rcases List.mem_cons.mp passed with rfl | passed
        · exact ⟨Nat.le_refl _, first, by simp, matched⟩
        · exact of_tail passed
      · simp at passed

namespace Scanner

/-- Everything that a step can be: the match of the rule that wins, or one character if no
rule does. -/
theorem step_cases {language : Language} {scanner : Scanner} {step : Step}
    (isStep : scanner.step? language = some step) :
    scanner.rest ≠ [] ∧
      ((∃ skipped index rule count,
          tryRules scanner.rest 0 (language.rules scanner.stack.top) =
              ⟨skipped, some (index, rule, count)⟩ ∧
            step = scanner.takeMatch language skipped index rule count) ∨
        ∃ skipped,
          tryRules scanner.rest 0 (language.rules scanner.stack.top) = ⟨skipped, none⟩ ∧
            step = scanner.takeUnmatched language skipped) := by
  rw [step?] at isStep
  split at isStep
  · exact absurd isStep (by simp)
  · rename_i nonempty
    refine ⟨by simpa using nonempty, ?_⟩
    cases tried : tryRules scanner.rest 0 (language.rules scanner.stack.top) with
    | mk skipped winner =>
        rw [tried] at isStep
        cases winner with
        | none => exact Or.inr ⟨skipped, rfl, (Option.some.inj isStep).symm⟩
        | some winner =>
            obtain ⟨index, rule, count⟩ := winner
            exact Or.inl ⟨skipped, index, rule, count, rfl, (Option.some.inj isStep).symm⟩

theorem step?_of_winner {language : Language} {scanner : Scanner} {number count : Nat}
    {rule : Rule} (nonempty : scanner.rest ≠ [])
    (won : (tryRules scanner.rest 0 (language.rules scanner.stack.top)).winner =
      some (number, rule, count)) :
    scanner.step? language = some (scanner.takeMatch language
      (tryRules scanner.rest 0 (language.rules scanner.stack.top)).skipped number rule
        count) := by
  rw [step?, if_neg (by simpa using nonempty)]
  simp only [won]

theorem step?_of_no_winner {language : Language} {scanner : Scanner}
    (nonempty : scanner.rest ≠ [])
    (lost : (tryRules scanner.rest 0 (language.rules scanner.stack.top)).winner = none) :
    scanner.step? language = some (scanner.takeUnmatched language
      (tryRules scanner.rest 0 (language.rules scanner.stack.top)).skipped) := by
  rw [step?, if_neg (by simpa using nonempty)]
  simp only [lost]

/-- A step advances by some of the characters after the cursor, and its token spans just
these. -/
theorem step_advances {language : Language} {scanner : Scanner} {step : Step}
    (isStep : scanner.step? language = some step) :
    ∃ count, 0 < count ∧ count ≤ scanner.rest.length ∧
      step.next = scanner.advance count step.next.stack ∧
      step.token.start = scanner.offset ∧ step.token.stop = step.next.offset := by
  obtain ⟨nonempty, matched | unmatched⟩ := step_cases isStep
  · obtain ⟨skipped, index, rule, count, tried, rfl⟩ := matched
    have won : (tryRules scanner.rest 0 (language.rules scanner.stack.top)).winner =
        some (index, rule, count) := by
      rw [tried]
    obtain ⟨_, _, matched⟩ := tryRules_winner won
    exact ⟨count, tryRules_winner_pos won, rule.pattern.le_length matched, rfl, rfl, rfl⟩
  · obtain ⟨skipped, -, rfl⟩ := unmatched
    exact ⟨1, Nat.one_pos, List.length_pos_iff.mpr nonempty, rfl, rfl, rfl⟩

/-- The stack after a step is the one before it, changed as some rule of the innermost
active state says or not changed at all. -/
theorem exists_change_of_step {language : Language} {scanner : Scanner} {step : Step}
    (isStep : scanner.step? language = some step) :
    ∃ change, step.next.stack = (StackChange.apply change scanner.stack).1 ∧
      ∀ state, change = some (.push state) →
        ∃ rule ∈ language.rules scanner.stack.top, rule.change = some (.push state) := by
  obtain ⟨-, matched | unmatched⟩ := step_cases isStep
  · obtain ⟨skipped, number, rule, count, tried, rfl⟩ := matched
    obtain ⟨-, isRule, -⟩ := tryRules_winner (congrArg Trial.winner tried)
    exact ⟨rule.change, rfl, fun state isPush =>
      ⟨rule, List.mem_of_getElem? isRule, isPush⟩⟩
  · obtain ⟨skipped, -, rfl⟩ := unmatched
    exact ⟨none, rfl, by simp⟩

theorem steps_of_step?_eq_none {language : Language} {scanner : Scanner}
    (noStep : scanner.step? language = none) : scanner.steps language = [] := by
  rw [steps]
  split
  · rfl
  · rename_i step isStep
    rw [noStep] at isStep
    exact absurd isStep (by simp)

theorem steps_of_step?_eq_some {language : Language} {scanner : Scanner} {step : Step}
    (isStep : scanner.step? language = some step) :
    scanner.steps language = step :: step.next.steps language := by
  rw [steps]
  split
  · rename_i noStep
    rw [noStep] at isStep
    exact absurd isStep (by simp)
  · rename_i other isOther
    rw [isOther] at isStep
    obtain rfl := Option.some.inj isStep
    rfl

/-- What holds at the end of every line, and before a step whenever it holds after the
step, holds at every place of every line. -/
theorem induction_on_steps (language : Language) {motive : Scanner → Prop}
    (atEnd : ∀ scanner : Scanner, scanner.step? language = none → motive scanner)
    (atStep : ∀ (scanner : Scanner) (step : Step), scanner.step? language = some step →
      motive step.next → motive scanner)
    (scanner : Scanner) : motive scanner := by
  cases isStep : scanner.step? language with
  | none => exact atEnd scanner isStep
  | some step =>
      exact atStep scanner step isStep
        (induction_on_steps language atEnd atStep step.next)
termination_by scanner.rest.length
decreasing_by exact length_rest_step isStep

@[simp]
theorem stackAfter_nil (stack : ActiveStates) : stackAfter stack [] = stack :=
  rfl

@[simp]
theorem stackAfter_cons (stack : ActiveStates) (step : Step) (steps : List Step) :
    stackAfter stack (step :: steps) = stackAfter step.next.stack steps := by
  cases steps with
  | nil => rfl
  | cons second steps => simp [stackAfter, List.getLast?_cons]

theorem finish_of_step?_eq_none {language : Language} {scanner : Scanner}
    (noStep : scanner.step? language = none) :
    scanner.finish language = scanner.stack := by
  rw [finish, steps_of_step?_eq_none noStep, stackAfter_nil]

theorem finish_of_step?_eq_some {language : Language} {scanner : Scanner} {step : Step}
    (isStep : scanner.step? language = some step) :
    scanner.finish language = step.next.finish language := by
  rw [finish, steps_of_step?_eq_some isStep, stackAfter_cons, finish]

end Scanner

theorem Language.tokens_lexLine (language : Language) (stack : ActiveStates)
    (line : String) :
    (language.lexLine stack line).tokens =
      ((Scanner.start line stack).steps language).map Step.token :=
  rfl

theorem Language.endStack_lexLine (language : Language) (stack : ActiveStates)
    (line : String) :
    (language.lexLine stack line).endStack = (Scanner.start line stack).finish language :=
  rfl

end LineLexer
