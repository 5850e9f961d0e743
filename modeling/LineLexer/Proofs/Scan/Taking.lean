import LineLexer.Proofs.Scan.Choice
import LineLexer.Proofs.Language.Numbering
import LineLexer.Proofs.Scan.Resumption

/-!
# Taking known tokens

Where the grammar says which rule is chosen next, it says what the next step of the scan
is.  Such steps are put together into a relation between two places of a line and the
tokens that the scan takes on its way from the one to the other.  Whatever comes after
these tokens is then the scan from the second place.
-/

namespace LineLexer

/-- The number of the class with the given base name. -/
def Language.classIndexOf (language : Language) (base : String) : ClassIndex :=
  Grammar.classIndexIn language.classes base

namespace Grammar

variable {grammar : Grammar} {reader : PatternReader} {language : Language}

theorem IsCompiled.classIndexOf_eq (isCompiled : grammar.IsCompiled reader language)
    {base : String} {index : ClassIndex} (isClass : grammar.IsClass base index) :
    language.classIndexOf base = index := by
  have isIndex : grammar.classTable.index? base = some index :=
    OrderedMap.position?_eq_some_iff.mpr isClass.baseName
  rw [Language.classIndexOf, isCompiled.classes_eq, classIndexIn, isIndex]
  rfl

theorem ChangesBy.unique {transition : Option Transition}
    {change other : Option StackChange} (changes : grammar.ChangesBy transition change)
    (changesOther : grammar.ChangesBy transition other) : change = other := by
  cases changes with
  | none => cases changesOther; rfl
  | push isPosition =>
      cases changesOther with
      | push isOther => rw [isPosition, Option.some.injEq] at isOther; rw [isOther]
  | pop => cases changesOther; rfl
  | popAll => cases changesOther; rfl

section Choices

variable {scanner : Scanner} {name : String} {entries : List Entry}
  (isTop : grammar.states.position? name = some scanner.stack.top)
  (isEntries : grammar.states.get? name = some entries)

include isTop isEntries

/-- Walking the entries of the innermost active state leads to the choice of the rule that
wins. -/
theorem IsCompiled.winner_eq_of_selects (isCompiled : grammar.IsCompiled reader language)
    {choice : Option (Action × Nat)}
    (selects : grammar.Selects reader scanner.rest entries choice) :
    (tryRules scanner.rest 0 (language.rules scanner.stack.top)).winner.map
      (fun winner => (winner.2.1.action, winner.2.2)) = choice := by
  obtain ⟨lexState, isLexState, compiles⟩ := isCompiled.exists_lexState isTop
  obtain ⟨placedRules, ⟨_, others, -, areOthers, splices⟩, related⟩ := compiles.rules
  obtain rfl : entries = others := Option.some.inj (isEntries.symm.trans areOthers)
  rw [Language.rules_of_getElem? isLexState, winner_tryRules_eq related 0]
  exact splices.selects.unique selects

/-- Where this choice is a rule, the next step takes the match of the rule. -/
theorem IsCompiled.exists_step_of_selects
    (isCompiled : grammar.IsCompiled reader language) {action : Action} {count : Nat}
    (selects : grammar.Selects reader scanner.rest entries (some (action, count))) :
    ∃ step change, scanner.step? language = some step ∧ step.rule.isSome ∧
      grammar.ChangesBy action.transition change ∧
      step.next = scanner.advance count (StackChange.apply change scanner.stack).1 ∧
      step.token = ⟨scanner.offset, step.next.offset,
        language.classIndexOf
        (grammar.emitted action.emission (String.ofList (scanner.rest.take count))).1,
        (grammar.emitted action.emission
          (String.ofList (scanner.rest.take count))).2⟩ := by
  have won := isCompiled.winner_eq_of_selects isTop isEntries selects
  obtain ⟨⟨number, rule, length⟩, isWinner, isChoice⟩ := Option.map_eq_some_iff.mp won
  obtain ⟨rfl, rfl⟩ := Prod.mk.inj isChoice
  obtain ⟨-, isRule, matched⟩ := tryRules_winner isWinner
  have nonempty : scanner.rest ≠ [] := by
    have positive : 0 < length := tryRules_winner_pos isWinner
    have fits := rule.pattern.le_length matched
    rw [← List.length_pos_iff]
    omega
  obtain ⟨placed, -, compilesRule⟩ :=
    isCompiled.exists_placedRule (List.mem_of_getElem? isRule)
  have emits := compilesRule.emits
  have changes := compilesRule.changes
  rw [← compilesRule.action_eq] at emits changes
  obtain ⟨isClass, side_eq⟩ :=
    emits.classify isCompiled (String.ofList (scanner.rest.take length))
  refine ⟨_, _, Scanner.step?_of_winner nonempty isWinner, rfl, changes, rfl, ?_⟩
  rw [isCompiled.classIndexOf_eq isClass, ← side_eq]
  rfl

theorem IsCompiled.step?_of_selects (isCompiled : grammar.IsCompiled reader language)
    {action : Action} {change : Option StackChange} {count : Nat}
    (selects : grammar.Selects reader scanner.rest entries (some (action, count)))
    (changes : grammar.ChangesBy action.transition change) :
    ∃ step, scanner.step? language = some step ∧ step.rule.isSome ∧
      step.next = scanner.advance count (StackChange.apply change scanner.stack).1 ∧
      step.token = ⟨scanner.offset, step.next.offset,
        language.classIndexOf
        (grammar.emitted action.emission (String.ofList (scanner.rest.take count))).1,
        (grammar.emitted action.emission
          (String.ofList (scanner.rest.take count))).2⟩ := by
  obtain ⟨step, _, isStep, isRule, changesStep, next_eq, token_eq⟩ :=
    isCompiled.exists_step_of_selects isTop isEntries selects
  obtain rfl := changes.unique changesStep
  exact ⟨step, isStep, isRule, next_eq, token_eq⟩

/-- Where there is no choice, the next step takes one character. -/
theorem IsCompiled.step?_of_selects_none (isCompiled : grammar.IsCompiled reader language)
    (nonempty : scanner.rest ≠ [])
    (selects : grammar.Selects reader scanner.rest entries none) :
    ∃ step, scanner.step? language = some step ∧ step.rule = none ∧
      step.next = scanner.advance 1 scanner.stack ∧
      step.token = ⟨scanner.offset, step.next.offset, language.defaultClass, none⟩ := by
  have lost := isCompiled.winner_eq_of_selects isTop isEntries selects
  exact ⟨_, Scanner.step?_of_no_winner nonempty (Option.map_eq_none_iff.mp lost),
    rfl, rfl, rfl⟩

end Choices

end Grammar

namespace Scanner

variable {language : Language}

/-- The scan takes some tokens on its way from one place to another. -/
inductive Takes (language : Language) : Scanner → List Token → Scanner → Prop where
  | nil {scanner : Scanner} : Takes language scanner [] scanner
  | cons {scanner last : Scanner} {step : Step} {tokens : List Token}
      (isStep : scanner.step? language = some step)
      (others : Takes language step.next tokens last) :
      Takes language scanner (step.token :: tokens) last

namespace Takes

variable {scanner middle last : Scanner} {tokens others : List Token}

theorem append (first : Takes language scanner tokens middle)
    (second : Takes language middle others last) :
    Takes language scanner (tokens ++ others) last := by
  induction first with
  | nil => exact second
  | cons isStep _ ih => exact .cons isStep (ih second)

/-- The tokens up to the end of the line are those that were taken and those of the scan
from there. -/
theorem tokens_steps (takes : Takes language scanner tokens last) :
    (scanner.steps language).map Step.token =
      tokens ++ (last.steps language).map Step.token := by
  induction takes with
  | nil => rfl
  | cons isStep _ ih =>
      rw [steps_of_step?_eq_some isStep, List.map_cons, ih, List.cons_append]

theorem finish_eq (takes : Takes language scanner tokens last) :
    scanner.finish language = last.finish language := by
  induction takes with
  | nil => rfl
  | cons isStep _ ih => rw [finish_of_step?_eq_some isStep, ih]

/-- A scan that is asked for as many tokens as were taken is at the place after them. -/
theorem afterCalls_eq (takes : Takes language scanner tokens last) :
    scanner.afterCalls language tokens.length = last := by
  induction takes with
  | nil => rfl
  | cons isStep _ ih =>
      rw [List.length_cons, afterCalls, next_of_step?_eq_some isStep, ih]

end Takes

end Scanner

/-- What is left of a line when some tokens have been taken is scanned as a line of its
own. -/
theorem Language.lexLine_of_takes {language : Language} {stack innerStack : ActiveStates}
    {line after : String} {tokens : List Token} {distance : Nat}
    (takes : Scanner.Takes language (.start line stack) tokens
      ⟨distance, after.toList, innerStack⟩) :
    language.lexLine stack line =
      ⟨tokens ++ (language.lexLine innerStack after).tokens.map (Token.shift distance),
        (language.lexLine innerStack after).endStack⟩ := by
  have place_eq : (⟨distance, after.toList, innerStack⟩ : Scanner) =
      (Scanner.start after innerStack).shift distance := rfl
  rw [place_eq] at takes
  have tokens_eq := takes.tokens_steps
  have stack_eq := takes.finish_eq
  rw [Scanner.steps_shift, List.map_map] at tokens_eq
  rw [Scanner.finish_shift] at stack_eq
  rw [tokens_lexLine, endStack_lexLine, ← stack_eq, List.map_map]
  exact congrArg (LexedLine.mk · _) tokens_eq

end LineLexer
