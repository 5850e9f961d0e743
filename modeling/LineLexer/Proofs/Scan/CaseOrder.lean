import LineLexer.Proofs.Scan.Reading
import LineLexer.Proofs.Scan.Resumption

/-!
# The order of the arms of a case table

A case table is written as a list of arms of which the first one whose guard holds should
apply.  The one look-up that a language makes of it keeps the order among the arms with
word sets and the order among the arms that always apply, but not the order between the
two kinds: a word of any set finds the class of its set, also where an arm that always
applies stands before it.  So the look-up does what the arms say once those that always
apply have been moved behind the others, and it departs from the written order exactly
where a set that is listed behind such an arm overtakes it with another class.
-/

namespace LineLexer

namespace Grammar

variable {grammar : Grammar} {reader : PatternReader}

def guardHolds (grammar : Grammar) (text : String) : Guard → Bool
  | .inSet setName => grammar.listsKey (grammar.wordKey text) (.inSet setName)
  | .otherwise => true

/-- The class of the first arm in written order whose guard holds for a text, or else the
default class. -/
def orderedClass (grammar : Grammar) (arms : List (Guard × String))
    (text : String) : String :=
  ((arms.find? fun arm => grammar.guardHolds text arm.1).map Prod.snd).getD
    grammar.defaultClass

/-- The arms with those that always apply behind those with word sets, the arms of each
kind in their order. -/
def setsFirst (arms : List (Guard × String)) : List (Guard × String) :=
  (arms.filter fun arm => arm.1 != .otherwise) ++ arms.filter fun arm =>
    arm.1 == .otherwise

/-- The first arm whose guard holds always applies and has the class `overtaken`, and of
the arms behind it the first whose set has the text has the class `given`. -/
def Overtakes (grammar : Grammar) (arms : List (Guard × String)) (text : String)
    (given overtaken : String) : Prop :=
  ∃ front back, arms = front ++ (.otherwise, overtaken) :: back ∧
    (∀ arm ∈ front, grammar.guardHolds text arm.1 = false) ∧
    grammar.wordClass? back (grammar.wordKey text) = some given

section Arms

variable {text : String} {guard : Guard} {className : String}
  {arms : List (Guard × String)}

theorem guardHolds_eq :
    grammar.guardHolds text guard =
      (grammar.listsKey (grammar.wordKey text) guard || guard == .otherwise) := by
  cases guard with
  | inSet setName => simp [guardHolds]
  | otherwise => simp [guardHolds]

/-- The look-up gives a text the class of the first arm whose guard holds, once the arms
that always apply have been moved behind the others. -/
theorem orderedClass_setsFirst :
    grammar.orderedClass (setsFirst arms) text = grammar.caseClass arms text := by
  have sets : (arms.filter fun arm => arm.1 != .otherwise).find?
      (fun arm => grammar.guardHolds text arm.1) =
        arms.find? fun arm => grammar.listsKey (grammar.wordKey text) arm.1 := by
    rw [List.find?_filter]
    congr 1
    funext arm
    cases arm.1 with
    | inSet setName => simp [guardHolds]
    | otherwise => simp [listsKey]
  have others : (arms.filter fun arm => arm.1 == .otherwise).find?
      (fun arm => grammar.guardHolds text arm.1) = arms.find? fun arm =>
        arm.1 == .otherwise := by
    rw [List.find?_filter]
    congr 1
    funext arm
    cases arm.1 <;> simp [guardHolds]
  rw [orderedClass, setsFirst, List.find?_append, sets, others, caseClass, wordClass?,
    otherwiseClass?]
  cases arms.find? fun arm => grammar.listsKey (grammar.wordKey text) arm.1 with
  | none => rfl
  | some arm => rfl

theorem orderedClass_cons :
    grammar.orderedClass ((guard, className) :: arms) text =
      if grammar.guardHolds text guard then className
      else grammar.orderedClass arms text := by
  rw [orderedClass, List.find?_cons]
  cases grammar.guardHolds text guard <;> rfl

theorem wordClass?_cons {key : String} :
    grammar.wordClass? ((guard, className) :: arms) key =
      if grammar.listsKey key guard then some className
      else grammar.wordClass? arms key := by
  rw [wordClass?, List.find?_cons]
  cases grammar.listsKey key guard <;> rfl

theorem caseClass_cons_of_not_holds (fails : grammar.guardHolds text guard = false) :
    grammar.caseClass ((guard, className) :: arms) text =
      grammar.caseClass arms text := by
  rw [guardHolds_eq, Bool.or_eq_false_iff] at fails
  have notOtherwise : otherwiseClass? ((guard, className) :: arms) =
      otherwiseClass? arms := by
    rw [otherwiseClass?, List.find?_cons, fails.2, otherwiseClass?]
  rw [caseClass, wordClass?_cons, fails.1, notOtherwise]
  rfl

theorem caseClass_cons_inSet {setName : String}
    (holds : grammar.guardHolds text (.inSet setName) = true) :
    grammar.caseClass ((.inSet setName, className) :: arms) text = className := by
  have isListed : grammar.listsKey (grammar.wordKey text) (.inSet setName) = true := holds
  rw [caseClass, wordClass?_cons, if_pos isListed]

theorem caseClass_cons_otherwise :
    grammar.caseClass ((.otherwise, className) :: arms) text =
      (grammar.wordClass? arms (grammar.wordKey text)).getD className := by
  rw [caseClass, wordClass?_cons, listsKey]
  cases grammar.wordClass? arms (grammar.wordKey text) <;> rfl

/-- Where an arm that always applies is overtaken, the look-up gives the class of the arm
behind it. -/
theorem Overtakes.classes {given overtaken : String}
    (overtakes : grammar.Overtakes arms text given overtaken) :
    grammar.caseClass arms text = given ∧ grammar.orderedClass arms text = overtaken := by
  obtain ⟨front, back, rfl, fails, isGiven⟩ := overtakes
  induction front with
  | nil =>
      rw [List.nil_append, caseClass_cons_otherwise, isGiven, orderedClass_cons]
      exact ⟨rfl, rfl⟩
  | cons arm front ih =>
      have fails_arm := fails arm List.mem_cons_self
      rw [List.cons_append, caseClass_cons_of_not_holds fails_arm, orderedClass_cons,
        fails_arm]
      exact ih fun arm member => fails arm (List.mem_cons_of_mem _ member)

/-- The look-up departs from the written order only where an arm that always applies is
overtaken. -/
theorem overtakes_of_ne
    (differ : grammar.caseClass arms text ≠ grammar.orderedClass arms text) :
    grammar.Overtakes arms text (grammar.caseClass arms text)
      (grammar.orderedClass arms text) := by
  induction arms with
  | nil => exact absurd rfl differ
  | cons arm arms ih =>
      obtain ⟨guard, className⟩ := arm
      cases holds : grammar.guardHolds text guard with
      | false =>
          rw [caseClass_cons_of_not_holds holds, orderedClass_cons, holds] at differ ⊢
          obtain ⟨front, back, parts, fails, isGiven⟩ := ih differ
          refine ⟨(guard, className) :: front, back, congrArg _ parts, ?_, isGiven⟩
          intro other member
          rcases List.mem_cons.mp member with rfl | member
          · exact holds
          · exact fails other member
      | true =>
          rw [orderedClass_cons, holds, if_pos rfl] at differ ⊢
          cases guard with
          | inSet setName => exact absurd (caseClass_cons_inSet holds) differ
          | otherwise =>
              rw [caseClass_cons_otherwise] at differ ⊢
              cases isGiven : grammar.wordClass? arms (grammar.wordKey text) with
              | none =>
                  rw [isGiven] at differ
                  exact absurd rfl differ
              | some given => exact ⟨[], arms, rfl, by simp, isGiven⟩

/-- The look-up gives a text the class that the written order gives it, unless an arm that
always applies is overtaken by a set with another class. -/
theorem caseClass_eq_orderedClass_iff :
    grammar.caseClass arms text = grammar.orderedClass arms text ↔
      ∀ given overtaken, grammar.Overtakes arms text given overtaken →
        given = overtaken := by
  constructor
  · intro same given overtaken overtakes
    obtain ⟨rfl, rfl⟩ := overtakes.classes
    exact same
  · intro alike
    by_contra differ
    exact differ (alike _ _ (overtakes_of_ne differ))

end Arms

variable {language : Language}

/-- In a compiled language a case table gives every text that its rule matches the class
of the first arm whose guard holds, once the arms that always apply have been moved behind
those with word sets.  This is the class that the written order gives the text, unless an
arm that always applies is overtaken by a later set with another class. -/
theorem baseName_of_cases (compiled : grammar.compile reader = .ok language)
    {stack : ActiveStates} {line : String} {step : Step}
    (member : step ∈ (language.runLine stack line).steps) {number : Nat} {rule : Rule}
    {arms : List (Guard × String)} (byRule : step.rule = some number)
    (isRule : (language.rules step.state)[number]? = some rule)
    (isCases : rule.action.emission = .cases arms) :
    language.baseName step.token.classIndex =
        grammar.orderedClass (setsFirst arms) (step.token.text line) ∧
      (language.baseName step.token.classIndex =
          grammar.orderedClass arms (step.token.text line) ↔
        ∀ given overtaken, grammar.Overtakes arms (step.token.text line) given overtaken →
          given = overtaken) := by
  have isCompiled := isCompiled_of_compile compiled
  obtain ⟨place, liesIn, isStep⟩ :=
    (Scanner.start_liesIn line stack).exists_of_mem_steps member
  suffices isGiven : language.baseName step.token.classIndex =
      grammar.caseClass arms (step.token.text line) by
    rw [isGiven]
    exact ⟨orderedClass_setsFirst.symm, caseClass_eq_orderedClass_iff⟩
  obtain ⟨-, matched | unmatched⟩ := Scanner.step_cases isStep
  · obtain ⟨skipped, index, winning, count, tried, rfl⟩ := matched
    obtain ⟨-, isWinning, -⟩ := tryRules_winner (congrArg Trial.winner tried)
    obtain rfl : index = number := Option.some.inj byRule
    obtain rfl : winning = rule := Option.some.inj (isWinning.symm.trans isRule)
    obtain ⟨placed, -, compiles⟩ :=
      isCompiled.exists_placedRule (List.mem_of_getElem? isRule)
    have emits : grammar.EmitsBy winning.action.emission winning.classifier :=
      compiles.action_eq ▸ compiles.emits
    rw [isCases] at emits
    rw [liesIn.text_takeMatch]
    exact isCompiled.baseName_eq (emits.classify isCompiled _).1
  · obtain ⟨skipped, -, rfl⟩ := unmatched
    exact absurd byRule (by simp [Scanner.takeUnmatched])

/-- The arms of a case table that lists a word set behind an arm that always applies. -/
def lateKeywordArms : List (Guard × String) :=
  [(.otherwise, "identifier"), (.inSetNamed "kw", "keyword")]

def lateKeywords : Grammar :=
  let base : Grammar := { name := "x" }
  base
    |>.addWordSet "kw" ["let"]
    |>.addState "root" [.rule "[a-z]+" (.ofCases lateKeywordArms)]

/-- The word of the set becomes a keyword, although by the order of the arms it is an
identifier. -/
theorem lateKeywords_overtaken :
    lateKeywords.compile.toOption.map (fun language =>
        (language.lexLine language.initialStack "let").tokens.map language.namedToken) =
      some [⟨0, 3, "keyword", none⟩] ∧
    lateKeywords.orderedClass lateKeywordArms "let" = "identifier" := by
  decide +kernel

/-- The word of the set has the class that it has with the arm that always applies at the
end. -/
theorem lateKeywords_setsFirst :
    ∃ language, lateKeywords.compile = .ok language ∧
      ∃ step ∈ (language.runLine language.initialStack "let").steps,
        language.baseName step.token.classIndex =
            lateKeywords.orderedClass (setsFirst lateKeywordArms)
              (step.token.text "let") ∧
          step.token.text "let" = "let" := by
  have compiles : lateKeywords.compile.toOption.isSome = true := by decide +kernel
  obtain ⟨language, isLanguage⟩ := Option.isSome_iff_exists.mp compiles
  have compiled := toOption_eq_some_iff.mp isLanguage
  have evaluated : lateKeywords.compile.toOption.map (fun language =>
      ((language.runLine language.initialStack "let").steps,
        (language.rules 0)[0]?.map fun rule => rule.action.emission)) =
      some ([⟨0, [], some 0, ⟨0, 3, 2, none⟩, none, ⟨3, [], .single 0⟩⟩],
        some (.cases lateKeywordArms)) := by
    decide +kernel
  rw [isLanguage] at evaluated
  obtain ⟨areSteps, isEmission⟩ := Prod.mk.inj (Option.some.inj evaluated)
  obtain ⟨rule, isRule, isCases⟩ := Option.map_eq_some_iff.mp isEmission
  refine ⟨language, compiled, _, areSteps ▸ List.mem_singleton_self _, ?_, by decide⟩
  exact (baseName_of_cases compiled
    (areSteps ▸ List.mem_singleton_self _) rfl isRule isCases).1

end Grammar

end LineLexer
