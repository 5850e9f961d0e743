import LineLexer.Proofs.Language.Defects
import LineLexer.Proofs.Language.Numbering

/-!
# References to states

A state is referred to by name as the start state, in pushes and includes, and by looking
it up in the language.  The leading `@` that a name may be written with is dropped once
where a state is declared, given as the start state or looked up.  In pushes and includes
it is dropped when the reference is written and again when it is compiled, so that a name
with two of them leads to another state, or to none.
-/

namespace LineLexer

theorem plainName_eq_self_iff {name : String} :
    plainName name = name ↔ name.toList.head? ≠ some '@' := by
  rw [plainName]
  split
  · rename_i rest isName
    have shorter : String.ofList rest ≠ name := by
      intro same
      have toList_eq := congrArg String.toList same
      rw [String.toList_ofList, isName] at toList_eq
      simp at toList_eq
    simp [isName, shorter]
  · rename_i noAt
    simp only [true_iff]
    intro isAt
    obtain ⟨rest, isName⟩ := List.head?_eq_some_iff.mp isAt
    exact noAt rest isName

/-- The state that a defect reports as undefined. -/
def Defect.undefinedState? : Defect → Option String
  | missingState state => some state
  | unknownInclude _ includedState => some includedState
  | unknownPushTarget _ _ target => some target
  | _ => none

namespace Grammar

variable {grammar : Grammar} {reader : PatternReader} {language : Language}

theorem HasDefect.notMem_keys {defect : Defect}
    (hasDefect : grammar.HasDefect reader defect) {missing : String}
    (isMissing : defect.undefinedState? = some missing) :
    missing ∉ grammar.states.keys := by
  cases hasDefect with
  | missingState undeclared => exact Option.some.inj isMissing ▸ undeclared
  | unknownInclude _ undeclared => exact Option.some.inj isMissing ▸ undeclared
  | unknownPushTarget _ _ undeclared => exact Option.some.inj isMissing ▸ undeclared
  | tooManyStates | invalidBracket | includeCycle | invalidPattern | missingBrackets
  | unknownWordSet => cases isMissing

/-- `rules` are compiled from the entries of a state with the given number and name. -/
def RulesOf (grammar : Grammar) (reader : PatternReader) (origin : StateIndex)
    (originName : String) (entries : List Entry) (rules : List Rule) : Prop :=
  ∃ placedRules, grammar.Splices origin originName entries placedRules ∧
    placedRules.mapM (grammar.compileRule reader grammar.classTable) = .ok rules

theorem exists_compiledRules (compiled : grammar.compile reader = .ok language)
    {name : String} {state : StateIndex} (isState : language.IsState grammar name state) :
    ∃ placedRules, grammar.StandsFor name placedRules ∧
      placedRules.mapM (grammar.compileRule reader grammar.classTable) =
        .ok (language.rules state) := by
  have sizeLe := (isCompiled_of_compile compiled).size_le
  obtain ⟨isKey, name_eq⟩ := List.getElem?_eq_some_iff.mp isState.isDeclared
  obtain ⟨-, related⟩ := List.forall₂_iff_get.mp (compileState_of_compile compiled)
  have isLexState := related state isKey isState.lt_size
  obtain ⟨placedRules, expanded, afterExpansion⟩ := bind_eq_ok_iff.mp isLexState
  obtain ⟨rules, areRules, afterRules⟩ := bind_eq_ok_iff.mp afterExpansion
  have lexState_eq := Except.ok.inj afterRules
  refine ⟨placedRules, ?_, ?_⟩
  · have standsFor := standsFor_of_expand sizeLe expanded
    rwa [List.get_eq_getElem, name_eq] at standsFor
  · have atState : language.states[state]? =
        some ⟨grammar.states.keys[state], rules⟩ := by
      rw [Array.getElem?_eq_getElem isState.lt_size]
      exact congrArg some lexState_eq.symm
    rw [Language.rules_of_getElem? atState]
    exact areRules

/-- In the rules of a state stand those of an included state, in place of the include. -/
theorem exists_rules_of_include (compiled : grammar.compile reader = .ok language)
    {owner name : String} {index : StateIndex} {front back : List Entry}
    (isOwner : language.IsState grammar owner index)
    (isEntries : grammar.states.get? owner = some (front ++ .include name :: back)) :
    ∃ target before after, language.IsState grammar (plainName name) target ∧
      language.rules index = before ++ (language.rules target ++ after) ∧
        grammar.RulesOf reader index owner front before ∧
          grammar.RulesOf reader index owner back after := by
  have isCompiled := isCompiled_of_compile compiled
  obtain ⟨placedRules, standsFor, areRules⟩ := exists_compiledRules compiled isOwner
  obtain ⟨position, entries, isPosition, areEntries, splices⟩ := standsFor
  obtain rfl := Option.some.inj (isOwner.position?_eq.symm.trans isPosition)
  obtain rfl := Option.some.inj (isEntries.symm.trans areEntries)
  obtain ⟨placedFront, placedMiddle, placedBack, rfl, isFront, isMiddle, isBack⟩ :=
    splices.exists_of_include
  have ⟨target, _, isTarget, _⟩ := isMiddle
  have isTargetState := isCompiled.isState isTarget
  obtain ⟨before, others, rules_eq, areBefore, areOthers⟩ :=
    mapM_append_eq_ok_iff.mp areRules
  obtain ⟨middle, after, rfl, areMiddle, areAfter⟩ := mapM_append_eq_ok_iff.mp areOthers
  obtain ⟨placedTarget, isTargetPlaced, areTargetRules⟩ :=
    exists_compiledRules compiled isTargetState
  obtain rfl := isMiddle.unique isTargetPlaced
  obtain rfl := Except.ok.inj (areMiddle.symm.trans areTargetRules)
  exact ⟨target, before, after, isTargetState, rules_eq,
    ⟨placedFront, isFront, areBefore⟩, ⟨placedBack, isBack, areAfter⟩⟩

end Grammar

/-- Where the references lead that are written `name`, when `state` is declared by this
name. -/
structure Language.Resolves (language : Language) (grammar : Grammar)
    (reader : PatternReader) (name : String) (state : StateIndex) : Prop where
  declared : language.IsState grammar (plainName name) state
  lookedUp : language.stateIndex? name = some state
  started : ∀ base : Grammar, grammar = base.withStart name → language.start = state
  pushed : ∀ owner, ∀ rule ∈ language.rules owner, ∀ action : Action,
    rule.action = action.push name →
    ∃ target, language.IsState grammar (plainName (plainName name)) target ∧
      rule.change = some (.push target)
  included : ∀ owner index front back, language.IsState grammar owner index →
    grammar.states.get? owner = some (front ++ Entry.includeNamed name :: back) →
      ∃ target before after,
        language.IsState grammar (plainName (plainName name)) target ∧
        language.rules index = before ++ (language.rules target ++ after) ∧
          grammar.RulesOf reader index owner front before ∧
          grammar.RulesOf reader index owner back after
  sameState_iff : ∀ target, language.IsState grammar (plainName (plainName name)) target →
    (target = state ↔ (plainName name).toList.head? ≠ some '@')

namespace Grammar

variable {grammar : Grammar} {reader : PatternReader} {language : Language}
  {name : String}

theorem resolves_of_compile (compiled : grammar.compile reader = .ok language)
    (declared : plainName name ∈ grammar.states.keys) :
    ∃ state, language.Resolves grammar reader name state := by
  have isCompiled := isCompiled_of_compile compiled
  have numbers := isCompiled.numbersStates
  obtain ⟨state, isPosition⟩ := OrderedMap.mem_keys_iff_exists_position?.mp declared
  have isState := isCompiled.isState isPosition
  refine ⟨state, isState, (numbers.stateIndex?_iff name state).mpr isState, ?_,
    ?_, ?_, ?_⟩
  · rintro base rfl
    exact Option.some.inj (isCompiled.start.symm.trans isPosition)
  · intro owner rule member action isPush
    obtain ⟨placed, -, compiles⟩ := isCompiled.exists_placedRule member
    have changes := compiles.changes
    -- The rule holds the name without its first `@`, and compiling looks it up without
    -- the second.
    rw [← compiles.action_eq, isPush] at changes
    generalize rule.change = change at changes
    cases changes with
    | push isTarget => exact ⟨_, isCompiled.isState isTarget, rfl⟩
  · intro owner index front back isOwner isEntries
    exact exists_rules_of_include compiled isOwner isEntries
  · intro target isTarget
    rw [← plainName_eq_self_iff]
    constructor
    · rintro rfl
      rw [← isTarget.stateName_eq, isState.stateName_eq]
    · intro same
      have isTargetPosition := isTarget.position?_eq
      rw [same, isPosition] at isTargetPosition
      exact (Option.some.inj isTargetPosition).symm

theorem stateIndex?_stateName_iff (compiled : grammar.compile reader = .ok language)
    {state : StateIndex} (inside : state < language.states.size) :
    language.stateIndex? (language.stateName state) = some state ↔
      (language.stateName state).toList.head? ≠ some '@' := by
  have isCompiled := isCompiled_of_compile compiled
  obtain ⟨name, -, isPosition, -, -⟩ := isCompiled.exists_state inside
  rw [(isCompiled.isState isPosition).stateName_eq, isCompiled.stateIndex?_eq,
    ← plainName_eq_self_iff]
  constructor
  · intro isOther
    rw [OrderedMap.position?_eq_some_iff_getElem?_keys] at isPosition isOther
    exact Option.some.inj (isOther.symm.trans isPosition)
  · intro same
    rw [same, isPosition]

/-- The state that is declared by a name is the one that this name stands for as the start
state and in looking it up, and no defect reports it as undefined.  Pushes and includes of
the name lead to it as well, exactly if its own name does not begin with another `@`;
otherwise they lead to the state whose name lacks this `@` too, without which the grammar
is refused.  In the same way the name of a state finds the state again exactly if it does
not begin with `@`. -/
theorem references_of_declared (reader : PatternReader)
    (declared : plainName name ∈ grammar.states.keys) :
    (∀ missing, (grammar.withStart name).compile reader ≠
      .error (.missingState missing)) ∧
    (∀ defect missing, grammar.compile reader = .error defect →
      defect.undefinedState? = some missing →
      missing ∉ grammar.states.keys) ∧
    ∀ language, grammar.compile reader = .ok language →
      (∃ state, language.Resolves grammar reader name state) ∧
        ∀ state < language.states.size,
          (language.stateIndex? (language.stateName state) = some state ↔
            (language.stateName state).toList.head? ≠ some '@') := by
  refine ⟨fun missing failed => ?_, fun defect missing failed isMissing => ?_,
    fun language compiled =>
      ⟨resolves_of_compile compiled declared, fun state inside => ?_⟩⟩
  · have hasDefect := hasDefect_of_compile failed
    cases hasDefect with
    | missingState undeclared => exact undeclared declared
  · exact (hasDefect_of_compile failed).notMem_keys isMissing
  · exact stateIndex?_stateName_iff compiled inside

def singleAt : Grammar :=
  let base : Grammar := { name := "x" }
  base
    |>.addState "@root" [.rule "a" ((Action.ofClass "").push "@b"), .includeNamed "@b"]
    |>.addState "b" [.rule "b" (.ofClass "")]

/-- A push and an include find a state that is declared without the `@` that they are
written with. -/
theorem singleAt_resolves :
    ∃ language, singleAt.compile = .ok language ∧
      language.Resolves singleAt Pattern.read "@b" 1 ∧
      (language.rules 0).map (fun rule => (rule.patternText, rule.origin, rule.change)) =
        [("a", 0, some (.push 1)), ("b", 1, none)] := by
  have declared : plainName "@b" ∈ singleAt.states.keys := by decide +kernel
  have evaluated : singleAt.compile.toOption.map (fun language =>
        (language.stateIndex? "@b",
          (language.rules 0).map fun rule =>
            (rule.patternText, rule.origin, rule.change))) =
      some (some 1, [("a", 0, some (.push 1)), ("b", 1, none)]) := by
    decide +kernel
  obtain ⟨language, isLanguage, isEvaluated⟩ := Option.map_eq_some_iff.mp evaluated
  obtain ⟨lookedUp, areRules⟩ := Prod.mk.inj isEvaluated
  have compiled := toOption_eq_some_iff.mp isLanguage
  obtain ⟨⟨state, resolves⟩, -⟩ :=
    (references_of_declared Pattern.read declared).2.2 language compiled
  obtain rfl : 1 = state := Option.some.inj (lookedUp.symm.trans resolves.lookedUp)
  exact ⟨language, compiled, resolves, areRules⟩

def doubleAt : Grammar :=
  let base : Grammar := { name := "x" }
  base
    |>.addState "@@a" []
    |>.addState "b" [.includeNamed "@@a"]

/-- The state that is declared with two `@` is not found by the same name in an include,
and not by its own name in the language that has no such include. -/
theorem doubleAt_undefined :
    plainName "@@a" ∈ doubleAt.states.keys ∧
      (doubleAt.compile.map fun _ => ()) = .error (.unknownInclude "b" "a") ∧
        (doubleAt.addState "b" []).compile.toOption.map (fun language =>
            (language.stateName 0, language.stateIndex? (language.stateName 0))) =
          some ("@a", none) := by
  decide +kernel

end Grammar

end LineLexer
