import LineLexer.Proofs.Language.Acceptance
import LineLexer.Proofs.Language.Inlining

/-!
# Substituting an include in a grammar

The language of a grammar in which an include is replaced by the entries of its state is
the old language, but for the origins of some rules.
-/

namespace LineLexer

namespace Grammar

variable {grammar : Grammar} {reader : PatternReader} {language : Language}
  {owner target : String} {entries front back inner : List Entry}
  {placed other : PlacedRule} {classes : ClassNames}

section OtherOrigin

variable (same : other.content = placed.content)

theorem caseWords_of_other {arms : List (Guard × String)}
    {classOf table : Std.TreeMap String ClassIndex}
    (isTable : grammar.caseWords classes placed arms classOf = .ok table) :
    grammar.caseWords classes other arms classOf = .ok table := by
  induction arms generalizing classOf with
  | nil => exact isTable
  | cons arm arms ih =>
      obtain ⟨_ | _, className⟩ := arm
      · rw [caseWords] at isTable ⊢
        split at isTable
        · cases isTable
        · exact ih isTable
      · exact ih isTable

include same

theorem classifier_of_content_eq {classifier : Classifier}
    (isClassifier : grammar.classifier classes placed = .ok classifier) :
    grammar.classifier classes other = .ok classifier := by
  obtain ⟨-, action_eq⟩ := Prod.mk.inj same
  rw [Grammar.classifier] at isClassifier ⊢
  rw [action_eq]
  cases emission_eq : placed.action.emission with
  | token className => rwa [emission_eq] at isClassifier
  | brackets =>
      rw [emission_eq] at isClassifier
      by_cases lacking : grammar.brackets.isEmpty
      · simp [lacking] at isClassifier
      · simpa [lacking] using isClassifier
  | cases arms =>
      rw [emission_eq] at isClassifier
      obtain ⟨classOf, isTable, isCases⟩ := bind_eq_ok_iff.mp isClassifier
      exact bind_eq_ok_iff.mpr ⟨classOf, caseWords_of_other isTable, isCases⟩

theorem stackChange_of_content_eq {change : Option StackChange}
    (isChange : grammar.stackChange placed = .ok change) :
    grammar.stackChange other = .ok change := by
  obtain ⟨-, action_eq⟩ := Prod.mk.inj same
  rw [stackChange] at isChange ⊢
  rw [action_eq]
  split at isChange <;> try exact isChange
  split at isChange <;> cases isChange
  rfl

/-- Where a rule stands decides nothing about how it is compiled. -/
theorem exists_compileRule_of_content_eq {rule : Rule}
    (isRule : grammar.compileRule reader classes placed = .ok rule) :
    ∃ moved, grammar.compileRule reader classes other = .ok moved ∧
    moved.unplaced = rule.unplaced := by
  obtain ⟨pattern, isPattern, afterPattern⟩ := bind_eq_ok_iff.mp isRule
  obtain ⟨classifier, isClassifier, afterClassifier⟩ := bind_eq_ok_iff.mp afterPattern
  obtain ⟨change, isChange, afterChange⟩ := bind_eq_ok_iff.mp afterClassifier
  obtain rfl := Except.ok.inj afterChange
  obtain ⟨pattern_eq, action_eq⟩ := Prod.mk.inj same
  rw [mapError_eq_ok_iff, ← pattern_eq] at isPattern
  refine ⟨⟨other.pattern, other.action, other.origin, pattern, classifier, change⟩,
    ?_, ?_⟩
  · refine bind_eq_ok_iff.mpr ⟨pattern, mapError_eq_ok_iff.mpr isPattern, ?_⟩
    refine bind_eq_ok_iff.mpr ⟨classifier, classifier_of_content_eq same isClassifier, ?_⟩
    exact bind_eq_ok_iff.mpr ⟨change, stackChange_of_content_eq same isChange, rfl⟩
  · rw [Rule.unplaced, pattern_eq, action_eq]
    rfl

end OtherOrigin

section Substitution

theorem flatMap_classNames_eq {rules others : List PlacedRule}
    (same : others.map PlacedRule.content = rules.map PlacedRule.content) :
    others.flatMap (·.action.emission.classNames) =
      rules.flatMap (·.action.emission.classNames) := by
  have ofContents (rules : List PlacedRule) :
      rules.flatMap (·.action.emission.classNames) =
      (rules.map PlacedRule.content).flatMap fun content =>
        content.2.emission.classNames := by
    rw [List.flatMap_map]
    rfl
  rw [ofContents, ofContents, same]

theorem caseWords_withEntries (others : List Entry) (arms : List (Guard × String))
    (classOf : Std.TreeMap String ClassIndex) :
    (grammar.withEntries owner others).caseWords classes placed arms classOf =
      grammar.caseWords classes placed arms classOf := by
  induction arms generalizing classOf with
  | nil => rfl
  | cons arm arms ih =>
      obtain ⟨setName | _, className⟩ := arm
      · have sets_eq : (grammar.withEntries owner others).wordSets =
            grammar.wordSets := rfl
        rw [caseWords, caseWords, sets_eq]
        cases grammar.wordSets.get? setName with
        | none => rfl
        | some words => exact ih _
      · exact ih classOf

theorem classifier_withEntries (others : List Entry) :
    (grammar.withEntries owner others).classifier classes placed =
      grammar.classifier classes placed := by
  rw [Grammar.classifier, Grammar.classifier]
  simp only [caseWords_withEntries]
  rfl

variable (isOwner : grammar.states.get? owner = some (front ++ .include target :: back))
  (isTarget : grammar.states.get? (plainName target) = some inner)

include isOwner

theorem compileRule_withEntries (others : List Entry) :
    (grammar.withEntries owner others).compileRule reader classes placed =
      grammar.compileRule reader classes placed := by
  have stackChange_eq : (grammar.withEntries owner others).stackChange placed =
      grammar.stackChange placed := by
    simp only [stackChange, position?_withEntries isOwner]
  rw [compileRule, compileRule, stackChange_eq, classifier_withEntries]
  rfl

theorem startName_withEntries (others : List Entry) :
    (grammar.withEntries owner others).startName = grammar.startName := by
  rw [startName, startName, startName?, startName?, keys_withEntries isOwner]
  rfl

theorem exists_compileState_withEntries {state : String}
    {placedRules inlined : List PlacedRule} {lexState : LexState} (others : List Entry)
    (isExpansion : grammar.expand state = .ok placedRules)
    (isInlined : (grammar.withEntries owner others).expand state = .ok inlined)
    (same : inlined.map PlacedRule.content = placedRules.map PlacedRule.content)
    (isLexState : grammar.compileState reader classes (state, grammar.expand state) =
      .ok lexState) :
    ∃ moved, (grammar.withEntries owner others).compileState reader classes
        (state, (grammar.withEntries owner others).expand state) = .ok moved ∧
      lexState.unplaced = moved.unplaced := by
  obtain ⟨expanded, isSame, afterExpansion⟩ := bind_eq_ok_iff.mp isLexState
  obtain rfl := Except.ok.inj (isExpansion.symm.trans isSame)
  obtain ⟨rules, areRules, afterRules⟩ := bind_eq_ok_iff.mp afterExpansion
  obtain rfl := Except.ok.inj afterRules
  have related : List.Forall₂ (fun placed other => ∀ rule,
      grammar.compileRule reader classes placed = .ok rule →
        ∃ moved,
          (grammar.withEntries owner others).compileRule reader classes other =
              .ok moved ∧
            moved.unplaced = rule.unplaced) placedRules inlined := by
    refine (map_eq_map_iff_forall₂.mp same).flip.imp
      fun placed other content_eq rule isRule => ?_
    rw [compileRule_withEntries isOwner]
    exact exists_compileRule_of_content_eq content_eq isRule
  obtain ⟨moved, areMoved, relatedRules⟩ := exists_mapM_eq_ok_of_forall₂ related areRules
  refine ⟨⟨state, moved⟩, bind_eq_ok_iff.mpr ⟨inlined, isInlined, ?_⟩, ?_⟩
  · exact bind_eq_ok_iff.mpr ⟨moved, areMoved, rfl⟩
  · have rules_eq : rules.map Rule.unplaced = moved.map Rule.unplaced :=
      map_eq_map_iff_forall₂.mpr (relatedRules.imp fun _ _ unplaced_eq =>
        unplaced_eq.symm)
    exact congrArg (LexState.mk state) rules_eq

include isTarget

theorem classTable_withEntries (sizeLe : grammar.states.size ≤ stateLimit)
    (ends : grammar.IncludesEnd) :
    (grammar.withEntries owner (front ++ (inner ++ back))).classTable =
      grammar.classTable := by
  have bases_eq : (grammar.withEntries owner (front ++ (inner ++ back))).classBases =
      grammar.classBases := by
    rw [classBases, classBases, expansions, expansions, keys_withEntries isOwner,
      List.flatMap_map, List.flatMap_map]
    refine congrArg (_ ++ ·) (List.flatMap_congr fun state isState => ?_)
    obtain ⟨placedRules, inlined, isExpansion, isInlined, same⟩ :=
      exists_expand_withEntries isOwner isTarget sizeLe ends isState
    simp only [isExpansion, isInlined, flatMap_classNames_eq same]
  rw [classTable, classTable, bases_eq]
  rfl

/-- The language after the substitution is the language before it, but for where its rules
stand. -/
theorem exists_compile_withEntries (compiled : grammar.compile reader = .ok language) :
    ∃ other,
      (grammar.withEntries owner (front ++ (inner ++ back))).compile reader = .ok other ∧
        other.unplaced = language.unplaced := by
  have ends := includesEnd_of_compile compiled
  obtain ⟨position, lexStates, isStart, sizeLe, complete, areStates, rfl⟩ :=
    compile_eq_ok_iff.mp compiled
  have related : List.Forall₂ (fun expansion otherExpansion => ∀ lexState,
      grammar.compileState reader grammar.classTable expansion = .ok lexState →
        ∃ moved,
          (grammar.withEntries owner (front ++ (inner ++ back))).compileState reader
              grammar.classTable otherExpansion = .ok moved ∧
            lexState.unplaced = moved.unplaced)
      grammar.expansions
        (grammar.withEntries owner (front ++ (inner ++ back))).expansions := by
    rw [expansions, expansions, keys_withEntries isOwner, List.forall₂_map_left_iff,
      List.forall₂_map_right_iff, List.forall₂_same]
    intro state isState lexState isLexState
    obtain ⟨placedRules, inlined, isExpansion, isInlined, same⟩ :=
      exists_expand_withEntries isOwner isTarget sizeLe ends isState
    exact exists_compileState_withEntries isOwner _ isExpansion isInlined same isLexState
  obtain ⟨moved, areMoved, relatedStates⟩ :=
    exists_mapM_eq_ok_of_forall₂ related areStates
  have table_eq := classTable_withEntries isOwner isTarget sizeLe ends
  have states_eq : moved.map LexState.unplaced = lexStates.map LexState.unplaced :=
    map_eq_map_iff_forall₂.mpr (relatedStates.flip.imp fun _ _ unplaced_eq =>
      unplaced_eq.symm)
  refine ⟨_, compile_eq_ok_iff.mpr
    ⟨position, moved, ?_, ?_, complete, table_eq ▸ areMoved, rfl⟩, ?_⟩
  · rw [startName_withEntries isOwner, position?_withEntries isOwner, isStart]
  · rwa [size_withEntries isOwner]
  · rw [table_eq]
    simp only [Language.unplaced, List.map_toArray, states_eq]
    rfl

end Substitution

end Grammar

namespace Language

/-- The part of a state's rules that comes from one of its own entries: the rule that the
entry is, declared in this state, or all rules of the state that it includes. -/
def IsPart (language : Language) (grammar : Grammar) (state : StateIndex) (entry : Entry)
    (part : List Rule) : Prop :=
  match entry with
  | .rule pattern action =>
      ∃ rule, part = [rule] ∧ rule.patternText = pattern ∧ rule.action = action ∧
        rule.origin = state
  | .include target =>
      ∃ included, language.IsState grammar (plainName target) included ∧
        part = language.rules included

/-- The rules of a state are put together from its entries, and there is one for each path
along includes. -/
structure Inlines (language : Language) (grammar : Grammar) (reader : PatternReader)
    (name : String) (state : StateIndex) (entries : List Entry) : Prop where
  isState : language.IsState grammar name state
  parts : ∃ parts, List.Forall₂ (language.IsPart grammar state) entries parts ∧
    language.rules state = parts.flatten
  paths : ∃ paths placedRules, grammar.ListsPaths state name entries paths placedRules ∧
    List.Forall₂ (grammar.CompilesRule reader) placedRules (language.rules state)

end Language

namespace Grammar

variable {grammar : Grammar} {reader : PatternReader} {language : Language}

theorem Splices.exists_parts (compiled : grammar.compile reader = .ok language)
    {origin : StateIndex} {originName : String} {entries : List Entry}
    {placedRules : List PlacedRule}
    (splices : grammar.Splices origin originName entries placedRules) {rules : List Rule}
    (areRules : placedRules.mapM (grammar.compileRule reader grammar.classTable) =
      .ok rules) :
    ∃ parts, List.Forall₂ (language.IsPart grammar origin) entries parts ∧
    rules = parts.flatten := by
  induction splices generalizing rules with
  | nil => exact ⟨[], .nil, (Except.ok.inj areRules).symm⟩
  | @rule _ _ pattern action _ placedRules _ ih =>
      rw [← List.singleton_append, mapM_append_eq_ok_iff] at areRules
      obtain ⟨own, others, rfl, isOwn, areOthers⟩ := areRules
      obtain ⟨parts, areParts, rfl⟩ := ih areOthers
      obtain ⟨rule, _, isRule, areNone, rfl⟩ :=
        List.forall₂_cons_left_iff.mp (mapM_eq_ok_iff.mp isOwn)
      obtain rfl := List.forall₂_nil_left_iff.mp areNone
      obtain ⟨_, -, afterPattern⟩ := bind_eq_ok_iff.mp isRule
      obtain ⟨_, -, afterClassifier⟩ := bind_eq_ok_iff.mp afterPattern
      obtain ⟨_, -, afterChange⟩ := bind_eq_ok_iff.mp afterClassifier
      obtain rfl := Except.ok.inj afterChange
      exact ⟨[_] :: parts, .cons ⟨_, rfl, rfl, rfl, rfl⟩ areParts, rfl⟩
  | @included _ _ _ _ _ innerEntries _ innerRules isPosition isEntries inner _ _ ih =>
      obtain ⟨included, others, rfl, areIncluded, areOthers⟩ :=
        mapM_append_eq_ok_iff.mp areRules
      obtain ⟨parts, areParts, rfl⟩ := ih areOthers
      have isState := (isCompiled_of_compile compiled).isState isPosition
      obtain ⟨expanded, standsFor, areExpanded⟩ := exists_compiledRules compiled isState
      obtain rfl := standsFor.unique ⟨_, _, isPosition, isEntries, inner⟩
      obtain rfl := Except.ok.inj (areIncluded.symm.trans areExpanded)
      exact ⟨language.rules _ :: parts, .cons ⟨_, isState, rfl⟩ areParts, rfl⟩

theorem inlines_of_get? (compiled : grammar.compile reader = .ok language) {name : String}
    {entries : List Entry} (isEntries : grammar.states.get? name = some entries) :
    ∃ state, language.Inlines grammar reader name state entries := by
  have isCompiled := isCompiled_of_compile compiled
  obtain ⟨state, isPosition⟩ := exists_position_of_entries isEntries
  have isState := isCompiled.isState isPosition
  obtain ⟨placedRules, ⟨_, _, isSamePosition, areSameEntries, splices⟩, areRules⟩ :=
    exists_compiledRules compiled isState
  obtain rfl := Option.some.inj (isPosition.symm.trans isSamePosition)
  obtain rfl := Option.some.inj (isEntries.symm.trans areSameEntries)
  obtain ⟨paths, lists⟩ := splices.exists_listsPaths
  obtain ⟨lexState, isLexState, compiles⟩ := isCompiled.exists_lexState isPosition
  obtain ⟨compiledRules, standsFor, related⟩ := compiles.rules
  obtain rfl := standsFor.unique ⟨_, _, isPosition, isEntries, splices⟩
  rw [← Language.rules_of_getElem? isLexState] at related
  exact ⟨state, isState, splices.exists_parts compiled areRules, paths, _, lists, related⟩

/-- The rules of a state are those that its entries stand for, in order, with a copy for
each path along includes, and an include may be replaced by the entries of its state: the
language is the same but for the origins of the rules, and so are the tokens of every
document. -/
theorem inlines_and_withEntries_of_compile
    (compiled : grammar.compile reader = .ok language) :
    (∀ name entries, grammar.states.get? name = some entries →
      ∃ state, language.Inlines grammar reader name state entries) ∧
    ∀ owner target front back inner,
      grammar.states.get? owner = some (front ++ .include target :: back) →
        grammar.states.get? (plainName target) = some inner →
          ∃ other,
            (grammar.withEntries owner (front ++ (inner ++ back))).compile reader =
                .ok other ∧
            other.unplaced = language.unplaced ∧
            (∀ state,
              (other.rules state).map (fun rule => (rule.patternText, rule.action)) =
                (language.rules state).map fun rule => (rule.patternText, rule.action)) ∧
            ∀ text, other.lexDocument text = language.lexDocument text := by
  refine ⟨fun name entries isEntries => inlines_of_get? compiled isEntries, ?_⟩
  intro owner target front back inner isOwner isTarget
  obtain ⟨other, isOther, same⟩ := exists_compile_withEntries isOwner isTarget compiled
  refine ⟨other, isOther, same, fun state => ?_, fun text => ?_⟩
  · have rules_eq : (other.rules state).map Rule.unplaced =
        (language.rules state).map Rule.unplaced := by
      rw [← Language.rules_unplaced, ← Language.rules_unplaced, same]
    have written :=
      congrArg (List.map fun rule : Rule => (rule.patternText, rule.action)) rules_eq
    rw [List.map_map, List.map_map] at written
    exact written
  · rw [Language.lexDocument, Language.lexDocument,
      Language.runDocument_eq_of_unplaced_eq same]

/-- A state that is included along three paths. -/
def sharedWords : Grammar :=
  let base : Grammar := { name := "x" }
  base
    |>.addState "root" [.includeNamed "left", .rule "a" (.ofClass "a"),
      .includeNamed "right", .includeNamed "left"]
    |>.addState "left" [.includeNamed "words", .rule "b" (.ofClass "b")]
    |>.addState "right" [.rule "c" (.ofClass "c"), .includeNamed "words"]
    |>.addState "words" [.rule "d" (.ofClass "d")]

/-- The include of `right` in `sharedWords` gives the same rules as its entries do, which
then are declared in `root`. -/
theorem sharedWords_inlines :
    ∃ language other, sharedWords.compile = .ok language ∧
      (sharedWords.withEntries "root"
        [.include "left", .rule "a" (.ofClass "a"), .rule "c" (.ofClass "c"),
        .include "words", .include "left"]).compile = .ok other ∧
      (∃ state, language.Inlines sharedWords Pattern.read "right" state
        [.rule "c" (.ofClass "c"), .include "words"]) ∧
      (language.rules 0).map (fun rule => (rule.patternText, rule.origin)) =
        [("d", 3), ("b", 1), ("a", 0), ("c", 2), ("d", 3), ("d", 3), ("b", 1)] ∧
      (other.rules 0).map (fun rule => (rule.patternText, rule.origin)) =
        [("d", 3), ("b", 1), ("a", 0), ("c", 0), ("d", 3), ("d", 3), ("b", 1)] ∧
      ∀ text, other.lexDocument text = language.lexDocument text := by
  have evaluated : sharedWords.compile.toOption.map (fun language =>
        (language.rules 0).map fun rule => (rule.patternText, rule.origin)) =
      some [("d", 3), ("b", 1), ("a", 0), ("c", 2), ("d", 3), ("d", 3), ("b", 1)] := by
    decide +kernel
  have otherEvaluated :
      (sharedWords.withEntries "root" [.include "left", .rule "a" (.ofClass "a"),
        .rule "c" (.ofClass "c"), .include "words",
        .include "left"]).compile.toOption.map (fun language =>
          (language.rules 0).map fun rule => (rule.patternText, rule.origin)) =
      some [("d", 3), ("b", 1), ("a", 0), ("c", 0), ("d", 3), ("d", 3), ("b", 1)] := by
    decide +kernel
  have isRight : sharedWords.states.get? "right" =
      some [.rule "c" (.ofClass "c"), .include "words"] := by
    decide +kernel
  obtain ⟨language, isLanguage, areRules⟩ := Option.map_eq_some_iff.mp evaluated
  have compiled := toOption_eq_some_iff.mp isLanguage
  obtain ⟨inlines, substitutes⟩ := inlines_and_withEntries_of_compile compiled
  obtain ⟨other, isOther, -, -, tokens_eq⟩ := substitutes "root" "right"
    [.include "left", .rule "a" (.ofClass "a")] [.include "left"] _
    (by decide +kernel) isRight
  refine ⟨language, other, compiled, isOther, inlines "right" _ isRight, areRules, ?_,
    tokens_eq⟩
  obtain ⟨same, isSame, areOthers⟩ := Option.map_eq_some_iff.mp otherEvaluated
  obtain rfl := Except.ok.inj (isOther.symm.trans (toOption_eq_some_iff.mp isSame))
  exact areOthers

end Grammar

end LineLexer
