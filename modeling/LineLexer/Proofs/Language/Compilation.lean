import LineLexer.Proofs.ClassNumbering
import LineLexer.Proofs.Grammar.Splicing
import LineLexer.Proofs.Language.CaseTables

/-!
# What a compiled language is

A grammar and its language say the same in two ways, with names and with numbers.  The
relations of this file state, part by part, when a part of a language says what a part of
the grammar says, without referring to how the language is made.  Compiling without a
defect gives a language all of whose parts are so related; every theorem about compiled
languages starts from this fact.
-/

namespace LineLexer.Grammar

/-- The class with this number is the one with the base name `base`. -/
structure IsClass (grammar : Grammar) (base : String) (index : ClassIndex) : Prop where
  index_lt : index < grammar.classTable.size
  baseName : grammar.classTable.baseName? index = some base
  fullName : grammar.classTable.fullName? index =
    some (ClassNames.fullNameOf grammar.postfixText base)

/-- A classifier chooses among the same classes as an emission, by their numbers. -/
inductive EmitsBy (grammar : Grammar) : Emission → Classifier → Prop where
  | token {className : String} {index : ClassIndex}
      (isClass : grammar.IsClass className index) :
      EmitsBy grammar (.token className) (.token index)
  | brackets : EmitsBy grammar .brackets .brackets
  | cases {arms : List (Guard × String)} {table : CaseTable}
      (words : ∀ key, Option.Rel grammar.IsClass
        (grammar.wordClass? arms key) table.classOf[key]?)
      (otherwise : grammar.IsClass ((otherwiseClass? arms).getD grammar.defaultClass)
        table.otherwise) :
      EmitsBy grammar (.cases arms) (.cases table)

/-- A stack change does what a transition says, and knows an entered state by its
position. -/
inductive ChangesBy (grammar : Grammar) :
    Option Transition → Option StackChange → Prop where
  | none : ChangesBy grammar none none
  | push {target : String} {state : StateIndex}
      (isPosition : grammar.states.position? (plainName target) = some state) :
      ChangesBy grammar (some (.push target)) (some (.push state))
  | pop : ChangesBy grammar (some .pop) (some .pop)
  | popAll : ChangesBy grammar (some .popAll) (some .popAll)

/-- A rule of a language says what a rule of the grammar says. -/
structure CompilesRule (grammar : Grammar) (reader : PatternReader) (placed : PlacedRule)
    (rule : Rule) : Prop where
  patternText_eq : rule.patternText = placed.pattern
  action_eq : rule.action = placed.action
  origin_eq : rule.origin = placed.origin
  pattern : reader grammar.ignoreCase placed.pattern = .ok rule.pattern
  emits : grammar.EmitsBy placed.action.emission rule.classifier
  changes : grammar.ChangesBy placed.action.transition rule.change

/-- A state of a language has the rules that a state of the grammar stands for. -/
structure CompilesState (grammar : Grammar) (reader : PatternReader) (name : String)
    (lexState : LexState) : Prop where
  name_eq : lexState.name = name
  rules : ∃ placedRules, grammar.StandsFor name placedRules ∧
    List.Forall₂ (grammar.CompilesRule reader) placedRules lexState.rules

/-- A language says what a grammar says. -/
structure IsCompiled (grammar : Grammar) (reader : PatternReader) (language : Language) :
    Prop where
  size_le : grammar.states.size ≤ stateLimit
  ignoreCase_eq : language.ignoreCase = grammar.ignoreCase
  classes_eq : language.classes = grammar.classTable
  defaultClass : grammar.IsClass grammar.defaultClass language.defaultClass
  start : grammar.states.position? grammar.startName = some language.start
  brackets : List.Forall₂
    (fun pair entry => entry.opening = pair.opening ∧ entry.closing = pair.closing ∧
      grammar.IsClass pair.className entry.classIndex)
    grammar.brackets language.brackets
  states : List.Forall₂ (grammar.CompilesState reader) grammar.states.keys
    language.states.toList

section Parts

variable {grammar : Grammar} {reader : PatternReader}

/-- Every class that the grammar names has a number. -/
theorem isClass_classIndexIn {base : String} (member : base ∈ grammar.classBases) :
    grammar.IsClass base (classIndexIn grammar.classTable base) := by
  have isNumbered : ∃ index, grammar.classTable.index? base = some index ∧
      grammar.classTable.baseName? index = some base ∧
      grammar.classTable.fullName? index =
        some (ClassNames.fullNameOf grammar.postfixText base) :=
    ClassNames.exists_index?_ofList member
  obtain ⟨index, isIndex, baseName, fullName⟩ := isNumbered
  have index_eq : classIndexIn grammar.classTable base = index := by
    rw [classIndexIn, isIndex]
    rfl
  rw [index_eq]
  exact ⟨ClassNames.index?_lt_size isIndex, baseName, fullName⟩

theorem emitsBy_of_classifier {placed : PlacedRule} {classifier : Classifier}
    (named : ∀ base ∈ placed.action.emission.classNames, base ∈ grammar.classBases)
    (isDefault : grammar.defaultClass ∈ grammar.classBases)
    (isClassifier : grammar.classifier grammar.classTable placed = .ok classifier) :
    grammar.EmitsBy placed.action.emission classifier := by
  rw [Grammar.classifier] at isClassifier
  cases emission_eq : placed.action.emission with
  | token className =>
      rw [emission_eq] at isClassifier named
      obtain rfl := Except.ok.inj isClassifier
      exact .token (isClass_classIndexIn (named className List.mem_cons_self))
  | brackets =>
      rw [emission_eq] at isClassifier
      simp only at isClassifier
      split at isClassifier
      · cases isClassifier
      · obtain rfl := Except.ok.inj isClassifier
        exact .brackets
  | cases arms =>
      rw [emission_eq] at isClassifier named
      obtain ⟨classOf, isTable, isCases⟩ := bind_eq_ok_iff.mp isClassifier
      obtain rfl := Except.ok.inj isCases
      have namedArm {arm : Guard × String} (member : arm ∈ arms) :
          arm.2 ∈ grammar.classBases :=
        named arm.2 (List.mem_map_of_mem member)
      refine .cases (fun key => ?_) (isClass_classIndexIn ?_)
      · rw [getElem?_caseWords isTable, Std.TreeMap.getElem?_emptyc, Option.none_or]
        cases isWord : grammar.wordClass? arms key with
        | none => exact .none
        | some className =>
            obtain ⟨arm, isArm, rfl⟩ := Option.map_eq_some_iff.mp isWord
            exact .some (isClass_classIndexIn
              (namedArm (List.mem_of_find?_eq_some isArm)))
      · cases isOtherwise : otherwiseClass? arms with
        | none => exact isDefault
        | some className =>
            obtain ⟨arm, isArm, rfl⟩ := Option.map_eq_some_iff.mp isOtherwise
            exact namedArm (List.mem_of_find?_eq_some isArm)

theorem changesBy_of_stackChange {placed : PlacedRule} {change : Option StackChange}
    (sizeLe : grammar.states.size ≤ stateLimit)
    (isChange : grammar.stackChange placed = .ok change) :
    grammar.ChangesBy placed.action.transition change := by
  rw [stackChange] at isChange
  split at isChange
  · rename_i transition_eq
    rw [transition_eq, ← Except.ok.inj isChange]
    exact .none
  · rename_i transition_eq
    rw [transition_eq, ← Except.ok.inj isChange]
    exact .pop
  · rename_i transition_eq
    rw [transition_eq, ← Except.ok.inj isChange]
    exact .popAll
  · rename_i target transition_eq
    split at isChange
    · rename_i position isPosition
      rw [transition_eq, ← Except.ok.inj isChange, ofPosition_eq sizeLe isPosition]
      exact .push isPosition
    · cases isChange

theorem compilesRule_of_compileRule {placed : PlacedRule} {rule : Rule}
    (sizeLe : grammar.states.size ≤ stateLimit)
    (named : ∀ base ∈ placed.action.emission.classNames, base ∈ grammar.classBases)
    (isDefault : grammar.defaultClass ∈ grammar.classBases)
    (isRule : grammar.compileRule reader grammar.classTable placed = .ok rule) :
    grammar.CompilesRule reader placed rule := by
  obtain ⟨pattern, isPattern, afterPattern⟩ := bind_eq_ok_iff.mp isRule
  obtain ⟨classifier, isClassifier, afterClassifier⟩ := bind_eq_ok_iff.mp afterPattern
  obtain ⟨change, isChange, afterChange⟩ := bind_eq_ok_iff.mp afterClassifier
  obtain rfl := Except.ok.inj afterChange
  exact {
    patternText_eq := rfl
    action_eq := rfl
    origin_eq := rfl
    pattern := mapError_eq_ok_iff.mp isPattern
    emits := emitsBy_of_classifier named isDefault isClassifier
    changes := changesBy_of_stackChange sizeLe isChange }

theorem defaultClass_mem_classBases : grammar.defaultClass ∈ grammar.classBases :=
  List.mem_append_left _ List.mem_cons_self

theorem className_mem_classBases {pair : BracketPair} (member : pair ∈ grammar.brackets) :
    pair.className ∈ grammar.classBases :=
  List.mem_append_left _ (List.mem_cons_of_mem _ (List.mem_map_of_mem member))

theorem mem_classBases_of_expand {state base : String} {placedRules : List PlacedRule}
    {placed : PlacedRule} (isState : state ∈ grammar.states.keys)
    (expanded : grammar.expand state = .ok placedRules) (member : placed ∈ placedRules)
    (named : base ∈ placed.action.emission.classNames) : base ∈ grammar.classBases := by
  refine List.mem_append_right _ (List.mem_flatMap.mpr ⟨(state, .ok placedRules), ?_, ?_⟩)
  · rw [← expanded]
    exact List.mem_map_of_mem isState
  · exact List.mem_flatMap.mpr ⟨placed, member, named⟩

theorem compilesState_of_compileState {state : String} {lexState : LexState}
    (sizeLe : grammar.states.size ≤ stateLimit) (isState : state ∈ grammar.states.keys)
    (isLexState :
      grammar.compileState reader grammar.classTable (state, grammar.expand state) =
        .ok lexState) :
    grammar.CompilesState reader state lexState := by
  obtain ⟨placedRules, expanded, afterExpansion⟩ := bind_eq_ok_iff.mp isLexState
  obtain ⟨rules, areRules, afterRules⟩ := bind_eq_ok_iff.mp afterExpansion
  obtain rfl := Except.ok.inj afterRules
  refine ⟨rfl, placedRules, standsFor_of_expand sizeLe expanded, ?_⟩
  -- Each rule is compiled with the knowledge that it belongs to the expansion of a
  -- declared state.
  have areMembers : List.Forall₂
      (fun placed rule => placed ∈ placedRules ∧
        grammar.compileRule reader grammar.classTable placed =
          .ok rule) placedRules rules :=
    (List.forall₂_and_left _ _).mpr ⟨fun _ member => member, mapM_eq_ok_iff.mp areRules⟩
  refine areMembers.imp fun placed rule isRule => ?_
  exact compilesRule_of_compileRule sizeLe
    (fun base named => mem_classBases_of_expand isState expanded isRule.1 named)
    defaultClass_mem_classBases isRule.2

/-- The checks of compiling that succeed, and the language that they lead to. -/
theorem compile_eq_ok_iff {language : Language} :
    grammar.compile reader = .ok language ↔ ∃ position lexStates,
      grammar.states.position? grammar.startName = some position ∧
      grammar.states.size ≤ stateLimit ∧
      grammar.brackets.find? (·.isIncomplete) = none ∧
      grammar.expansions.mapM (grammar.compileState reader grammar.classTable) =
        .ok lexStates ∧
      language = {
        name := grammar.name
        ignoreCase := grammar.ignoreCase
        classes := grammar.classTable
        states := lexStates.toArray
        start := StateIndex.ofPosition position
        defaultClass := classIndexIn grammar.classTable grammar.defaultClass
        brackets := grammar.brackets.map fun pair =>
          ⟨pair.opening, pair.closing,
            classIndexIn grammar.classTable pair.className⟩ } := by
  rw [compile]
  constructor
  · intro compiled
    split at compiled
    · cases compiled
    · rename_i position isStart
      split at compiled
      · cases compiled
      · rename_i notMore
        split at compiled
        · cases compiled
        · rename_i complete
          obtain ⟨lexStates, areStates, afterStates⟩ := bind_eq_ok_iff.mp compiled
          exact ⟨position, lexStates, isStart, Nat.le_of_not_lt notMore, complete,
            areStates, (Except.ok.inj afterStates).symm⟩
  · rintro ⟨position, lexStates, isStart, sizeLe, complete, areStates, rfl⟩
    simp only [isStart, complete, if_neg (Nat.not_lt_of_le sizeLe)]
    exact bind_eq_ok_iff.mpr ⟨lexStates, areStates, rfl⟩

/-- The states of a language are compiled one by one, in order of declaration. -/
theorem compileState_of_compile {language : Language}
    (compiled : grammar.compile reader = .ok language) :
    List.Forall₂ (fun state lexState =>
        grammar.compileState reader grammar.classTable (state, grammar.expand state) =
          .ok lexState)
      grammar.states.keys language.states.toList := by
  obtain ⟨_, lexStates, -, -, -, areStates, rfl⟩ := compile_eq_ok_iff.mp compiled
  exact List.forall₂_map_left_iff.mp (mapM_eq_ok_iff.mp areStates)

/-- Compiling a grammar without a defect gives a language that says what the grammar
says. -/
theorem isCompiled_of_compile {language : Language}
    (compiled : grammar.compile reader = .ok language) :
    grammar.IsCompiled reader language := by
  have areStates := compileState_of_compile compiled
  obtain ⟨start, lexStates, isStart, sizeLe, -, -, rfl⟩ := compile_eq_ok_iff.mp compiled
  refine ⟨sizeLe, rfl, rfl, isClass_classIndexIn defaultClass_mem_classBases, ?_, ?_, ?_⟩
  · simp only [ofPosition_eq sizeLe isStart, isStart]
  · rw [List.forall₂_map_right_iff, List.forall₂_same]
    exact fun pair member =>
      ⟨rfl, rfl, isClass_classIndexIn (className_mem_classBases member)⟩
  · have areMembers : List.Forall₂
        (fun state lexState => state ∈ grammar.states.keys ∧
          grammar.compileState reader grammar.classTable (state, grammar.expand state) =
            .ok lexState) grammar.states.keys lexStates :=
      (List.forall₂_and_left _ _).mpr ⟨fun _ member => member, areStates⟩
    refine areMembers.imp fun state lexState isState => ?_
    exact compilesState_of_compileState sizeLe isState.1 isState.2

end Parts

namespace IsCompiled

variable {grammar : Grammar} {reader : PatternReader} {language : Language}

theorem size_states (isCompiled : grammar.IsCompiled reader language) :
    language.states.size = grammar.states.size := by
  rw [← OrderedMap.length_keys, isCompiled.states.length_eq, Array.length_toList]

/-- The state with a given number is the declared state at this position. -/
theorem exists_state (isCompiled : grammar.IsCompiled reader language)
    {state : StateIndex} (inside : state < language.states.size) :
    ∃ name lexState, grammar.states.position? name = some state ∧
      language.states[state]? = some lexState ∧
      grammar.CompilesState reader name lexState := by
  have insideKeys : state < grammar.states.keys.length := by
    rw [isCompiled.states.length_eq]
    exact inside
  obtain ⟨-, related⟩ := List.forall₂_iff_get.mp isCompiled.states
  refine ⟨grammar.states.keys[state], language.states[state], ?_, ?_, ?_⟩
  · rw [OrderedMap.position?_eq_some_iff_getElem?_keys]
    exact List.getElem?_eq_getElem insideKeys
  · exact Array.getElem?_eq_getElem inside
  · exact related state insideKeys inside

/-- The declared state at a position is the state with this number. -/
theorem exists_lexState (isCompiled : grammar.IsCompiled reader language) {name : String}
    {state : StateIndex} (isPosition : grammar.states.position? name = some state) :
    ∃ lexState, language.states[state]? = some lexState ∧
    grammar.CompilesState reader name lexState := by
  have inside : state < language.states.size := by
    rw [isCompiled.size_states]
    exact OrderedMap.position?_lt_size isPosition
  obtain ⟨other, lexState, isOther, isState, compiles⟩ := isCompiled.exists_state inside
  have same : other = name := by
    rw [OrderedMap.position?_eq_some_iff_getElem?_keys] at isPosition isOther
    rw [isOther, Option.some.injEq] at isPosition
    exact isPosition
  exact ⟨lexState, isState, same ▸ compiles⟩

end IsCompiled

end LineLexer.Grammar
