import LineLexer.Proofs.Language.Compilation

/-!
# Numbers in compiled languages

Rules, brackets and stacks refer to states and classes by number, and the numbers are come
by along different ways: an entered state is looked up by name, the state in which a rule
is declared is met during the expansion, and a class is looked up among all classes.  In a
compiled language every one of these numbers is that of the thing it is meant for.
-/

namespace LineLexer

/-- Some use of a classifier gives a text this class without asking the bracket table. -/
def Classifier.Uses (index : ClassIndex) : Classifier → Prop
  | .token other => index = other
  | .brackets => False
  | .cases table => (∃ key : String, table.classOf[key]? = some index) ∨
      index = table.otherwise

namespace Language

/-- In a language of a grammar, `state` is the number of the state that the grammar
declares by this name. -/
structure IsState (language : Language) (grammar : Grammar) (name : String)
    (state : StateIndex) : Prop where
  isDeclared : grammar.states.keys[state]? = some name
  lt_size : state < language.states.size
  stateName_eq : language.stateName state = name

theorem IsState.position?_eq {language : Language} {grammar : Grammar} {name : String}
    {state : StateIndex} (isState : language.IsState grammar name state) :
    grammar.states.position? name = some state :=
  OrderedMap.position?_eq_some_iff_getElem?_keys.mpr isState.isDeclared

/-- All numbers of states that a language holds or looks up are positions in the grammar's
order of declaration, as they are: those of the declared states, of a name that is looked
up in the language, of the start state, of the states that rules enter, and of the states
among whose own entries rules stand. -/
structure NumbersStates (language : Language) (grammar : Grammar) : Prop where
  size_eq : language.states.size = grammar.states.size
  size_le : language.states.size ≤ 65535
  ofPosition : ∀ position < language.states.size,
    StateIndex.ofPosition position = position
  declared : ∀ name position, grammar.states.keys[position]? = some name →
    language.IsState grammar name (StateIndex.ofPosition position)
  stateIndex?_iff : ∀ name state,
    language.stateIndex? name = some state ↔
    language.IsState grammar (plainName name) state
  start : language.IsState grammar grammar.startName language.start
  entered : ∀ state, ∀ rule ∈ language.rules state, ∀ target,
    rule.change = some (.push target) →
    ∃ name, rule.action.transition = some (.push name) ∧
      language.IsState grammar (plainName name) target
  origin : ∀ state, ∀ rule ∈ language.rules state, ∃ name entries,
    language.IsState grammar name rule.origin ∧ grammar.states.get? name = some entries ∧
      Entry.rule rule.patternText rule.action ∈ entries

/-- All numbers of classes that a language holds, for text that no rule matches, for
brackets and in rules, are those of classes. -/
structure ResolvesClasses (language : Language) : Prop where
  defaultClass : language.defaultClass < language.classes.size
  brackets : ∀ entry ∈ language.brackets, entry.classIndex < language.classes.size
  rules : ∀ state, ∀ rule ∈ language.rules state, ∀ index, rule.classifier.Uses index →
    index < language.classes.size

theorem rules_of_getElem? {language : Language} {state : StateIndex} {lexState : LexState}
    (isState : language.states[state]? = some lexState) :
    language.rules state = lexState.rules := by
  rw [rules, isState]

theorem stateName_of_getElem? {language : Language} {state : StateIndex}
    {lexState : LexState} (isState : language.states[state]? = some lexState) :
    language.stateName state = lexState.name := by
  rw [stateName, isState]

end Language

namespace Grammar

theorem EmitsBy.isClass_of_uses {grammar : Grammar} {emission : Emission}
    {classifier : Classifier} (emits : grammar.EmitsBy emission classifier)
    {index : ClassIndex} (uses : classifier.Uses index) :
    ∃ base, grammar.IsClass base index := by
  cases emits with
  | token isClass =>
      obtain rfl : index = _ := uses
      exact ⟨_, isClass⟩
  | brackets => exact absurd uses id
  | @cases arms table words otherwise =>
      rcases uses with ⟨key, lookedUp⟩ | rfl
      · have related := words key
        rw [lookedUp] at related
        generalize grammar.wordClass? arms key = className at related
        cases related with
        | some isClass => exact ⟨_, isClass⟩
      · exact ⟨_, otherwise⟩

namespace IsCompiled

variable {grammar : Grammar} {reader : PatternReader} {language : Language}

theorem isState (isCompiled : grammar.IsCompiled reader language) {name : String}
    {state : StateIndex} (isPosition : grammar.states.position? name = some state) :
    language.IsState grammar name state := by
  obtain ⟨lexState, isLexState, compiles⟩ := isCompiled.exists_lexState isPosition
  refine ⟨OrderedMap.position?_eq_some_iff_getElem?_keys.mp isPosition,
    (Array.getElem?_eq_some_iff.mp isLexState).1, ?_⟩
  rw [Language.stateName_of_getElem? isLexState, compiles.name_eq]

/-- Each rule of a state is a rule that a declared state stands for. -/
theorem exists_placedRule (isCompiled : grammar.IsCompiled reader language)
    {state : StateIndex} {rule : Rule} (member : rule ∈ language.rules state) :
    ∃ placed, grammar.IsDeclared placed ∧ grammar.CompilesRule reader placed rule := by
  cases isLexState : language.states[state]? with
  | none =>
      rw [Language.rules, isLexState] at member
      simp at member
  | some lexState =>
      rw [Language.rules_of_getElem? isLexState] at member
      obtain ⟨inside, -⟩ := Array.getElem?_eq_some_iff.mp isLexState
      obtain ⟨name, other, -, isOther, compiles⟩ := isCompiled.exists_state inside
      rw [isLexState, Option.some.injEq] at isOther
      subst isOther
      obtain ⟨placedRules, standsFor, related⟩ := compiles.rules
      obtain ⟨placed, isPlaced, compilesRule⟩ := exists_mem_of_forall₂ related member
      exact ⟨placed, standsFor.isDeclared isPlaced, compilesRule⟩

theorem names_eq (isCompiled : grammar.IsCompiled reader language) :
    language.states.toList.map LexState.name = grammar.states.keys := by
  have related : List.Forall₂ (· = ·) (language.states.toList.map LexState.name)
      grammar.states.keys := by
    rw [List.forall₂_map_left_iff]
    exact (isCompiled.states.imp fun name lexState compiles => compiles.name_eq).flip
  rwa [List.forall₂_eq_eq_eq] at related

/-- Looking a name up in the language gives what looking it up in the grammar gives. -/
theorem stateIndex?_eq (isCompiled : grammar.IsCompiled reader language) (name : String) :
    language.stateIndex? name = grammar.states.position? (plainName name) := by
  have found : language.states.findIdx? (·.name == plainName name) =
      grammar.states.position? (plainName name) := by
    calc
      language.states.findIdx? (·.name == plainName name) =
          (language.states.toList.map LexState.name).findIdx? (· == plainName name) := by
        rw [List.findIdx?_map, ← List.findIdx?_toArray, Array.toArray_toList]
        rfl
      _ = grammar.states.position? (plainName name) := by
        rw [isCompiled.names_eq, OrderedMap.position?_eq_findIdx?_keys]
  rw [Language.stateIndex?, found]
  cases isPosition : grammar.states.position? (plainName name) with
  | none => rfl
  | some position => rw [Option.map_some, ofPosition_eq isCompiled.size_le isPosition]

theorem numbersStates (isCompiled : grammar.IsCompiled reader language) :
    language.NumbersStates grammar where
  size_eq := isCompiled.size_states
  size_le := isCompiled.size_states ▸ isCompiled.size_le
  ofPosition position inside := by
    have sizeLe : language.states.size ≤ 65535 :=
      isCompiled.size_states ▸ isCompiled.size_le
    exact StateIndex.ofPosition_of_lt (by omega)
  declared name position isKey := by
    have isPosition := OrderedMap.position?_eq_some_iff_getElem?_keys.mpr isKey
    rw [ofPosition_eq isCompiled.size_le isPosition]
    exact isCompiled.isState isPosition
  stateIndex?_iff name state := by
    rw [isCompiled.stateIndex?_eq]
    exact ⟨isCompiled.isState, Language.IsState.position?_eq⟩
  start := isCompiled.isState isCompiled.start
  entered state rule member target isPush := by
    obtain ⟨placed, -, compiles⟩ := isCompiled.exists_placedRule member
    have changes := compiles.changes
    rw [isPush, ← compiles.action_eq] at changes
    generalize rule.action.transition = transition at changes
    cases changes with
    | push isPosition => exact ⟨_, rfl, isCompiled.isState isPosition⟩
  origin state rule member := by
    obtain ⟨placed, ⟨isPosition, entries, isEntries, isEntry⟩, compiles⟩ :=
      isCompiled.exists_placedRule member
    rw [compiles.origin_eq, compiles.patternText_eq, compiles.action_eq]
    exact ⟨placed.originName, entries, isCompiled.isState isPosition, isEntries, isEntry⟩

theorem resolvesClasses (isCompiled : grammar.IsCompiled reader language) :
    language.ResolvesClasses where
  defaultClass := isCompiled.classes_eq ▸ isCompiled.defaultClass.index_lt
  brackets entry member := by
    rw [isCompiled.classes_eq]
    obtain ⟨pair, -, -, -, isClass⟩ := exists_mem_of_forall₂ isCompiled.brackets member
    exact isClass.index_lt
  rules state rule member index uses := by
    rw [isCompiled.classes_eq]
    obtain ⟨placed, -, compiles⟩ := isCompiled.exists_placedRule member
    obtain ⟨base, isClass⟩ := compiles.emits.isClass_of_uses uses
    exact isClass.index_lt

end IsCompiled

end Grammar

end LineLexer
