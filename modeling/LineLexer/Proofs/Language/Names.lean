import LineLexer.Grammar.Description
import LineLexer.Proofs.Language.Acceptance
import LineLexer.Proofs.Language.Numbering
import LineLexer.Proofs.Report.EscapeSequences

/-!
# Characters in the names of a language

Reports show the names and the patterns of a language as they are.  A compiled language
shows none that its grammar does not hold: its classes are named by base names and the
postfix, its states, word sets and patterns as in the grammar.  So it is enough to look
for a character in the grammar.
-/

namespace LineLexer

/-! ### Names of classes and states -/

section Names

open Text

variable {char : Char}

theorem ClassNames.lacks_fullName {classes : ClassNames} (wellNamed : classes.WellNamed)
    (lacksPostfix : Lacks char classes.postfixText)
    (lackBases : ∀ base ∈ classes.fullNames.keys, Lacks char base) (index : ClassIndex) :
    Lacks char ((classes.fullName? index).getD "") := by
  rw [fullName?]
  cases isEntry : classes.fullNames.getAt? index with
  | none => exact .empty
  | some entry =>
      have member : entry ∈ classes.fullNames.toList :=
        Array.mem_toList_iff.mpr (Array.mem_of_getElem? isEntry)
      rw [Option.map_some, Option.getD_some, wellNamed entry member, fullNameOf]
      split
      · exact .empty
      · exact (lackBases entry.1 (List.mem_map_of_mem member)).append lacksPostfix

variable {grammar : Grammar} {reader : PatternReader} {language : Language}

theorem Language.lacks_className (compiled : grammar.compile reader = .ok language)
    (lacksPostfix : Lacks char grammar.postfixText)
    (lackBases : ∀ base ∈ grammar.classBases, Lacks char base) (index : ClassIndex) :
    Lacks char (language.className index) := by
  have wellNamed : grammar.classTable.WellNamed :=
    (ClassNames.wellNamed_empty grammar.postfixText).foldl_add
  have postfixText_eq : grammar.classTable.postfixText = grammar.postfixText :=
    ClassNames.postfixText_foldl_add
  rw [className, (Grammar.isCompiled_of_compile compiled).classes_eq]
  refine ClassNames.lacks_fullName wellNamed (postfixText_eq ▸ lacksPostfix)
    (fun base isKey => ?_) index
  rcases ClassNames.mem_keys_foldl_add.mp isKey with isOld | isBase
  · cases isOld
  · exact lackBases base isBase

theorem Language.lacks_stateName (compiled : grammar.compile reader = .ok language)
    (lackNames : ∀ name ∈ grammar.states.keys, Lacks char name) (state : StateIndex) :
    Lacks char (language.stateName state) := by
  rw [stateName]
  split
  · rename_i lexState isLexState
    refine lackNames _ ?_
    rw [← (Grammar.isCompiled_of_compile compiled).names_eq]
    exact List.mem_map_of_mem
      (Array.mem_toList_iff.mpr (Array.mem_of_getElem? isLexState))
  · exact .empty

theorem Language.lacks_stackText
    (lackNames : ∀ state, Lacks char (language.stateName state))
    (notFrame : char ∉ "[, ]".toList) (stack : ActiveStates) :
      Lacks char (language.stackText stack) := by
  have ofFrame {part : String} (isPart : part.toList ⊆ "[, ]".toList) : Lacks char part :=
    fun member => notFrame (isPart member)
  have areLacking : ∀ name ∈ language.stackNames stack, Lacks char name := by
    intro name member
    obtain ⟨state, -, rfl⟩ := List.mem_map.mp member
    exact lackNames state
  exact ((ofFrame (by decide)).append
    (.intercalate (ofFrame (by decide)) areLacking)).append (ofFrame (by decide))

end Names

/-! ### Languages that are free of escapes -/

def Entry.pattern? : Entry → Option String
  | .rule pattern _ => some pattern
  | .include _ => none

def Grammar.patterns (grammar : Grammar) : List String :=
  grammar.states.toList.flatMap fun declared => declared.2.filterMap Entry.pattern?

theorem Grammar.mem_patterns {grammar : Grammar} {state : String} {entries : List Entry}
    {pattern : String} {action : Action}
    (isEntries : grammar.states.get? state = some entries)
    (isRule : Entry.rule pattern action ∈ entries) : pattern ∈ grammar.patterns :=
  List.mem_flatMap.mpr ⟨(state, entries),
    OrderedMap.get?_eq_some_iff_mem_toList.mp isEntries,
    List.mem_filterMap.mpr ⟨_, isRule, rfl⟩⟩

/-- The names and patterns of a grammar are free of escapes. -/
structure Grammar.IsEscapeFree (grammar : Grammar) : Prop where
  name : Text.IsEscapeFree grammar.name
  postfixText : Text.IsEscapeFree grammar.postfixText
  states : ∀ state ∈ grammar.states.keys, Text.IsEscapeFree state
  wordSets : ∀ setName ∈ grammar.wordSets.keys, Text.IsEscapeFree setName
  classes : ∀ base ∈ grammar.classBases, Text.IsEscapeFree base
  patterns : ∀ pattern ∈ grammar.patterns, Text.IsEscapeFree pattern

/-- All texts that reports take from a language as they are, are free of escapes. -/
structure Language.IsEscapeFree (language : Language) : Prop where
  name : Text.IsEscapeFree language.name
  className : ∀ index, Text.IsEscapeFree (language.className index)
  stateName : ∀ state, Text.IsEscapeFree (language.stateName state)
  patternText : ∀ state, ∀ rule ∈ language.rules state, Text.IsEscapeFree rule.patternText
  description : ∀ state, ∀ rule ∈ language.rules state,
    Text.IsEscapeFree rule.action.description

open Text

/-- A name is free of escapes if it is so without the `@` before it. -/
theorem isEscapeFree_of_plainName {name : String}
    (isFree : IsEscapeFree (plainName name)) : IsEscapeFree name := by
  rw [plainName] at isFree
  split at isFree
  · rename_i rest name_eq
    rw [IsEscapeFree, Lacks, String.toList_ofList] at isFree
    rw [IsEscapeFree, Lacks, name_eq]
    exact List.not_mem_cons_of_ne_of_not_mem (by decide) isFree
  · exact isFree

theorem Emission.isEscapeFree_description {emission : Emission}
    (classes : ∀ base ∈ emission.classNames, IsEscapeFree base)
    (wordSets : ∀ arms, emission = .cases arms → ∀ setName className,
      (Guard.inSet setName, className) ∈ arms →
      IsEscapeFree setName) :
    IsEscapeFree emission.description := by
  cases emission with
  | token className => exact classes className List.mem_cons_self
  | brackets => decide
  | cases arms =>
      have areFree : ∀ text ∈ arms.map fun arm => arm.1.description ++ ": " ++ arm.2,
          IsEscapeFree text := by
        intro text member
        obtain ⟨⟨guard, className⟩, isArm, rfl⟩ := List.mem_map.mp member
        have guardFree : IsEscapeFree guard.description := by
          cases guard with
          | inSet setName =>
              exact .append (by decide) (wordSets arms rfl setName className isArm)
          | otherwise => decide
        exact (guardFree.append (by decide)).append
          (classes className (List.mem_map_of_mem isArm))
      exact (Lacks.append (by decide) (.intercalate (by decide) areFree)).append
        (by decide)

theorem Action.isEscapeFree_description {action : Action}
    (emission : IsEscapeFree action.emission.description)
    (entered : ∀ target, action.transition = some (.push target) → IsEscapeFree target) :
    IsEscapeFree action.description := by
  rw [description]
  split
  · exact emission
  · rename_i transition isTransition
    refine (emission.append (by decide)).append ?_
    cases transition with
    | push target => exact .append (by decide) (entered target isTransition)
    | pop => decide
    | popAll => decide

variable {grammar : Grammar} {reader : PatternReader} {language : Language}

/-- Each rule of a state is made from a rule of the expansion of a declared state. -/
theorem Grammar.exists_compileRule_of_mem_rules
    (compiled : grammar.compile reader = .ok language) {state : StateIndex} {rule : Rule}
    (member : rule ∈ language.rules state) :
    ∃ name ∈ grammar.states.keys, ∃ placedRules, grammar.expand name = .ok placedRules ∧
      ∃ placed ∈ placedRules, grammar.compileRule reader grammar.classTable placed =
        .ok rule := by
  rw [Language.rules] at member
  split at member
  · rename_i lexState isLexState
    have areStates := (List.forall₂_and_left _ _).mpr
      ⟨fun _ isKey => isKey, compileState_of_compile compiled⟩
    obtain ⟨name, isKey, isCompiled⟩ :=
      exists_mem_of_forall₂ areStates
        (Array.mem_toList_iff.mpr (Array.mem_of_getElem? isLexState))
    obtain ⟨placedRules, expanded, afterExpansion⟩ := bind_eq_ok_iff.mp isCompiled.2
    obtain ⟨rules, areRules, afterRules⟩ := bind_eq_ok_iff.mp afterExpansion
    obtain rfl := Except.ok.inj afterRules
    obtain ⟨placed, isPlaced, isRule⟩ :=
      exists_mem_of_forall₂ (mapM_eq_ok_iff.mp areRules) member
    exact ⟨name, isKey, placedRules, expanded, placed, isPlaced, isRule⟩
  · cases member

theorem Grammar.action_eq_of_compileRule {placed : PlacedRule} {classes : ClassNames}
    {rule : Rule} (isRule : grammar.compileRule reader classes placed = .ok rule) :
    rule.action = placed.action := by
  obtain ⟨pattern, -, afterPattern⟩ := bind_eq_ok_iff.mp isRule
  obtain ⟨classifier, -, afterClassifier⟩ := bind_eq_ok_iff.mp afterPattern
  obtain ⟨change, -, afterChange⟩ := bind_eq_ok_iff.mp afterClassifier
  exact Except.ok.inj afterChange ▸ rfl

/-- The language of a grammar that is free of escapes has none to show. -/
theorem Grammar.IsEscapeFree.compile (isFree : grammar.IsEscapeFree)
    (compiled : grammar.compile reader = .ok language) : language.IsEscapeFree where
  name := by
    obtain ⟨_, _, -, -, -, -, rfl⟩ := compile_eq_ok_iff.mp compiled
    exact isFree.name
  className := Language.lacks_className compiled isFree.postfixText isFree.classes
  stateName := Language.lacks_stateName compiled isFree.states
  patternText state rule member := by
    obtain ⟨placed, ⟨-, entries, isEntries, isEntry⟩, compiles⟩ :=
      (isCompiled_of_compile compiled).exists_placedRule member
    rw [compiles.patternText_eq]
    exact isFree.patterns _ (mem_patterns isEntries isEntry)
  description state rule member := by
    obtain ⟨name, isKey, placedRules, expanded, placed, isPlaced, isRule⟩ :=
      exists_compileRule_of_mem_rules compiled member
    have sound := exists_compileRule_iff.mp ⟨rule, isRule⟩
    rw [action_eq_of_compileRule isRule]
    refine Action.isEscapeFree_description
      (Emission.isEscapeFree_description (fun base named => ?_) ?_) ?_
    · exact isFree.classes base (mem_classBases_of_expand isKey expanded isPlaced named)
    · exact fun arms areArms setName className isArm =>
        isFree.wordSets setName (sound.wordSets arms areArms setName className isArm)
    · exact fun target isPush =>
        isEscapeFree_of_plainName (isFree.states _ (sound.entered target isPush))

end LineLexer
