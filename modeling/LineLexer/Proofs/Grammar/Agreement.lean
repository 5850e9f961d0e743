import LineLexer.Proofs.Grammar.Meaning
import LineLexer.Proofs.Language.Acceptance

/-!
# Grammars that say the same

A grammar means what it means through its look-ups: the entries of a state by name,
whether a set has a word, and the bracket table in its order.  Two grammars whose look-ups
agree read every line in the same way, and either both of them compile or neither does.
-/

namespace LineLexer.Grammar

/-- Everything that reading or compiling looks up by name is the same in both grammars. -/
structure Agrees (first second : Grammar) : Prop where
  defaultClass_eq : second.defaultClass = first.defaultClass
  postfixText_eq : second.postfixText = first.postfixText
  ignoreCase_eq : second.ignoreCase = first.ignoreCase
  startName_eq : second.startName = first.startName
  brackets_eq : second.brackets = first.brackets
  size_eq : second.states.size = first.states.size
  get?_eq : ∀ state, second.states.get? state = first.states.get? state
  isSet_iff : ∀ setName, setName ∈ second.wordSets.keys ↔ setName ∈ first.wordSets.keys
  isWord_iff : ∀ setName word, word ∈ (second.wordSets.get? setName).getD [] ↔
    word ∈ (first.wordSets.get? setName).getD []

namespace Agrees

variable {first second : Grammar} {reader : PatternReader}

theorem symm (agrees : first.Agrees second) : second.Agrees first where
  defaultClass_eq := agrees.defaultClass_eq.symm
  postfixText_eq := agrees.postfixText_eq.symm
  ignoreCase_eq := agrees.ignoreCase_eq.symm
  startName_eq := agrees.startName_eq.symm
  brackets_eq := agrees.brackets_eq.symm
  size_eq := agrees.size_eq.symm
  get?_eq state := (agrees.get?_eq state).symm
  isSet_iff setName := (agrees.isSet_iff setName).symm
  isWord_iff setName word := (agrees.isWord_iff setName word).symm

/-! ### Reading -/

theorem wordKey_eq (agrees : first.Agrees second) : second.wordKey = first.wordKey := by
  funext word
  rw [wordKey, wordKey, agrees.ignoreCase_eq]

theorem listsKey_eq (agrees : first.Agrees second) :
    second.listsKey = first.listsKey := by
  funext key guard
  cases guard with
  | otherwise => rfl
  | inSet setName =>
      rw [listsKey, listsKey, agrees.wordKey_eq, Bool.eq_iff_iff, List.any_eq_true,
        List.any_eq_true]
      simp only [agrees.isWord_iff]

theorem emitted_eq (agrees : first.Agrees second) : second.emitted = first.emitted := by
  funext emission text
  cases emission with
  | token className => rfl
  | brackets =>
      rw [emitted, emitted, bracketClass, bracketClass, agrees.brackets_eq,
        agrees.defaultClass_eq]
  | cases arms =>
      rw [emitted, emitted, caseClass, caseClass, wordClass?, wordClass?,
        agrees.listsKey_eq, agrees.wordKey_eq, agrees.defaultClass_eq]

theorem tokenOf_eq (agrees : first.Agrees second) : second.tokenOf = first.tokenOf := by
  funext offset emission text
  rw [tokenOf, tokenOf, agrees.emitted_eq, agrees.postfixText_eq]

theorem matchLength?_eq (agrees : first.Agrees second) :
    second.matchLength? reader = first.matchLength? reader := by
  funext pattern text
  rw [Grammar.matchLength?, Grammar.matchLength?, agrees.ignoreCase_eq]

theorem topEntries?_eq (agrees : first.Agrees second) :
    second.topEntries? = first.topEntries? := by
  funext names
  rw [topEntries?, topEntries?, funext agrees.get?_eq]

theorem selects (agrees : first.Agrees second) {text : List Char} {entries : List Entry}
    {choice : Option (Action × Nat)}
    (isChoice : first.Selects reader text entries choice) :
    second.Selects reader text entries choice := by
  induction isChoice with
  | nil => exact .nil
  | hit isMatch positive =>
      rw [← agrees.matchLength?_eq] at isMatch
      exact .hit isMatch positive
  | pass noText others ih =>
      rw [← agrees.matchLength?_eq] at noText
      exact .pass noText ih
  | inside isEntries inner ih =>
      rw [← agrees.get?_eq] at isEntries
      exact .inside isEntries ih
  | past isEntries inner others innerIH othersIH =>
      rw [← agrees.get?_eq] at isEntries
      exact .past isEntries innerIH othersIH

theorem reads (agrees : first.Agrees second) {offset : Nat} {rest : List Char}
    {names endNames : List String} {tokens : List NamedToken}
    (isReading : first.Reads reader offset rest names tokens endNames) :
    second.Reads reader offset rest names tokens endNames := by
  induction isReading with
  | finished => exact .finished
  | matched nonempty isTop isChoice others ih =>
      rw [← agrees.topEntries?_eq] at isTop
      rw [← agrees.tokenOf_eq]
      exact .matched nonempty isTop (agrees.selects isChoice) ih
  | unmatched isTop isChoice others ih =>
      rw [← agrees.topEntries?_eq] at isTop
      rw [← agrees.tokenOf_eq, ← agrees.defaultClass_eq]
      exact .unmatched isTop (agrees.selects isChoice) ih

/-! ### Compiling -/

theorem mem_keys_iff (agrees : first.Agrees second) {state : String} :
    state ∈ second.states.keys ↔ state ∈ first.states.keys := by
  rw [OrderedMap.mem_keys_iff_exists_get?, OrderedMap.mem_keys_iff_exists_get?,
    agrees.get?_eq]

theorem includes_eq (agrees : first.Agrees second) :
    second.Includes = first.Includes := by
  funext state target
  simp only [Includes, agrees.get?_eq]

theorem includesEnd (agrees : first.Agrees second) (ends : first.IncludesEnd) :
    second.IncludesEnd := by
  constructor
  · intro state target
    rw [agrees.includes_eq, agrees.mem_keys_iff]
    exact ends.declared state target
  · rw [agrees.includes_eq]
    exact ends.acyclic

theorem ruleIsSound (agrees : first.Agrees second) {pattern : String} {action : Action}
    (sound : first.RuleIsSound reader pattern action) :
    second.RuleIsSound reader pattern action where
  pattern := by
    rw [agrees.ignoreCase_eq]
    exact sound.pattern
  entered target isPush := agrees.mem_keys_iff.mpr (sound.entered target isPush)
  wordSets arms isCases setName className member :=
    (agrees.isSet_iff setName).mpr (sound.wordSets arms isCases setName className member)
  brackets isBrackets := by
    rw [agrees.brackets_eq]
    exact sound.brackets isBrackets

theorem compiles (agrees : first.Agrees second)
    (compiled : ∃ language, first.compile reader = .ok language) :
    ∃ language, second.compile reader = .ok language := by
  rw [exists_compile_iff_checks] at compiled ⊢
  simp only [exists_compileState_iff] at compiled ⊢
  obtain ⟨start, sizeLe, brackets, states⟩ := compiled
  have expanded : ∀ state ∈ first.states.keys, ∃ rules, first.expand state = .ok rules :=
    fun state isState => (states state isState).imp fun _ expansion => expansion.1
  have sound := (forall_expansion_sound_iff sizeLe expanded).mp
    fun state isState rules isExpansion => by
    obtain ⟨others, isOther, sound⟩ := states state isState
    obtain rfl := Except.ok.inj (isExpansion.symm.trans isOther)
    exact sound
  have otherSizeLe : second.states.size ≤ stateLimit := agrees.size_eq ▸ sizeLe
  have otherExpanded := (forall_exists_expand_iff otherSizeLe).mpr
    (agrees.includesEnd ((forall_exists_expand_iff sizeLe).mp expanded))
  have otherSound := (forall_expansion_sound_iff otherSizeLe otherExpanded).mpr
    fun state entries isEntries pattern action isEntry =>
      agrees.ruleIsSound
        (sound state entries (agrees.get?_eq state ▸ isEntries) pattern action isEntry)
  refine ⟨?_, otherSizeLe, agrees.brackets_eq ▸ brackets, fun state isState => ?_⟩
  · rw [agrees.startName_eq]
    exact agrees.mem_keys_iff.mpr start
  · obtain ⟨rules, isExpansion⟩ := otherExpanded state isState
    exact ⟨rules, isExpansion, otherSound state isState rules isExpansion⟩

end Agrees

end LineLexer.Grammar
