import LineLexer.Proofs.Grammar.Inclusion
import LineLexer.Proofs.Language.Compilation

/-!
# Which grammars are accepted

Compiling accepts a grammar exactly if it is well formed, which is said here without
compiling: by the names that the grammar declares, the graph of its includes and the
patterns that can be read.  Rules are compiled only where they turn up in an expansion.
As every rule turns up in the expansion of its own state, and every rule of an expansion
is declared in some state, this finds each faulty rule and blames no other.
-/

namespace LineLexer.Grammar

/-- What a rule refers to exists, and its pattern can be read. -/
structure RuleIsSound (grammar : Grammar) (reader : PatternReader) (pattern : String)
    (action : Action) : Prop where
  pattern : ∃ matcher, reader grammar.ignoreCase pattern = .ok matcher
  entered : ∀ target, action.transition = some (.push target) →
    plainName target ∈ grammar.states.keys
  wordSets : ∀ arms, action.emission = .cases arms →
    ∀ setName className, (Guard.inSet setName, className) ∈ arms →
      setName ∈ grammar.wordSets.keys
  brackets : action.emission = .brackets → grammar.brackets ≠ []

/-- Everything that a grammar refers to exists, whether or not a scan can come to it. -/
structure IsWellFormed (grammar : Grammar) (reader : PatternReader) : Prop where
  start : grammar.startName ∈ grammar.states.keys
  size_le : grammar.states.size ≤ 65535
  brackets : ∀ pair ∈ grammar.brackets,
    pair.opening ≠ "" ∧ pair.closing ≠ "" ∧ pair.className ≠ ""
  includesEnd : grammar.IncludesEnd
  rules : ∀ state entries, grammar.states.get? state = some entries →
    ∀ pattern action, Entry.rule pattern action ∈ entries →
      grammar.RuleIsSound reader pattern action

variable {grammar : Grammar} {reader : PatternReader} {classes : ClassNames}
  {placed : PlacedRule}

section Rules

theorem exists_caseWords_iff {arms : List (Guard × String)}
    {classOf : Std.TreeMap String ClassIndex} :
    (∃ table, grammar.caseWords classes placed arms classOf = .ok table) ↔
      ∀ setName className, (Guard.inSet setName, className) ∈ arms →
        setName ∈ grammar.wordSets.keys := by
  induction arms generalizing classOf with
  | nil => simp [caseWords]
  | cons arm arms ih =>
      obtain ⟨guard, armClass⟩ := arm
      cases guard with
      | otherwise =>
          -- This arm adds no words, and the arms after it are looked at all the same.
          rw [caseWords, ih]
          simp
      | inSet armSet =>
          rw [caseWords]
          cases isSet : grammar.wordSets.get? armSet with
          | none =>
              have undeclared : armSet ∉ grammar.wordSets.keys :=
                OrderedMap.get?_eq_none_iff.mp isSet
              constructor
              · rintro ⟨table, failed⟩
                cases failed
              · intro declared
                exact absurd (declared armSet armClass List.mem_cons_self) undeclared
          | some words =>
              have declared : armSet ∈ grammar.wordSets.keys :=
                OrderedMap.mem_keys_iff_exists_get?.mpr ⟨words, isSet⟩
              simp only [ih]
              constructor
              · intro others setName className member
                rcases List.mem_cons.mp member with same | member
                · cases same
                  exact declared
                · exact others setName className member
              · exact fun all setName className member =>
                  all setName className (List.mem_cons_of_mem _ member)

theorem exists_classifier_iff :
    (∃ classifier, grammar.classifier classes placed = .ok classifier) ↔
      (∀ arms, placed.action.emission = .cases arms → ∀ setName className,
          (Guard.inSet setName, className) ∈ arms → setName ∈ grammar.wordSets.keys) ∧
        (placed.action.emission = .brackets → grammar.brackets ≠ []) := by
  rw [Grammar.classifier]
  cases placed.action.emission with
  | token className => simp
  | brackets =>
      by_cases none : grammar.brackets = [] <;> simp [none]
  | cases arms =>
      simp only [exists_bind_eq_ok_iff]
      constructor
      · rintro ⟨table, isTable, -⟩
        refine ⟨?_, by simp⟩
        rintro _ ⟨rfl⟩
        exact exists_caseWords_iff.mp ⟨table, isTable⟩
      · rintro ⟨declared, -⟩
        obtain ⟨table, isTable⟩ := exists_caseWords_iff.mpr (declared arms rfl)
        exact ⟨table, isTable, _, rfl⟩

theorem exists_stackChange_iff :
    (∃ change, grammar.stackChange placed = .ok change) ↔
      ∀ target, placed.action.transition = some (.push target) →
        plainName target ∈ grammar.states.keys := by
  rw [stackChange]
  cases placed.action.transition with
  | none => simp
  | some transition =>
      cases transition with
      | pop => simp
      | popAll => simp
      | push target =>
          have declared : plainName target ∈ grammar.states.keys ↔
              (grammar.states.position? (plainName target)).isSome := by
            rw [OrderedMap.mem_keys_iff_exists_position?, Option.isSome_iff_exists]
          cases isPosition : grammar.states.position? (plainName target) with
          | none => simp [declared, isPosition]
          | some position => simp [declared, isPosition]

/-- A rule is compiled without a defect exactly if it is sound. -/
theorem exists_compileRule_iff :
    (∃ rule, grammar.compileRule reader classes placed = .ok rule) ↔
      grammar.RuleIsSound reader placed.pattern placed.action := by
  rw [compileRule]
  simp only [exists_bind_eq_ok_iff, mapError_eq_ok_iff]
  constructor
  · rintro ⟨matcher, isMatcher, classifier, isClassifier, change, isChange, -⟩
    obtain ⟨wordSets, brackets⟩ := exists_classifier_iff.mp ⟨classifier, isClassifier⟩
    exact ⟨⟨matcher, isMatcher⟩, exists_stackChange_iff.mp ⟨change, isChange⟩,
      wordSets, brackets⟩
  · intro sound
    obtain ⟨matcher, isMatcher⟩ := sound.pattern
    obtain ⟨classifier, isClassifier⟩ :=
      exists_classifier_iff.mpr ⟨sound.wordSets, sound.brackets⟩
    obtain ⟨change, isChange⟩ := exists_stackChange_iff.mpr sound.entered
    exact ⟨matcher, isMatcher, classifier, isClassifier, change, isChange, _, rfl⟩

end Rules

section States

theorem exists_compileState_iff {name : String}
    {expansion : Except Defect (List PlacedRule)} :
    (∃ lexState, grammar.compileState reader classes (name, expansion) = .ok lexState) ↔
      ∃ rules, expansion = .ok rules ∧
        ∀ placed ∈ rules, grammar.RuleIsSound reader placed.pattern placed.action := by
  rw [compileState]
  have compiledRule {placed : PlacedRule} :
      grammar.RuleIsSound reader placed.pattern placed.action ↔
        ∃ rule, grammar.compileRule reader classes placed = .ok rule :=
    exists_compileRule_iff.symm
  simp only [exists_bind_eq_ok_iff, compiledRule, ← exists_mapM_eq_ok_iff]
  constructor
  · rintro ⟨rules, expanded, compiled, areRules, -⟩
    exact ⟨rules, expanded, compiled, areRules⟩
  · rintro ⟨rules, expanded, compiled, areRules⟩
    exact ⟨rules, expanded, compiled, areRules, _, rfl⟩

/-- The rules of all expansions are sound exactly if the rules of all declared states
are. -/
theorem forall_expansion_sound_iff (sizeLe : grammar.states.size ≤ stateLimit)
    (expanded : ∀ state ∈ grammar.states.keys,
      ∃ rules, grammar.expand state = .ok rules) :
    (∀ state ∈ grammar.states.keys, ∀ rules, grammar.expand state = .ok rules →
        ∀ placed ∈ rules, grammar.RuleIsSound reader placed.pattern placed.action) ↔
      ∀ state entries, grammar.states.get? state = some entries →
        ∀ pattern action, Entry.rule pattern action ∈ entries →
          grammar.RuleIsSound reader pattern action := by
  constructor
  · intro sound state entries isEntries pattern action isEntry
    have isState : state ∈ grammar.states.keys :=
      OrderedMap.mem_keys_iff_exists_get?.mpr ⟨entries, isEntries⟩
    obtain ⟨rules, isExpansion⟩ := expanded state isState
    obtain ⟨position, own, -, isOwn, splices⟩ := standsFor_of_expand sizeLe isExpansion
    obtain rfl := Option.some.inj (isEntries.symm.trans isOwn)
    exact sound state isState rules isExpansion _ (splices.mem_of_rule isEntry)
  · intro sound state isState rules isExpansion placed member
    obtain ⟨-, entries, isEntries, isEntry⟩ :=
      (standsFor_of_expand sizeLe isExpansion).isDeclared member
    exact sound placed.originName entries isEntries placed.pattern placed.action isEntry

end States

theorem isIncomplete_eq_false_iff {pair : BracketPair} :
    pair.isIncomplete = false ↔
      pair.opening ≠ "" ∧ pair.closing ≠ "" ∧ pair.className ≠ "" := by
  simp [BracketPair.isIncomplete, and_assoc]

/-- The checks of compiling, one after the other. -/
theorem exists_compile_iff_checks :
    (∃ language, grammar.compile reader = .ok language) ↔
      grammar.startName ∈ grammar.states.keys ∧ grammar.states.size ≤ stateLimit ∧
        (∀ pair ∈ grammar.brackets, pair.isIncomplete = false) ∧
          ∀ state ∈ grammar.states.keys, ∃ lexState,
            grammar.compileState reader grammar.classTable (state, grammar.expand state) =
              .ok lexState := by
  simp only [compile_eq_ok_iff]
  constructor
  · rintro ⟨language, position, lexStates, isStart, sizeLe, noneLacking, areStates, -⟩
    have complete : ∀ pair ∈ grammar.brackets, pair.isIncomplete = false := by
      simpa using List.find?_eq_none.mp noneLacking
    refine ⟨OrderedMap.mem_keys_iff_exists_position?.mpr ⟨position, isStart⟩, sizeLe,
      complete, ?_⟩
    exact fun state isState =>
      exists_mapM_eq_ok_iff.mp ⟨lexStates, areStates⟩ _ (List.mem_map_of_mem isState)
  · rintro ⟨isState, sizeLe, complete, compiled⟩
    obtain ⟨position, isStart⟩ := OrderedMap.mem_keys_iff_exists_position?.mp isState
    have noneLacking : grammar.brackets.find? (·.isIncomplete) = none := by
      simpa using complete
    obtain ⟨lexStates, areStates⟩ := exists_mapM_eq_ok_iff.mpr fun expansion member => by
      obtain ⟨state, isState, rfl⟩ := List.mem_map.mp member
      exact compiled state isState
    exact ⟨_, position, lexStates, isStart, sizeLe, noneLacking, areStates, rfl⟩

/-- No include of a grammar that compiles is undeclared or leads into a circle. -/
theorem includesEnd_of_compile {language : Language}
    (compiled : grammar.compile reader = .ok language) : grammar.IncludesEnd := by
  obtain ⟨-, sizeLe, -, states⟩ := exists_compile_iff_checks.mp ⟨language, compiled⟩
  refine (forall_exists_expand_iff sizeLe).mp fun state isState => ?_
  obtain ⟨rules, isExpansion, -⟩ := exists_compileState_iff.mp (states state isState)
  exact ⟨rules, isExpansion⟩

/-- Compiling gives a language exactly for the well-formed grammars. -/
theorem exists_compile_iff_isWellFormed :
    (∃ language, grammar.compile reader = .ok language) ↔
      grammar.IsWellFormed reader := by
  constructor
  · rintro ⟨language, compiled⟩
    have ends := includesEnd_of_compile compiled
    obtain ⟨start, sizeLe, complete, states⟩ :=
      exists_compile_iff_checks.mp ⟨language, compiled⟩
    have expanded := (forall_exists_expand_iff sizeLe).mpr ends
    refine ⟨start, sizeLe, fun pair member => ?_, ends, ?_⟩
    · exact isIncomplete_eq_false_iff.mp (complete pair member)
    · refine (forall_expansion_sound_iff sizeLe expanded).mp
        fun state isState rules isExpansion => ?_
      obtain ⟨others, isOther, sound⟩ := exists_compileState_iff.mp (states state isState)
      obtain rfl := Except.ok.inj (isExpansion.symm.trans isOther)
      exact sound
  · intro wellFormed
    have sizeLe : grammar.states.size ≤ stateLimit := wellFormed.size_le
    have expanded := (forall_exists_expand_iff sizeLe).mpr wellFormed.includesEnd
    have sound := (forall_expansion_sound_iff sizeLe expanded).mpr wellFormed.rules
    refine exists_compile_iff_checks.mpr ⟨wellFormed.start, sizeLe,
      fun pair member => ?_, fun state isState => ?_⟩
    · exact isIncomplete_eq_false_iff.mpr (wellFormed.brackets pair member)
    · obtain ⟨rules, isExpansion⟩ := expanded state isState
      exact exists_compileState_iff.mpr
        ⟨rules, isExpansion, sound state isState rules isExpansion⟩

end LineLexer.Grammar
