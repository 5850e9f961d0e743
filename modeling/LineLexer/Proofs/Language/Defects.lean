import LineLexer.Proofs.Language.Acceptance
import Mathlib.Data.List.Chain

/-!
# Reported defects

When a grammar is refused, the defect that is reported is in the grammar, at the place
that it names.  Each check of compiling reports what it has seen itself, apart from the
rules of an expansion: these may come from other states, and are known to stand where they
say because expansions keep the origin of every rule.
-/

namespace LineLexer.Grammar

/-- The rule stands among the own entries of the state. -/
def HasRule (grammar : Grammar) (state pattern : String) (action : Action) : Prop :=
  ∃ entries, grammar.states.get? state = some entries ∧
    Entry.rule pattern action ∈ entries

/-- The grammar has the defect, at the place that the defect names. -/
inductive HasDefect (grammar : Grammar) (reader : PatternReader) : Defect → Prop where
  | missingState (undeclared : grammar.startName ∉ grammar.states.keys) :
      HasDefect grammar reader (.missingState grammar.startName)
  | tooManyStates (many : stateLimit < grammar.states.size) :
      HasDefect grammar reader (.tooManyStates grammar.states.size)
  | invalidBracket {pair : BracketPair}
      (isFirst : grammar.brackets.find? (·.isIncomplete) = some pair) :
      HasDefect grammar reader (.invalidBracket pair.opening pair.closing)
  | unknownInclude {state target : String} (includes : grammar.Includes state target)
      (undeclared : target ∉ grammar.states.keys) :
      HasDefect grammar reader (.unknownInclude state target)
  | includeCycle {states : List String} {state : String} (nodup : states.Nodup)
      (isMember : state ∈ states)
      (isWalk : (states ++ [state]).IsChain grammar.Includes) :
      HasDefect grammar reader (.includeCycle (states ++ [state]))
  | invalidPattern {state pattern : String} {action : Action} {report : String}
      (isRule : grammar.HasRule state pattern action)
      (isReport : reader grammar.ignoreCase pattern = .error report) :
      HasDefect grammar reader (.invalidPattern state pattern report)
  | missingBrackets {state pattern : String} {action : Action}
      (isRule : grammar.HasRule state pattern action) (asks : action.emission = .brackets)
      (empty : grammar.brackets = []) :
      HasDefect grammar reader (.missingBrackets state pattern)
  | unknownWordSet {state pattern setName className : String} {action : Action}
      {arms : List (Guard × String)} (isRule : grammar.HasRule state pattern action)
      (isCases : action.emission = .cases arms)
      (isArm : (Guard.inSet setName, className) ∈ arms)
      (undeclared : setName ∉ grammar.wordSets.keys) :
      HasDefect grammar reader (.unknownWordSet state pattern setName)
  | unknownPushTarget {state pattern name : String} {action : Action}
      (isRule : grammar.HasRule state pattern action)
      (isPush : action.transition = some (.push name))
      (undeclared : plainName name ∉ grammar.states.keys) :
      HasDefect grammar reader (.unknownPushTarget state pattern (plainName name))

variable {grammar : Grammar} {reader : PatternReader} {classes : ClassNames}
  {placed : PlacedRule} {defect : Defect}

section Rules

theorem unknownWordSet_of_caseWords {arms : List (Guard × String)}
    {classOf : Std.TreeMap String ClassIndex}
    (failed : grammar.caseWords classes placed arms classOf = .error defect) :
    ∃ setName className, (Guard.inSet setName, className) ∈ arms ∧
      setName ∉ grammar.wordSets.keys ∧
        defect = .unknownWordSet placed.originName placed.pattern setName := by
  induction arms generalizing classOf with
  | nil => cases failed
  | cons arm arms ih =>
      obtain ⟨guard, armClass⟩ := arm
      cases guard with
      | otherwise =>
          rw [caseWords] at failed
          obtain ⟨setName, className, isArm, others⟩ := ih failed
          exact ⟨setName, className, List.mem_cons_of_mem _ isArm, others⟩
      | inSet armSet =>
          rw [caseWords] at failed
          cases isSet : grammar.wordSets.get? armSet with
          | none =>
              rw [isSet] at failed
              exact ⟨armSet, armClass, List.mem_cons_self,
                OrderedMap.get?_eq_none_iff.mp isSet, (Except.error.inj failed).symm⟩
          | some words =>
              rw [isSet] at failed
              obtain ⟨setName, className, isArm, others⟩ := ih failed
              exact ⟨setName, className, List.mem_cons_of_mem _ isArm, others⟩

theorem hasDefect_of_classifier
    (isRule : grammar.HasRule placed.originName placed.pattern placed.action)
    (failed : grammar.classifier classes placed = .error defect) :
    grammar.HasDefect reader defect := by
  rw [Grammar.classifier] at failed
  cases emission_eq : placed.action.emission with
  | token className =>
      rw [emission_eq] at failed
      cases failed
  | brackets =>
      rw [emission_eq] at failed
      simp only at failed
      split at failed
      · rename_i isEmpty
        cases failed
        exact .missingBrackets isRule emission_eq (List.isEmpty_iff.mp isEmpty)
      · cases failed
  | cases arms =>
      rw [emission_eq] at failed
      rcases bind_eq_error_iff.mp failed with failed | ⟨classOf, -, failed⟩
      · obtain ⟨setName, className, isArm, undeclared, rfl⟩ :=
          unknownWordSet_of_caseWords failed
        exact .unknownWordSet isRule emission_eq isArm undeclared
      · cases failed

theorem hasDefect_of_stackChange
    (isRule : grammar.HasRule placed.originName placed.pattern placed.action)
    (failed : grammar.stackChange placed = .error defect) :
    grammar.HasDefect reader defect := by
  rw [stackChange] at failed
  split at failed
  · cases failed
  · cases failed
  · cases failed
  · rename_i name isPush
    split at failed
    · cases failed
    · rename_i isNone
      cases failed
      exact .unknownPushTarget isRule isPush (OrderedMap.position?_eq_none_iff.mp isNone)

/-- The checks of a rule report what is wrong with this rule, at the state in which it
stands. -/
theorem hasDefect_of_compileRule (isDeclared : grammar.IsDeclared placed)
    (failed : grammar.compileRule reader classes placed = .error defect) :
    grammar.HasDefect reader defect := by
  have isRule : grammar.HasRule placed.originName placed.pattern placed.action :=
    isDeclared.2
  rcases bind_eq_error_iff.mp failed with failed | ⟨pattern, -, failed⟩
  · obtain ⟨report, isReport, rfl⟩ := mapError_eq_error_iff.mp failed
    exact .invalidPattern isRule isReport
  · rcases bind_eq_error_iff.mp failed with failed | ⟨classifier, -, failed⟩
    · exact hasDefect_of_classifier isRule failed
    · rcases bind_eq_error_iff.mp failed with failed | ⟨change, -, failed⟩
      · exact hasDefect_of_stackChange isRule failed
      · cases failed

end Rules

section Includes

variable {chain : List String} {state : String}

/-- A chain to a state, read from its outermost state, is a walk along includes. -/
structure IsWalkTo (grammar : Grammar) (chain : List String) (state : String) : Prop
    extends grammar.IsChainTo chain state where
  isWalk : (chain.reverse ++ [state]).IsChain grammar.Includes

theorem isWalkTo_nil : grammar.IsWalkTo [] state :=
  ⟨isChainTo_nil, .singleton state⟩

theorem IsWalkTo.cons (isWalkTo : grammar.IsWalkTo chain state) (isNew : state ∉ chain)
    (isDeclared : state ∈ grammar.states.keys) {target : String}
    (includes : grammar.Includes state target) :
    grammar.IsWalkTo (state :: chain) target where
  toIsChainTo := isWalkTo.toIsChainTo.cons isNew isDeclared includes
  isWalk := by
    rw [List.reverse_cons, List.isChain_append]
    refine ⟨isWalkTo.isWalk, .singleton target, ?_⟩
    simpa using includes

/-- Where the expansion comes to a state of its chain, it reports the circle that it has
found. -/
theorem expandWithin_of_mem {room : Nat} (member : state ∈ chain) :
    grammar.expandWithin room chain state =
      .error (.includeCycle (chain.reverse ++ [state])) := by
  cases room <;> simp [expandWithin, member]

theorem IsWalkTo.hasDefect_of_mem {room : Nat} (isWalkTo : grammar.IsWalkTo chain state)
    (member : state ∈ chain)
    (failed : grammar.expandWithin room chain state = .error defect) :
    grammar.HasDefect reader defect := by
  obtain rfl := Except.error.inj ((expandWithin_of_mem member).symm.trans failed)
  exact .includeCycle ((List.reverse_perm chain).nodup_iff.mpr isWalkTo.nodup)
    (List.mem_reverse.mpr member) isWalkTo.isWalk

/-- An expansion reports an include that leads nowhere or in a circle.  It does not come
to a state that is not declared, and the room cannot be too small for the chain. -/
theorem hasDefect_of_expandWithin {room : Nat}
    (enough : grammar.states.size ≤ chain.length + room)
    (isWalkTo : grammar.IsWalkTo chain state) (isDeclared : state ∈ grammar.states.keys)
    (failed : grammar.expandWithin room chain state = .error defect) :
    grammar.HasDefect reader defect := by
  induction room generalizing chain state with
  | zero =>
      by_cases member : state ∈ chain
      · exact isWalkTo.hasDefect_of_mem member failed
      · -- Without room the chain would have to hold every declared state.
        have := isWalkTo.length_lt member isDeclared
        omega
  | succ room ih =>
      by_cases member : state ∈ chain
      · exact isWalkTo.hasDefect_of_mem member failed
      · obtain ⟨position, isPosition⟩ :=
          OrderedMap.mem_keys_iff_exists_position?.mp isDeclared
        obtain ⟨entries, isEntries⟩ := OrderedMap.mem_keys_iff_exists_get?.mp isDeclared
        rw [expandWithin, if_neg (List.contains_iff_mem.not.mpr member), isPosition,
          isEntries] at failed
        rcases bind_eq_error_iff.mp failed with failed | ⟨parts, -, failed⟩
        · obtain ⟨entry, isEntry, failed⟩ := exists_mem_of_mapM_eq_error failed
          cases entry with
          | rule pattern action => cases failed
          | «include» name =>
              have includes : grammar.Includes state (plainName name) :=
                ⟨entries, name, isEntries, isEntry, rfl⟩
              simp only [OrderedMap.contains_iff_mem_keys] at failed
              split at failed
              · rename_i isTarget
                refine ih ?_ (isWalkTo.cons member isDeclared includes) isTarget failed
                rw [List.length_cons]
                omega
              · rename_i undeclared
                exact Except.error.inj failed ▸ .unknownInclude includes undeclared
        · cases failed

theorem hasDefect_of_expand (isDeclared : state ∈ grammar.states.keys)
    (failed : grammar.expand state = .error defect) : grammar.HasDefect reader defect :=
  hasDefect_of_expandWithin (by simp) isWalkTo_nil isDeclared failed

end Includes

theorem hasDefect_of_compileState {state : String}
    (sizeLe : grammar.states.size ≤ stateLimit) (isDeclared : state ∈ grammar.states.keys)
    (failed : grammar.compileState reader classes (state, grammar.expand state) =
      .error defect) :
    grammar.HasDefect reader defect := by
  rcases bind_eq_error_iff.mp failed with failed | ⟨placedRules, expanded, failed⟩
  · exact hasDefect_of_expand isDeclared failed
  · rcases bind_eq_error_iff.mp failed with failed | ⟨rules, -, failed⟩
    · obtain ⟨placed, member, failed⟩ := exists_mem_of_mapM_eq_error failed
      exact hasDefect_of_compileRule
        ((standsFor_of_expand sizeLe expanded).isDeclared member) failed
    · cases failed

/-- The defect for which a grammar is refused is in the grammar. -/
theorem hasDefect_of_compile (failed : grammar.compile reader = .error defect) :
    grammar.HasDefect reader defect := by
  rw [compile] at failed
  split at failed
  · rename_i isNone
    cases failed
    exact .missingState (OrderedMap.position?_eq_none_iff.mp isNone)
  · split at failed
    · rename_i many
      cases failed
      exact .tooManyStates many
    · rename_i notMore
      split at failed
      · rename_i pair isFirst
        cases failed
        exact .invalidBracket isFirst
      · rcases bind_eq_error_iff.mp failed with failed | ⟨states, -, failed⟩
        · obtain ⟨expansion, member, failed⟩ := exists_mem_of_mapM_eq_error failed
          obtain ⟨state, isDeclared, rfl⟩ := List.mem_map.mp member
          exact hasDefect_of_compileState (Nat.le_of_not_lt notMore) isDeclared failed
        · cases failed

end LineLexer.Grammar
