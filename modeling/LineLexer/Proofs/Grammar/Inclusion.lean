import LineLexer.Proofs.Grammar.Splicing
import Mathlib.Data.List.Perm.Subperm
import Mathlib.Logic.Relation
import Mathlib.Order.RelClasses

/-!
# Which expansions succeed

The includes of a grammar are the edges of a graph between its states.  The expansion of a
state follows them depth first, on a chain of states that are being expanded.  If all
expansions succeed then the graph has no circle, since a splicing is built from splicings
of the included states.  Conversely, when only declared states are included and there is
no circle, no state can be met that is on the chain already, and the chain can never be
longer than the list of declared states.
-/

namespace LineLexer.Grammar

/-- One of the own entries of the state `state` is an include of the state `target`. -/
def Includes (grammar : Grammar) (state target : String) : Prop :=
  ∃ entries name, grammar.states.get? state = some entries ∧
    Entry.include name ∈ entries ∧
    plainName name = target

/-- The includes of a grammar lead to declared states only and never back to where they
come from. -/
structure IncludesEnd (grammar : Grammar) : Prop where
  declared : ∀ state target, grammar.Includes state target → target ∈ grammar.states.keys
  acyclic : ∀ state, ¬ Relation.TransGen grammar.Includes state state

variable {grammar : Grammar} {origin : StateIndex} {originName state : String}
  {entries : List Entry} {rules : List PlacedRule}

section Necessity

theorem Splices.mem_of_rule (splices : grammar.Splices origin originName entries rules)
    {pattern : String} {action : Action} (isEntry : Entry.rule pattern action ∈ entries) :
    ⟨origin, originName, pattern, action⟩ ∈ rules := by
  induction splices with
  | nil => simp at isEntry
  | rule others ih =>
      rcases List.mem_cons.mp isEntry with same | isEntry
      · obtain ⟨rfl, rfl⟩ := Entry.rule.inj same
        exact List.mem_cons_self
      · exact List.mem_cons_of_mem _ (ih isEntry)
  | included isPosition isEntries inner others innerIH othersIH =>
      rcases List.mem_cons.mp isEntry with same | isEntry
      · cases same
      · exact List.mem_append_right _ (othersIH isEntry)

theorem Splices.mem_keys_of_include
    (splices : grammar.Splices origin originName entries rules) {name : String}
    (isEntry : Entry.include name ∈ entries) : plainName name ∈ grammar.states.keys := by
  induction splices with
  | nil => simp at isEntry
  | rule others ih =>
      rcases List.mem_cons.mp isEntry with same | isEntry
      · cases same
      · exact ih isEntry
  | included isPosition isEntries inner others innerIH othersIH =>
      rcases List.mem_cons.mp isEntry with same | isEntry
      · obtain rfl := Entry.include.inj same
        exact OrderedMap.mem_keys_iff_exists_get?.mpr ⟨_, isEntries⟩
      · exact othersIH isEntry

/-- Paths of includes that start at an included state end, since its splicing is a part of
the one at hand. -/
theorem Splices.acc_of_include (splices : grammar.Splices origin originName entries rules)
    {name : String} (isEntry : Entry.include name ∈ entries) :
    Acc (fun target state => grammar.Includes state target) (plainName name) := by
  induction splices generalizing name with
  | nil => simp at isEntry
  | rule others ih =>
      rcases List.mem_cons.mp isEntry with same | isEntry
      · cases same
      · exact ih isEntry
  | included isPosition isEntries inner others innerIH othersIH =>
      rcases List.mem_cons.mp isEntry with same | isEntry
      · obtain rfl := Entry.include.inj same
        constructor
        rintro _ ⟨innerEntries, innerName, isInner, isInnerEntry, rfl⟩
        obtain rfl := Option.some.inj (isEntries.symm.trans isInner)
        exact innerIH isInnerEntry
      · exact othersIH isEntry

/-- Where every declared state stands for some rules, all includes end. -/
theorem includesEnd_of_standsFor
    (standsFor : ∀ state ∈ grammar.states.keys, ∃ rules, grammar.StandsFor state rules) :
    grammar.IncludesEnd := by
  have splices_of_entries {state : String} {entries : List Entry}
      (isEntries : grammar.states.get? state = some entries) :
      ∃ position rules, grammar.Splices position state entries rules := by
    obtain ⟨rules, position, own, -, isOwn, splices⟩ :=
      standsFor state (OrderedMap.mem_keys_iff_exists_get?.mpr ⟨entries, isEntries⟩)
    obtain rfl := Option.some.inj (isEntries.symm.trans isOwn)
    exact ⟨position, rules, splices⟩
  refine ⟨?_, ?_⟩
  · rintro state _ ⟨entries, name, isEntries, isEntry, rfl⟩
    obtain ⟨position, rules, splices⟩ := splices_of_entries isEntries
    exact splices.mem_keys_of_include isEntry
  · have wellFounded : WellFounded fun target state => grammar.Includes state target := by
      constructor
      intro state
      constructor
      rintro _ ⟨entries, name, isEntries, isEntry, rfl⟩
      obtain ⟨position, rules, splices⟩ := splices_of_entries isEntries
      exact splices.acc_of_include isEntry
    intro state circle
    have backwards := Relation.transGen_swap.mpr circle
    exact wellFounded.transGen.asymmetric state state backwards backwards

end Necessity

section Sufficiency

/-- The states `chain` are being expanded, the innermost first, when the expansion comes
to `state`: they are declared, differ from one another and include one another up to
`state`. -/
structure IsChainTo (grammar : Grammar) (chain : List String)
    (state : String) : Prop where
  nodup : chain.Nodup
  declared : ∀ outer ∈ chain, outer ∈ grammar.states.keys
  reaches : ∀ outer ∈ chain, Relation.TransGen grammar.Includes outer state

theorem isChainTo_nil : grammar.IsChainTo [] state :=
  ⟨List.nodup_nil, by simp, by simp⟩

variable {chain : List String}

theorem IsChainTo.notMem (isChainTo : grammar.IsChainTo chain state)
    (ends : grammar.IncludesEnd) : state ∉ chain := by
  intro member
  exact ends.acyclic state (isChainTo.reaches state member)

theorem IsChainTo.cons (isChainTo : grammar.IsChainTo chain state) (isNew : state ∉ chain)
    (isDeclared : state ∈ grammar.states.keys) {target : String}
    (includes : grammar.Includes state target) :
    grammar.IsChainTo (state :: chain) target where
  nodup := List.nodup_cons.mpr ⟨isNew, isChainTo.nodup⟩
  declared outer member := by
    rcases List.mem_cons.mp member with rfl | member
    · exact isDeclared
    · exact isChainTo.declared outer member
  reaches outer member := by
    rcases List.mem_cons.mp member with rfl | member
    · exact .single includes
    · exact (isChainTo.reaches outer member).tail includes

/-- A chain of different states is no longer than the list of declared states. -/
theorem length_le_size (nodup : chain.Nodup)
    (declared : ∀ outer ∈ chain, outer ∈ grammar.states.keys) :
    chain.length ≤ grammar.states.size := by
  have length_le := (nodup.subperm declared).length_le
  rwa [OrderedMap.length_keys] at length_le

/-- There is room for one more state on every chain to a declared state that is not one of
the chain. -/
theorem IsChainTo.length_lt (isChainTo : grammar.IsChainTo chain state)
    (isNew : state ∉ chain) (isDeclared : state ∈ grammar.states.keys) :
    chain.length < grammar.states.size := by
  have nodup : (state :: chain).Nodup := List.nodup_cons.mpr ⟨isNew, isChainTo.nodup⟩
  exact length_le_size nodup (List.forall_mem_cons.mpr ⟨isDeclared, isChainTo.declared⟩)

theorem exists_expandWithin (ends : grammar.IncludesEnd) {room : Nat}
    (enough : grammar.states.size ≤ chain.length + room)
    (isChainTo : grammar.IsChainTo chain state)
    (isDeclared : state ∈ grammar.states.keys) :
    ∃ rules, grammar.expandWithin room chain state = .ok rules := by
  induction room generalizing chain state with
  | zero =>
      have := isChainTo.length_lt (isChainTo.notMem ends) isDeclared
      omega
  | succ room ih =>
      obtain ⟨position, isPosition⟩ :=
        OrderedMap.mem_keys_iff_exists_position?.mp isDeclared
      obtain ⟨entries, isEntries⟩ := OrderedMap.mem_keys_iff_exists_get?.mp isDeclared
      have isNew : state ∉ chain := isChainTo.notMem ends
      rw [expandWithin, if_neg (List.contains_iff_mem.not.mpr isNew), isPosition,
        isEntries, exists_bind_eq_ok_iff]
      refine (exists_mapM_eq_ok_iff.mpr ?_).imp fun parts areParts =>
        ⟨areParts, parts.flatten, rfl⟩
      intro entry isEntry
      cases entry with
      | rule pattern action => exact ⟨_, rfl⟩
      | «include» name =>
          have includes : grammar.Includes state (plainName name) :=
            ⟨entries, name, isEntries, isEntry, rfl⟩
          have isTarget := ends.declared state _ includes
          simp only [OrderedMap.contains_iff_mem_keys.mpr isTarget, if_true]
          refine ih ?_ (isChainTo.cons isNew isDeclared includes) isTarget
          rw [List.length_cons]
          omega

end Sufficiency

/-- The expansions of all declared states succeed exactly if all includes end. -/
theorem forall_exists_expand_iff (sizeLe : grammar.states.size ≤ stateLimit) :
    (∀ state ∈ grammar.states.keys, ∃ rules, grammar.expand state = .ok rules) ↔
      grammar.IncludesEnd := by
  constructor
  · intro expanded
    refine includesEnd_of_standsFor fun state isState => ?_
    obtain ⟨rules, isExpansion⟩ := expanded state isState
    exact ⟨rules, standsFor_of_expand sizeLe isExpansion⟩
  · intro ends state isState
    exact exists_expandWithin ends (by simp) isChainTo_nil isState

end LineLexer.Grammar
