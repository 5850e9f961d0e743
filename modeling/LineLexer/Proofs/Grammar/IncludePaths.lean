import LineLexer.Proofs.Grammar.Splicing
import Mathlib.Data.List.Forall2

/-!
# Paths along includes

Every rule that a state stands for is reached along a path: it starts at one of the
state's own entries, which is the rule itself or an include, and goes on among the entries
of the included state.  A splicing lists the rules at the ends of all paths in the order
of the paths, so that a state that two paths go through contributes its rules twice.
-/

namespace LineLexer.Grammar

/-- The path leads from the entries of a state with the given number and name to a rule.
It holds the places of the includes that it goes through and, at its end, the place of the
rule, each among the entries of its own state. -/
inductive LeadsTo (grammar : Grammar) :
    (origin : StateIndex) → (originName : String) → List Entry → (path : List Nat) →
    PlacedRule → Prop where
  | rule {origin : StateIndex} {originName pattern : String} {action : Action}
      {entries : List Entry} {index : Nat}
      (isEntry : entries[index]? = some (.rule pattern action)) :
      LeadsTo grammar origin originName entries [index]
      ⟨origin, originName, pattern, action⟩
  | inside {origin position : StateIndex} {originName target : String}
      {entries innerEntries : List Entry} {index : Nat} {path : List Nat}
      {rule : PlacedRule} (isEntry : entries[index]? = some (.include target))
      (isPosition : grammar.states.position? (plainName target) = some position)
      (isEntries : grammar.states.get? (plainName target) = some innerEntries)
      (inner : LeadsTo grammar position (plainName target) innerEntries path rule) :
      LeadsTo grammar origin originName entries (index :: path) rule

/-- The paths are all paths that lead from the entries to a rule, each of them once and in
lexicographic order, and the rules are those that they lead to. -/
structure ListsPaths (grammar : Grammar) (origin : StateIndex) (originName : String)
    (entries : List Entry) (paths : List (List Nat))
    (rules : List PlacedRule) : Prop where
  ordered : paths.Pairwise (· < ·)
  complete : ∀ path rule, grammar.LeadsTo origin originName entries path rule →
    path ∈ paths
  leads : List.Forall₂ (grammar.LeadsTo origin originName entries) paths rules

/-- The path that starts one entry later. -/
def later : List Nat → List Nat
  | [] => []
  | index :: path => (index + 1) :: path

variable {grammar : Grammar} {origin : StateIndex} {originName : String} {entry : Entry}
  {entries : List Entry} {path : List Nat} {paths : List (List Nat)} {rule : PlacedRule}
  {rules : List PlacedRule}

theorem LeadsTo.later (leadsTo : grammar.LeadsTo origin originName entries path rule) :
    grammar.LeadsTo origin originName (entry :: entries) (later path) rule := by
  cases leadsTo with
  | rule isEntry => exact .rule isEntry
  | inside isEntry isPosition isEntries inner =>
      exact .inside isEntry isPosition isEntries inner

theorem pairwise_map_later (ordered : paths.Pairwise (· < ·))
    (nonempty : ∀ path ∈ paths, path ≠ []) : (paths.map later).Pairwise (· < ·) := by
  rw [List.pairwise_map]
  refine ordered.imp_of_mem fun {first second} isFirst isSecond smaller => ?_
  obtain ⟨index, path, rfl⟩ := List.exists_cons_of_ne_nil (nonempty first isFirst)
  obtain ⟨other, otherPath, rfl⟩ := List.exists_cons_of_ne_nil (nonempty second isSecond)
  rw [List.cons_lt_cons_iff] at smaller
  rw [Grammar.later, Grammar.later, List.cons_lt_cons_iff, Nat.add_right_cancel_iff]
  exact smaller.imp_left Nat.succ_lt_succ

theorem ListsPaths.nonempty
    (lists : grammar.ListsPaths origin originName entries paths rules) :
    ∀ path ∈ paths, path ≠ [] := by
  intro path member
  obtain ⟨rule, -, leadsTo⟩ := exists_mem_of_forall₂ lists.leads.flip member
  cases leadsTo <;> exact List.cons_ne_nil _ _

theorem listsPaths_nil : grammar.ListsPaths origin originName [] [] [] where
  ordered := .nil
  complete path rule leadsTo := by
    cases leadsTo with
    | rule isEntry => simp at isEntry
    | inside isEntry => simp at isEntry
  leads := .nil

/-- Before all paths that start at later entries stand those that start at the first
entry. -/
theorem ListsPaths.cons {first : List (List Nat)} {firstRules : List PlacedRule}
    (lists : grammar.ListsPaths origin originName entries paths rules)
    (ordered : first.Pairwise (· < ·)) (atFirst : ∀ path ∈ first, path.head? = some 0)
    (complete : ∀ path rule,
      grammar.LeadsTo origin originName (entry :: entries) (0 :: path) rule →
      0 :: path ∈ first)
    (leads : List.Forall₂ (grammar.LeadsTo origin originName (entry :: entries)) first
      firstRules) :
    grammar.ListsPaths origin originName (entry :: entries) (first ++ paths.map later)
      (firstRules ++ rules) where
  ordered := by
    rw [List.pairwise_append]
    refine ⟨ordered, pairwise_map_later lists.ordered lists.nonempty, ?_⟩
    intro path isFirst other isLater
    obtain ⟨before, isPath, rfl⟩ := List.mem_map.mp isLater
    obtain ⟨index, before, rfl⟩ :=
      List.exists_cons_of_ne_nil (lists.nonempty before isPath)
    obtain ⟨inner, rfl⟩ := List.head?_eq_some_iff.mp (atFirst path isFirst)
    exact List.cons_lt_cons_iff.mpr (.inl (Nat.succ_pos index))
  complete path rule leadsTo := by
    have ofLater {index : Nat} {inner : List Nat}
        (leadsTo : grammar.LeadsTo origin originName entries (index :: inner) rule) :
        (index + 1) :: inner ∈ first ++ paths.map later :=
      List.mem_append_right _ (List.mem_map_of_mem (lists.complete _ _ leadsTo))
    cases leadsTo with
    | @rule _ _ _ _ _ index isEntry =>
        cases index with
        | zero => exact List.mem_append_left _ (complete _ _ (.rule isEntry))
        | succ index => exact ofLater (.rule isEntry)
    | @inside _ _ _ _ _ _ index _ _ isEntry isPosition isEntries inner =>
        cases index with
        | zero => exact List.mem_append_left _ (complete _ _
            (.inside isEntry isPosition isEntries inner))
        | succ index => exact ofLater (.inside isEntry isPosition isEntries inner)
  leads := by
    refine List.rel_append leads ?_
    rw [List.forall₂_map_left_iff]
    exact lists.leads.imp fun path rule leadsTo => leadsTo.later

/-- A splicing has one rule for each path that leads to a rule, in the order of the
paths. -/
theorem Splices.exists_listsPaths
    (splices : grammar.Splices origin originName entries rules) :
    ∃ paths, grammar.ListsPaths origin originName entries paths rules := by
  induction splices with
  | nil => exact ⟨[], listsPaths_nil⟩
  | @rule origin originName pattern action entries rules others ih =>
      obtain ⟨paths, lists⟩ := ih
      have atFirst : ∀ path ∈ [[0]], path.head? = some 0 := by simp
      have leads : List.Forall₂
          (grammar.LeadsTo origin originName (.rule pattern action :: entries)) [[0]]
          [⟨origin, originName, pattern, action⟩] :=
        .cons (.rule rfl) .nil
      refine ⟨_, lists.cons (List.pairwise_singleton _ _) atFirst
        (fun path rule leadsTo => ?_) leads⟩
      cases leadsTo with
      | rule isEntry => exact List.mem_singleton_self _
      | inside isEntry => simp at isEntry
  | @included origin position originName target entries innerEntries rules innerRules
      isPosition
      isEntries inner others innerIH othersIH =>
      obtain ⟨innerPaths, innerLists⟩ := innerIH
      obtain ⟨paths, lists⟩ := othersIH
      have atFirst : ∀ path ∈ innerPaths.map (0 :: ·), path.head? = some 0 := by simp
      refine ⟨innerPaths.map (0 :: ·) ++ paths.map later, lists.cons ?_ atFirst ?_ ?_⟩
      · rw [List.pairwise_map]
        exact innerLists.ordered.imp fun smaller =>
          List.cons_lt_cons_iff.mpr (.inr ⟨rfl, smaller⟩)
      · intro path rule leadsTo
        cases leadsTo with
        | rule isEntry => simp at isEntry
        | inside isEntry isOtherPosition areOtherEntries otherInner =>
            obtain rfl := Entry.include.inj (Option.some.inj isEntry)
            obtain rfl := Option.some.inj (isPosition.symm.trans isOtherPosition)
            obtain rfl := Option.some.inj (isEntries.symm.trans areOtherEntries)
            exact List.mem_map_of_mem (innerLists.complete _ _ otherInner)
      · rw [List.forall₂_map_left_iff]
        exact innerLists.leads.imp fun path rule leadsTo =>
          .inside rfl isPosition isEntries leadsTo

end LineLexer.Grammar
