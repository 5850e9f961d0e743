import LineLexer.Proofs.Language.Defects

/-!
# Where a circle of includes is reported

States are expanded in order of declaration, and an expansion that follows includes into a
circle reports the way that it has taken.  A state whose expansion has succeeded before
leads into no circle, since its splicing holds those of all states that it can come to.
So the way begins at the first declared state that leads into a circle.
-/

namespace LineLexer.Grammar

/-- From the state `state` includes lead to a state that is included by itself, directly
or through others. -/
def LeadsToCircle (grammar : Grammar) (state : String) : Prop :=
  ∃ inner, Relation.ReflTransGen grammar.Includes state inner ∧
    Relation.TransGen grammar.Includes inner inner

variable {grammar : Grammar} {reader : PatternReader} {classes : ClassNames}
  {chain path : List String} {state : String}

section Successes

theorem LeadsToCircle.exists_includes (leads : grammar.LeadsToCircle state) :
    ∃ target, grammar.Includes state target ∧ grammar.LeadsToCircle target := by
  obtain ⟨inner, reaches, circle⟩ := leads
  rcases Relation.ReflTransGen.cases_head reaches with rfl | ⟨target, includes, reaches⟩
  · -- The state is on the circle itself, and one step later it still is.
    obtain ⟨target, includes, reaches⟩ := Relation.TransGen.head'_iff.mp circle
    exact ⟨target, includes, state, reaches, circle⟩
  · exact ⟨target, includes, inner, reaches, circle⟩

theorem StandsFor.acc {rules : List PlacedRule}
    (standsFor : grammar.StandsFor state rules) :
    Acc (fun target state => grammar.Includes state target) state := by
  obtain ⟨position, entries, -, isEntries, splices⟩ := standsFor
  constructor
  rintro _ ⟨others, name, isOther, isEntry, rfl⟩
  obtain rfl := Option.some.inj (isEntries.symm.trans isOther)
  exact splices.acc_of_include isEntry

/-- A state that stands for some rules leads into no circle. -/
theorem StandsFor.not_leadsToCircle {rules : List PlacedRule}
    (standsFor : grammar.StandsFor state rules) : ¬ grammar.LeadsToCircle state := by
  have acc := standsFor.acc
  clear standsFor
  induction acc with
  | intro state _ ih =>
      intro leads
      obtain ⟨target, includes, leadsOn⟩ := leads.exists_includes
      exact ih target includes leadsOn

end Successes

section Failures

theorem IsChainTo.leadsToCircle_of_mem {room : Nat}
    (isChainTo : grammar.IsChainTo chain state) (member : state ∈ chain)
    (failed : grammar.expandWithin room chain state = .error (.includeCycle path)) :
    chain.reverse ++ [state] <+: path ∧ grammar.LeadsToCircle state := by
  cases (expandWithin_of_mem member).symm.trans failed
  exact ⟨List.prefix_rfl, state, .refl, isChainTo.reaches state member⟩

/-- The reported way goes on from the states that are being expanded, and the state that
the expansion has come to leads into a circle. -/
theorem leadsToCircle_of_expandWithin {room : Nat}
    (isChainTo : grammar.IsChainTo chain state)
    (failed : grammar.expandWithin room chain state = .error (.includeCycle path)) :
    chain.reverse ++ [state] <+: path ∧ grammar.LeadsToCircle state := by
  induction room generalizing chain state with
  | zero =>
      by_cases member : state ∈ chain
      · exact isChainTo.leadsToCircle_of_mem member failed
      · rw [expandWithin, if_neg (List.contains_iff_mem.not.mpr member)] at failed
        cases failed
  | succ room ih =>
      by_cases member : state ∈ chain
      · exact isChainTo.leadsToCircle_of_mem member failed
      · rw [expandWithin, if_neg (List.contains_iff_mem.not.mpr member)] at failed
        split at failed
        · rename_i position entries isPosition isEntries
          have isDeclared :=
            OrderedMap.mem_keys_iff_exists_position?.mpr ⟨position, isPosition⟩
          rcases bind_eq_error_iff.mp failed with failed | ⟨parts, -, failed⟩
          · obtain ⟨entry, isEntry, failed⟩ := exists_mem_of_mapM_eq_error failed
            cases entry with
            | rule pattern action => cases failed
            | «include» name =>
                have includes : grammar.Includes state (plainName name) :=
                  ⟨entries, name, isEntries, isEntry, rfl⟩
                simp only at failed
                split at failed
                · obtain ⟨isPrefix, inner, reaches, circle⟩ :=
                    ih (isChainTo.cons member isDeclared includes) failed
                  rw [List.reverse_cons] at isPrefix
                  exact ⟨(List.prefix_append _ _).trans isPrefix, inner,
                    .head includes reaches, circle⟩
                · cases failed
          · cases failed
        · cases failed

theorem leadsToCircle_of_expand
    (failed : grammar.expand state = .error (.includeCycle path)) :
    path.head? = some state ∧ grammar.LeadsToCircle state := by
  obtain ⟨⟨others, rfl⟩, leads⟩ := leadsToCircle_of_expandWithin isChainTo_nil failed
  exact ⟨rfl, leads⟩

/-- No rule is to blame for a circle of includes. -/
theorem compileRule_ne_includeCycle {placed : PlacedRule} :
    grammar.compileRule reader classes placed ≠ .error (.includeCycle path) := by
  intro failed
  rcases bind_eq_error_iff.mp failed with failed | ⟨pattern, -, failed⟩
  · obtain ⟨fault, -, other⟩ := mapError_eq_error_iff.mp failed
    cases other
  · rcases bind_eq_error_iff.mp failed with failed | ⟨classifier, -, failed⟩
    · rw [Grammar.classifier] at failed
      split at failed
      · cases failed
      · split at failed <;> cases failed
      · rcases bind_eq_error_iff.mp failed with failed | ⟨classOf, -, failed⟩
        · obtain ⟨setName, className, -, -, other⟩ := unknownWordSet_of_caseWords failed
          cases other
        · cases failed
    · rcases bind_eq_error_iff.mp failed with failed | ⟨change, -, failed⟩
      · rw [stackChange] at failed
        split at failed
        · cases failed
        · cases failed
        · cases failed
        · split at failed <;> cases failed
      · cases failed

theorem leadsToCircle_of_compileState
    (failed : grammar.compileState reader classes (state, grammar.expand state) =
      .error (.includeCycle path)) :
    path.head? = some state ∧ grammar.LeadsToCircle state := by
  rcases bind_eq_error_iff.mp failed with failed | ⟨placedRules, -, failed⟩
  · exact leadsToCircle_of_expand failed
  · rcases bind_eq_error_iff.mp failed with failed | ⟨rules, -, failed⟩
    · obtain ⟨placed, -, failed⟩ := exists_mem_of_mapM_eq_error failed
      exact absurd failed compileRule_ne_includeCycle
    · cases failed

end Failures

/-- A circle of includes is reported from the first declared state that leads into one. -/
theorem exists_first_of_compile
    (failed : grammar.compile reader = .error (.includeCycle path)) :
    ∃ earlier first later, grammar.states.keys = earlier ++ first :: later ∧
      path.head? = some first ∧ grammar.LeadsToCircle first ∧
        ∀ state ∈ earlier, ¬ grammar.LeadsToCircle state := by
  rw [compile] at failed
  split at failed
  · cases failed
  · split at failed
    · cases failed
    · rename_i notMore
      have sizeLe : grammar.states.size ≤ stateLimit := Nat.le_of_not_lt notMore
      split at failed
      · cases failed
      · rcases bind_eq_error_iff.mp failed with failed | ⟨states, -, failed⟩
        · rw [expansions] at failed
          obtain ⟨front, expansion, back, parts, succeed, failed⟩ :=
            exists_append_of_mapM_eq_error failed
          obtain ⟨earlier, others, keys_eq, rfl, areOthers⟩ :=
            List.map_eq_append_iff.mp parts
          obtain ⟨first, later, rfl, rfl, rfl⟩ := List.map_eq_cons_iff.mp areOthers
          obtain ⟨isHead, leads⟩ := leadsToCircle_of_compileState failed
          refine ⟨earlier, first, later, keys_eq, isHead, leads,
            fun state isEarlier => ?_⟩
          obtain ⟨lexState, compiled⟩ := succeed _ (List.mem_map_of_mem isEarlier)
          obtain ⟨placedRules, expanded, -⟩ := bind_eq_ok_iff.mp compiled
          exact (standsFor_of_expand sizeLe expanded).not_leadsToCircle
        · cases failed

/-- The defect for which a grammar is refused is in the grammar, at the place that it
names, and a circle of includes is reported as the way into it from the first declared
state that leads into one. -/
theorem reported_of_compile {defect : Defect}
    (failed : grammar.compile reader = .error defect) :
    grammar.HasDefect reader defect ∧
      ∀ path, defect = .includeCycle path →
        ∃ earlier first later, grammar.states.keys = earlier ++ first :: later ∧
          path.head? = some first ∧ grammar.LeadsToCircle first ∧
            ∀ state ∈ earlier, ¬ grammar.LeadsToCircle state := by
  refine ⟨hasDefect_of_compile failed, ?_⟩
  rintro path rfl
  exact exists_first_of_compile failed

def circledIncludes : Grammar :=
  let base : Grammar := { name := "x" }
  base
    |>.addState "a" [.rule "x" (.ofClass "")]
    |>.addState "b" [.includeNamed "a", .includeNamed "c"]
    |>.addState "c" [.includeNamed "d"]
    |>.addState "d" [.includeNamed "c"]

/-- The circle between two states is reported from the state before them that leads into
it, and not from the first state, which does not. -/
theorem circledIncludes_reported :
    circledIncludes.compile = .error (.includeCycle ["b", "c", "d", "c"]) ∧
      circledIncludes.HasDefect Pattern.read (.includeCycle ["b", "c", "d", "c"]) ∧
        circledIncludes.LeadsToCircle "b" ∧ ¬ circledIncludes.LeadsToCircle "a" := by
  have isError : (circledIncludes.compile.map fun _ => ()) =
      .error (.includeCycle ["b", "c", "d", "c"]) := by
    decide +kernel
  have failed : circledIncludes.compile =
      .error (.includeCycle ["b", "c", "d", "c"]) := by
    cases compiled : circledIncludes.compile with
    | error defect =>
        rw [compiled] at isError
        exact congrArg Except.error (Except.error.inj isError)
    | ok language =>
        rw [compiled] at isError
        cases isError
  have areKeys : circledIncludes.states.keys = ["a", "b", "c", "d"] := by decide +kernel
  obtain ⟨hasDefect, isFirst⟩ := reported_of_compile failed
  obtain ⟨earlier, first, later, keys_eq, isHead, leads, leadsNot⟩ := isFirst _ rfl
  obtain rfl : "b" = first := Option.some.inj isHead
  rw [areKeys] at keys_eq
  refine ⟨failed, hasDefect, leads, leadsNot "a" ?_⟩
  cases earlier with
  | nil => simp at keys_eq
  | cons state earlier =>
      obtain ⟨rfl, -⟩ := List.cons.inj keys_eq
      exact List.mem_cons_self

end LineLexer.Grammar
