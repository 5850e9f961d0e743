import LineLexer.Proofs.Grammar.IncludePaths
import LineLexer.Proofs.Language.StateReferences
import LineLexer.Proofs.Scan.Origins

/-!
# Includes are substitutions

The rules of a state are those of its own entries in order, where an include stands for
all rules of the included state.  So writing the entries of the included state in place of
an include changes nothing but the states in which some of the rules stand, and these have
no influence on the scan.
-/

namespace LineLexer

/-- What a rule does, without the state in which it stands. -/
def PlacedRule.content (placed : PlacedRule) : String × Action :=
  (placed.pattern, placed.action)

namespace Grammar

/-- The grammar with other entries for one of its states. -/
def withEntries (grammar : Grammar) (state : String) (entries : List Entry) : Grammar :=
  { grammar with states := grammar.states.insert state entries }

variable {grammar : Grammar} {language : Language} {origin : StateIndex}
  {originName state owner target : String} {entries front back inner : List Entry}
  {placed : PlacedRule} {placedRules : List PlacedRule} {rules : List Rule}

/-! ### Splicing with other origins -/

theorem Splices.append {before after : List PlacedRule}
    (isFront : grammar.Splices origin originName front before)
    (isBack : grammar.Splices origin originName back after) :
    grammar.Splices origin originName (front ++ back) (before ++ after) := by
  induction isFront with
  | nil => exact isBack
  | rule _ ih => exact .rule (ih isBack)
  | included isPosition isEntries isInner _ _ ih =>
      rw [List.append_assoc]
      exact .included isPosition isEntries isInner (ih isBack)

/-- The same entries in another state give the same rules with another origin. -/
theorem Splices.exists_moved
    (splices : grammar.Splices origin originName entries placedRules) (other : StateIndex)
    (otherName : String) :
    ∃ moved, grammar.Splices other otherName entries moved ∧
      moved.map PlacedRule.content = placedRules.map PlacedRule.content := by
  induction splices with
  | nil => exact ⟨[], .nil, rfl⟩
  | @rule _ _ pattern action _ _ _ ih =>
      obtain ⟨moved, isMoved, same⟩ := ih
      exact ⟨⟨other, otherName, pattern, action⟩ :: moved, .rule isMoved,
        congrArg ((pattern, action) :: ·) same⟩
  | @included _ _ _ _ _ _ _ innerRules isPosition isEntries isInner _ _ ih =>
      obtain ⟨moved, isMoved, same⟩ := ih
      refine ⟨innerRules ++ moved, .included isPosition isEntries isInner isMoved, ?_⟩
      rw [List.map_append, List.map_append, same]

/-! ### The expansions after a substitution -/

theorem exists_position_of_entries
    (isEntries : grammar.states.get? state = some entries) :
    ∃ position, grammar.states.position? state = some position :=
  OrderedMap.mem_keys_iff_exists_position?.mp
    (OrderedMap.mem_keys_iff_exists_get?.mpr ⟨_, isEntries⟩)

section Substitution

variable (isOwner : grammar.states.get? owner = some (front ++ .include target :: back))
  (isTarget : grammar.states.get? (plainName target) = some inner)

include isOwner

theorem position?_withEntries (others : List Entry) (state : String) :
    (grammar.withEntries owner others).states.position? state =
      grammar.states.position? state := by
  obtain ⟨position, isPosition⟩ := exists_position_of_entries isOwner
  exact OrderedMap.position?_insert_of_present isPosition others state

theorem get?_withEntries (others : List Entry) (state : String) :
    (grammar.withEntries owner others).states.get? state =
      if state = owner then some others else grammar.states.get? state := by
  obtain ⟨position, isPosition⟩ := exists_position_of_entries isOwner
  exact OrderedMap.get?_insert_of_present isPosition others state

theorem keys_withEntries (others : List Entry) :
    (grammar.withEntries owner others).states.keys = grammar.states.keys := by
  obtain ⟨position, isPosition⟩ := exists_position_of_entries isOwner
  exact OrderedMap.keys_insert_of_present isPosition others

theorem size_withEntries (others : List Entry) :
    (grammar.withEntries owner others).states.size = grammar.states.size := by
  rw [← OrderedMap.length_keys, keys_withEntries isOwner, OrderedMap.length_keys]

include isTarget

/-- A state that stands for some rules by its old entries stands for the same rules by its
new ones. -/
theorem exists_standsFor_withEntries (apart : plainName target ≠ owner)
    {position : StateIndex} (isPosition : grammar.states.position? state = some position)
    (isEntries : grammar.states.get? state = some entries)
    (splices : (grammar.withEntries owner (front ++ (inner ++ back))).Splices position
      state entries placedRules) :
    ∃ inlined, (grammar.withEntries owner (front ++ (inner ++ back))).StandsFor
      state inlined ∧
      inlined.map PlacedRule.content = placedRules.map PlacedRule.content := by
  have isNewPosition :=
    (position?_withEntries isOwner (front ++ (inner ++ back)) state).trans isPosition
  have areNewEntries := get?_withEntries isOwner (front ++ (inner ++ back)) state
  by_cases isSame : state = owner
  · subst isSame
    obtain rfl := Option.some.inj (isEntries.symm.trans isOwner)
    obtain ⟨before, middle, after, rfl, isFront, isMiddle, isBack⟩ :=
      splices.exists_of_include
    obtain ⟨targetPosition, targetEntries, -, areTargetEntries, isInner⟩ := isMiddle
    rw [get?_withEntries isOwner, if_neg apart, isTarget,
      Option.some.injEq] at areTargetEntries
    subst areTargetEntries
    obtain ⟨moved, isMoved, same⟩ := isInner.exists_moved position state
    rw [if_pos rfl] at areNewEntries
    refine ⟨before ++ (moved ++ after),
      ⟨position, _, isNewPosition, areNewEntries, isFront.append (isMoved.append isBack)⟩,
      ?_⟩
    simp only [List.map_append, same]
  · rw [if_neg isSame, isEntries] at areNewEntries
    exact ⟨placedRules, ⟨position, entries, isNewPosition, areNewEntries, splices⟩, rfl⟩

theorem Splices.exists_withEntries (apart : plainName target ≠ owner)
    (splices : grammar.Splices origin originName entries placedRules) :
    ∃ inlined,
      (grammar.withEntries owner (front ++ (inner ++ back))).Splices origin originName
        entries inlined ∧
        inlined.map PlacedRule.content = placedRules.map PlacedRule.content := by
  induction splices with
  | nil => exact ⟨[], .nil, rfl⟩
  | @rule origin originName pattern action _ _ _ ih =>
      obtain ⟨inlined, isInlined, same⟩ := ih
      exact ⟨⟨origin, originName, pattern, action⟩ :: inlined, .rule isInlined,
        congrArg ((pattern, action) :: ·) same⟩
  | included isPosition isEntries _ _ innerIH othersIH =>
      obtain ⟨innerInlined, isInner, innerSame⟩ := innerIH
      obtain ⟨inlined, isInlined, same⟩ := othersIH
      obtain ⟨included, ⟨_, _, isNewPosition, areNewEntries, isIncluded⟩, includedSame⟩ :=
        exists_standsFor_withEntries isOwner isTarget apart isPosition isEntries isInner
      refine ⟨included ++ inlined,
        .included isNewPosition areNewEntries isIncluded isInlined, ?_⟩
      rw [List.map_append, List.map_append, includedSame, innerSame, same]

theorem StandsFor.exists_withEntries (apart : plainName target ≠ owner)
    (standsFor : grammar.StandsFor state placedRules) :
    ∃ inlined, (grammar.withEntries owner (front ++ (inner ++ back))).StandsFor
      state inlined ∧
      inlined.map PlacedRule.content = placedRules.map PlacedRule.content := by
  obtain ⟨position, entries, isPosition, isEntries, splices⟩ := standsFor
  obtain ⟨inlined, isInlined, same⟩ := splices.exists_withEntries isOwner isTarget apart
  obtain ⟨others, areOthers, othersSame⟩ :=
    exists_standsFor_withEntries isOwner isTarget apart isPosition isEntries isInlined
  exact ⟨others, areOthers, othersSame.trans same⟩

/-- If all includes end, all states are expanded as before, but for where the rules
stand. -/
theorem exists_expand_withEntries (sizeLe : grammar.states.size ≤ stateLimit)
    (ends : grammar.IncludesEnd) {state : String}
    (isState : state ∈ grammar.states.keys) :
    ∃ placedRules inlined, grammar.expand state = .ok placedRules ∧
      (grammar.withEntries owner (front ++ (inner ++ back))).expand state = .ok inlined ∧
        inlined.map PlacedRule.content = placedRules.map PlacedRule.content := by
  have apart : plainName target ≠ owner := by
    intro same
    refine ends.acyclic owner (.single ⟨_, target, isOwner, ?_, same⟩)
    exact List.mem_append_right front List.mem_cons_self
  have expanded := (forall_exists_expand_iff sizeLe).mpr ends
  have standsForAll :
      ∀ state ∈ (grammar.withEntries owner (front ++ (inner ++ back))).states.keys,
        ∃ inlined,
          (grammar.withEntries owner (front ++ (inner ++ back))).StandsFor state
            inlined := by
    intro state isNewState
    rw [keys_withEntries isOwner] at isNewState
    obtain ⟨placedRules, isExpansion⟩ := expanded state isNewState
    obtain ⟨inlined, isInlined, -⟩ :=
      (standsFor_of_expand sizeLe isExpansion).exists_withEntries isOwner isTarget apart
    exact ⟨inlined, isInlined⟩
  have newSizeLe :
      (grammar.withEntries owner (front ++ (inner ++ back))).states.size ≤
        stateLimit := by
    rwa [size_withEntries isOwner]
  obtain ⟨placedRules, isExpansion⟩ := expanded state isState
  obtain ⟨inlined, isNewExpansion⟩ := (forall_exists_expand_iff newSizeLe).mpr
    (includesEnd_of_standsFor standsForAll) state (keys_withEntries isOwner _ ▸ isState)
  obtain ⟨others, areOthers, same⟩ :=
    (standsFor_of_expand sizeLe isExpansion).exists_withEntries isOwner isTarget apart
  obtain rfl := areOthers.unique (standsFor_of_expand newSizeLe isNewExpansion)
  exact ⟨placedRules, others, isExpansion, isNewExpansion, same⟩

end Substitution

end Grammar

end LineLexer
