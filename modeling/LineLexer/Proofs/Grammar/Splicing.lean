import LineLexer.Language.Compile
import LineLexer.Proofs.Success

/-!
# Includes are replaced by the rules they stand for

What it means to splice the rules of included states into a list of entries is said by a
relation that knows nothing of chains and of the room that is left for them.  An expansion
that succeeds gives a splicing of the entries of its state.
-/

namespace LineLexer.Grammar

/-- Replacing every include in `entries`, the own entries of a state with the given number
and name, by the rules that the included state stands for gives `rules`.  An included
state is known by its position among the declared states. -/
inductive Splices (grammar : Grammar) :
    (origin : StateIndex) → (originName : String) → List Entry → List PlacedRule →
    Prop where
  | nil {origin : StateIndex} {originName : String} :
      Splices grammar origin originName [] []
  | rule {origin : StateIndex} {originName pattern : String} {action : Action}
      {entries : List Entry} {rules : List PlacedRule}
      (others : Splices grammar origin originName entries rules) :
      Splices grammar origin originName (.rule pattern action :: entries)
        (⟨origin, originName, pattern, action⟩ :: rules)
  | included {origin position : StateIndex} {originName target : String}
      {entries innerEntries : List Entry} {rules innerRules : List PlacedRule}
      (isPosition : grammar.states.position? (plainName target) = some position)
      (isEntries : grammar.states.get? (plainName target) = some innerEntries)
      (inner : Splices grammar position (plainName target) innerEntries innerRules)
      (others : Splices grammar origin originName entries rules) :
      Splices grammar origin originName (.include target :: entries) (innerRules ++ rules)

/-- `rules` are the rules that the declared state `state` stands for. -/
def StandsFor (grammar : Grammar) (state : String) (rules : List PlacedRule) : Prop :=
  ∃ position entries, grammar.states.position? state = some position ∧
    grammar.states.get? state = some entries ∧
    grammar.Splices position state entries rules

/-- The positions of the declared states of a grammar that does not have too many of them
are their numbers. -/
theorem ofPosition_eq {grammar : Grammar} (sizeLe : grammar.states.size ≤ stateLimit)
    {state : String} {position : Nat}
    (isPosition : grammar.states.position? state = some position) :
    StateIndex.ofPosition position = position := by
  have inside := OrderedMap.position?_lt_size isPosition
  unfold stateLimit at sizeLe
  exact StateIndex.ofPosition_of_lt (by omega)

/-- An entry of a state, and the part of the expansion of this state that comes from the
entry. -/
def PartOf (grammar : Grammar) (origin : StateIndex) (originName : String) (entry : Entry)
    (part : List PlacedRule) : Prop :=
  match entry with
  | .rule pattern action => part = [⟨origin, originName, pattern, action⟩]
  | .include target => grammar.StandsFor (plainName target) part

theorem splices_flatten {grammar : Grammar} {origin : StateIndex} {originName : String}
    {entries : List Entry} {parts : List (List PlacedRule)}
    (related : List.Forall₂ (grammar.PartOf origin originName) entries parts) :
    grammar.Splices origin originName entries parts.flatten := by
  induction related with
  | nil => exact .nil
  | @cons entry part entries parts isPart related ih =>
      rw [List.flatten_cons]
      match entry, isPart with
      | .rule pattern action, isPart =>
          obtain rfl : part = [⟨origin, originName, pattern, action⟩] := isPart
          exact .rule ih
      | .include target, isPart =>
          obtain ⟨position, innerEntries, isPosition, isEntries, inner⟩ := isPart
          exact .included isPosition isEntries inner ih

/-- An expansion that succeeds gives the rules that its state stands for. -/
theorem standsFor_of_expandWithin {grammar : Grammar}
    (sizeLe : grammar.states.size ≤ stateLimit) {room : Nat} {chain : List String}
    {state : String} {rules : List PlacedRule}
    (expanded : grammar.expandWithin room chain state = .ok rules) :
    grammar.StandsFor state rules := by
  induction room generalizing chain state rules with
  | zero =>
      rw [expandWithin] at expanded
      split at expanded <;> cases expanded
  | succ room ih =>
      rw [expandWithin] at expanded
      split at expanded
      · cases expanded
      · split at expanded
        · rename_i position entries isPosition isEntries
          obtain ⟨parts, areParts, rulesEq⟩ := bind_eq_ok_iff.mp expanded
          obtain rfl := Except.ok.inj rulesEq
          refine ⟨position, entries, isPosition, isEntries, splices_flatten ?_⟩
          refine (mapM_eq_ok_iff.mp areParts).imp ?_
          intro entry part isPart
          match entry, isPart with
          | .rule pattern action, isPart =>
              rw [ofPosition_eq sizeLe isPosition] at isPart
              exact (Except.ok.inj isPart).symm
          | .include target, isPart =>
              simp only at isPart
              split at isPart
              · exact ih isPart
              · cases isPart
        · cases expanded

theorem standsFor_of_expand {grammar : Grammar}
    (sizeLe : grammar.states.size ≤ stateLimit) {state : String} {rules : List PlacedRule}
    (expanded : grammar.expand state = .ok rules) : grammar.StandsFor state rules :=
  standsFor_of_expandWithin sizeLe expanded

/-- A list of entries has only one splicing. -/
theorem Splices.unique {grammar : Grammar} {origin : StateIndex} {originName : String}
    {entries : List Entry} {rules others : List PlacedRule}
    (splices : grammar.Splices origin originName entries rules)
    (another : grammar.Splices origin originName entries others) : rules = others := by
  induction splices generalizing others with
  | nil =>
      cases another
      rfl
  | rule _ ih =>
      cases another with
      | rule anotherRest => rw [ih anotherRest]
  | included isPosition isEntries _ _ innerIH othersIH =>
      cases another with
      | included isSamePosition areSameEntries anotherInner anotherRest =>
          obtain rfl := Option.some.inj (isPosition.symm.trans isSamePosition)
          obtain rfl := Option.some.inj (isEntries.symm.trans areSameEntries)
          rw [innerIH anotherInner, othersIH anotherRest]

theorem StandsFor.unique {grammar : Grammar} {state : String}
    {rules others : List PlacedRule} (standsFor : grammar.StandsFor state rules)
    (another : grammar.StandsFor state others) : rules = others := by
  obtain ⟨position, entries, isPosition, isEntries, splices⟩ := standsFor
  obtain ⟨samePosition, sameEntries, isSamePosition, areSameEntries, anotherSplices⟩ :=
    another
  obtain rfl := Option.some.inj (isPosition.symm.trans isSamePosition)
  obtain rfl := Option.some.inj (isEntries.symm.trans areSameEntries)
  exact splices.unique anotherSplices

/-- An include stands for the rules of its state, between those of the entries before it
and behind it. -/
theorem Splices.exists_of_include {grammar : Grammar} {origin : StateIndex}
    {originName target : String} {front back : List Entry} {rules : List PlacedRule}
    (splices : grammar.Splices origin originName
      (front ++ .include target :: back) rules) :
    ∃ before middle after, rules = before ++ (middle ++ after) ∧
      grammar.Splices origin originName front before ∧
        grammar.StandsFor (plainName target) middle ∧
          grammar.Splices origin originName back after := by
  induction front generalizing rules with
  | nil =>
      cases splices with
      | included isPosition isEntries inner others =>
          exact ⟨[], _, _, rfl, .nil, ⟨_, _, isPosition, isEntries, inner⟩, others⟩
  | cons entry front ih =>
      cases entry with
      | rule pattern action =>
          cases splices with
          | rule others =>
              obtain ⟨before, middle, after, rfl, isFront, isMiddle, isBack⟩ := ih others
              exact ⟨_ :: before, middle, after, rfl, .rule isFront, isMiddle, isBack⟩
      | «include» name =>
          cases splices with
          | @included _ _ _ _ _ _ _ innerRules isPosition isEntries inner others =>
              obtain ⟨before, middle, after, rfl, isFront, isMiddle, isBack⟩ := ih others
              refine ⟨innerRules ++ before, middle, after, ?_,
                .included isPosition isEntries inner isFront, isMiddle, isBack⟩
              rw [List.append_assoc]

/-- A placed rule is a rule of a declared state: its origin is the number of this state,
and it stands among the state's own entries. -/
def IsDeclared (grammar : Grammar) (rule : PlacedRule) : Prop :=
  grammar.states.position? rule.originName = some rule.origin ∧
    ∃ entries, grammar.states.get? rule.originName = some entries ∧
      Entry.rule rule.pattern rule.action ∈ entries

/-- Splicing adds no rules of its own: if the entries at hand are entries of a declared
state, so is the entry of each rule. -/
theorem Splices.isDeclared {grammar : Grammar} {origin : StateIndex} {originName : String}
    {entries : List Entry} {rules : List PlacedRule}
    (splices : grammar.Splices origin originName entries rules)
    (own : ∀ pattern action, Entry.rule pattern action ∈ entries →
      grammar.IsDeclared ⟨origin, originName, pattern, action⟩) :
    ∀ rule ∈ rules, grammar.IsDeclared rule := by
  induction splices with
  | nil => simp
  | rule others ih =>
      intro rule member
      rcases List.mem_cons.mp member with rfl | member
      · exact own _ _ List.mem_cons_self
      · refine ih ?_ rule member
        intro pattern action isEntry
        exact own pattern action (List.mem_cons_of_mem _ isEntry)
  | included isPosition isEntries inner others innerIH othersIH =>
      intro rule member
      rcases List.mem_append.mp member with member | member
      · refine innerIH ?_ rule member
        intro pattern action isEntry
        exact ⟨isPosition, _, isEntries, isEntry⟩
      · refine othersIH ?_ rule member
        intro pattern action isEntry
        exact own pattern action (List.mem_cons_of_mem _ isEntry)

theorem StandsFor.isDeclared {grammar : Grammar} {state : String}
    {rules : List PlacedRule} (standsFor : grammar.StandsFor state rules)
    {rule : PlacedRule} (member : rule ∈ rules) : grammar.IsDeclared rule := by
  obtain ⟨position, entries, isPosition, isEntries, splices⟩ := standsFor
  refine splices.isDeclared ?_ rule member
  intro pattern action isEntry
  exact ⟨isPosition, entries, isEntries, isEntry⟩

end LineLexer.Grammar
