import LineLexer.Proofs.Grammar.Splicing
import LineLexer.Proofs.Pattern.Takes
import LineLexer.Proofs.Scan.Taking

/-!
# States as lists of patterns

The rules of a state, with its includes replaced, are read as a list of patterns with
actions.  If none of these patterns matches the empty text, a step takes the match of the
first pattern that matches, or one character where none does.
-/

namespace LineLexer.Grammar

variable {grammar : Grammar} {text : List Char}

/-- The choice that a pattern leads to. -/
def matchOf? (text : List Char) (rule : Pattern × Action) : Option (Action × Nat) :=
  (rule.1.matchLength? text).map (rule.2, ·)

/-- The rules of a state with its includes replaced, as the patterns that they are read
as. -/
def patterns? (grammar : Grammar) (state : String) :
    Option (List (Option Pattern × Action)) :=
  (grammar.expand state).toOption.map <| List.map fun placed =>
    ((Pattern.parse grammar.ignoreCase placed.pattern).toOption, placed.action)

theorem matchLength?_of_parse {pattern : Pattern} {written : String}
    (isRead : Pattern.parse grammar.ignoreCase written = .ok pattern) :
    grammar.matchLength? Pattern.read written text = pattern.matchLength? text := by
  rw [Grammar.matchLength?, Pattern.read, isRead]
  rfl

/-- Rules can be tried as the patterns that they are read as, if these have to consume
something. -/
theorem findSome?_choiceOf?_eq {placedRules : List PlacedRule}
    {rules : List (Pattern × Action)} (areRead : placedRules.map (fun placed =>
      ((Pattern.parse grammar.ignoreCase placed.pattern).toOption, placed.action)) =
        rules.map fun rule => (some rule.1, rule.2))
    (consume : ∀ rule ∈ rules, rule.1.isDirect = true ∧ rule.1.canBeEmpty = false) :
    placedRules.findSome? (grammar.choiceOf? Pattern.read text) =
      rules.findSome? (matchOf? text) := by
  induction rules generalizing placedRules with
  | nil =>
      rw [List.map_eq_nil_iff.mp areRead]
      rfl
  | cons rule rules ih =>
      obtain ⟨placed, placedRules, rfl, isRead, areRead⟩ :=
        List.map_eq_cons_iff.mp areRead
      obtain ⟨parsed, action_eq⟩ := Prod.mk.inj isRead
      obtain ⟨direct, consumes⟩ := consume rule List.mem_cons_self
      rw [List.findSome?_cons, List.findSome?_cons, choiceOf?, matchOf?,
        matchLength?_of_parse (toOption_eq_some_iff.mp parsed), action_eq,
        ih areRead fun other member => consume other (List.mem_cons_of_mem rule member)]
      cases matched : rule.1.matchLength? text with
      | none => rfl
      | some count =>
          cases count with
          | zero => exact absurd matched (Pattern.matchLength?_ne_some_zero
              direct consumes)
          | succ count => rfl

/-- In a state the rules are some patterns in their order. -/
def Tries (grammar : Grammar) (state : StateIndex)
    (rules : List (Pattern × Action)) : Prop :=
  ∃ name entries, grammar.states.position? name = some state ∧
    grammar.states.get? name = some entries ∧
    ∀ text, grammar.Selects Pattern.read text entries (rules.findSome? (matchOf? text))

theorem tries_of_patterns? {name : String} {state : StateIndex}
    {rules : List (Pattern × Action)} (sizeLe : grammar.states.size ≤ stateLimit)
    (isPosition : grammar.states.position? name = some state)
    (areRead : grammar.patterns? name =
      some (rules.map fun rule => (some rule.1, rule.2)))
    (consume : ∀ rule ∈ rules, rule.1.isDirect = true ∧ rule.1.canBeEmpty = false) :
    grammar.Tries state rules := by
  obtain ⟨placedRules, expanded, areRead⟩ := Option.map_eq_some_iff.mp areRead
  obtain ⟨_, entries, -, areEntries, splices⟩ :=
    standsFor_of_expand sizeLe (toOption_eq_some_iff.mp expanded)
  refine ⟨name, entries, isPosition, areEntries, fun text => ?_⟩
  rw [← findSome?_choiceOf?_eq areRead consume]
  exact splices.selects

/-- What is emitted has a class of the emission, or one of those of brackets and of
unmatched text. -/
theorem emitted_mem (grammar : Grammar) (emission : Emission) (word : String) :
    (grammar.emitted emission word).1 ∈
      grammar.defaultClass :: (grammar.brackets.map BracketPair.className ++
        emission.classNames) := by
  rw [List.mem_cons, List.mem_append]
  cases emission with
  | token className => exact .inr (.inr List.mem_cons_self)
  | brackets =>
      rw [emitted, bracketClass]
      cases isPair : grammar.brackets.find? fun pair =>
        pair.opening == word || pair.closing == word with
      | none => exact .inl rfl
      | some pair =>
          exact .inr (.inl (List.mem_map_of_mem (List.mem_of_find?_eq_some isPair)))
  | cases arms =>
      have inArms {arm : Guard × String} (member : arm ∈ arms) :
          arm.2 ∈ (Emission.cases arms).classNames :=
        List.mem_map_of_mem member
      rw [emitted, caseClass]
      cases isWord : grammar.wordClass? arms (grammar.wordKey word) with
      | some className =>
          obtain ⟨arm, isArm, rfl⟩ := Option.map_eq_some_iff.mp isWord
          exact .inr (.inr (inArms (List.mem_of_find?_eq_some isArm)))
      | none =>
          cases isOtherwise : otherwiseClass? arms with
          | none => exact .inl rfl
          | some className =>
              obtain ⟨arm, isArm, rfl⟩ := Option.map_eq_some_iff.mp isOtherwise
              exact .inr (.inr (inArms (List.mem_of_find?_eq_some isArm)))

/-- Everything that a step can do in such a state. -/
theorem Tries.step_cases {language : Language} {scanner : Scanner}
    {rules : List (Pattern × Action)} {step : Step}
    (tries : grammar.Tries scanner.stack.top rules)
    (isCompiled : grammar.IsCompiled Pattern.read language)
    (isStep : scanner.step? language = some step) :
    (∃ rule ∈ rules, ∃ taken rest, scanner.rest = taken ++ rest ∧
        rule.1.matchLength? scanner.rest = some taken.length ∧ step.rule.isSome ∧
        step.token = ⟨scanner.offset, scanner.offset + Text.byteLength taken,
          language.classIndexOf (grammar.emitted rule.2.emission (String.ofList taken)).1,
          (grammar.emitted rule.2.emission (String.ofList taken)).2⟩) ∨
      ∃ char rest, scanner.rest = char :: rest ∧
        (∀ rule ∈ rules, rule.1.matchLength? scanner.rest = none) ∧
        step.rule = none ∧ step.next.stack = scanner.stack ∧
        step.token = ⟨scanner.offset, scanner.offset + char.utf8Size,
          language.defaultClass, none⟩ := by
  obtain ⟨name, entries, isTop, isEntries, selects⟩ := tries
  have selects := selects scanner.rest
  cases chosen : rules.findSome? (matchOf? scanner.rest) with
  | none =>
      obtain ⟨char, rest, rest_eq⟩ :=
        List.exists_cons_of_ne_nil (Scanner.step_cases isStep).1
      rw [chosen] at selects
      obtain ⟨found, isFound, noRule, next_eq, token_eq⟩ :=
        isCompiled.step?_of_selects_none isTop isEntries
          (rest_eq ▸ List.cons_ne_nil char rest) selects
      obtain rfl : found = step := Option.some.inj (isFound.symm.trans isStep)
      refine .inr ⟨char, rest, rest_eq, fun rule member => ?_,
        noRule, by rw [next_eq]; rfl, ?_⟩
      · simpa [matchOf?] using List.findSome?_eq_none_iff.mp chosen rule member
      · rw [token_eq, next_eq, Scanner.advance, rest_eq]
        rfl
  | some choice =>
      obtain ⟨action, count⟩ := choice
      rw [chosen] at selects
      obtain ⟨found, _, isFound, isRule, -, next_eq, token_eq⟩ :=
        isCompiled.exists_step_of_selects isTop isEntries selects
      obtain rfl : found = step := Option.some.inj (isFound.symm.trans isStep)
      obtain ⟨rule, member, isMatch⟩ := List.exists_of_findSome?_eq_some chosen
      obtain ⟨length, matched, same⟩ := Option.map_eq_some_iff.mp isMatch
      obtain ⟨rfl, rfl⟩ := Prod.mk.inj same
      have length_eq : (scanner.rest.take length).length = length :=
        List.length_take_of_le (Pattern.matchLength?_le_length matched)
      refine .inl ⟨rule, member, scanner.rest.take length, scanner.rest.drop length,
        (List.take_append_drop _ _).symm, by rw [length_eq, matched], isRule, ?_⟩
      rw [token_eq, next_eq]
      rfl

end LineLexer.Grammar
