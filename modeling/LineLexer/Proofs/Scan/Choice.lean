import LineLexer.Proofs.Language.Compilation
import LineLexer.Proofs.Scan.Steps

/-!
# Trying rules and walking entries

The scan of a compiled language tries a plain list of rules.  Reading by the grammar walks
the entries of the active state and follows every include where it stands.  Both pass over
the same patterns in the same order, so that they end at the same action, and the
classifier and the stack change of the rule that wins do what this action says.
-/

namespace LineLexer

namespace Grammar

variable {grammar : Grammar} {reader : PatternReader} {text : List Char}

/-- The choice that a single rule leads to. -/
def choiceOf? (grammar : Grammar) (reader : PatternReader) (text : List Char)
    (placed : PlacedRule) : Option (Action × Nat) :=
  match grammar.matchLength? reader placed.pattern text with
  | some (count + 1) => some (placed.action, count + 1)
  | _ => none

/-- Walking entries with their includes leads to the first choice in the expansion of the
entries. -/
theorem Splices.selects {origin : StateIndex} {originName : String} {entries : List Entry}
    {placedRules : List PlacedRule}
    (splices : grammar.Splices origin originName entries placedRules) :
    grammar.Selects reader text entries
      (placedRules.findSome? (grammar.choiceOf? reader text)) := by
  induction splices with
  | nil => exact .nil
  | @rule origin originName pattern action entries placedRules others ih =>
      rw [List.findSome?_cons, choiceOf?]
      cases isMatch : grammar.matchLength? reader pattern text with
      | none => exact .pass (by simp [isMatch]) ih
      | some count =>
          cases count with
          | zero => exact .pass (by simp [isMatch]) ih
          | succ count => exact .hit isMatch (Nat.succ_pos count)
  | @included origin position originName target entries innerEntries placedRules
      innerRules
      isPosition isEntries inner others innerIH othersIH =>
      rw [List.findSome?_append]
      cases chosen : innerRules.findSome? (grammar.choiceOf? reader text) with
      | none =>
          rw [chosen] at innerIH
          exact .past isEntries innerIH othersIH
      | some choice =>
          rw [chosen] at innerIH
          exact .inside isEntries innerIH

theorem CompilesRule.matchLength?_eq {placed : PlacedRule} {rule : Rule}
    (compiles : grammar.CompilesRule reader placed rule) :
    grammar.matchLength? reader placed.pattern text = rule.pattern.matchLength? text := by
  rw [Grammar.matchLength?, compiles.pattern]

/-- Trying compiled rules ends at the first choice among the rules that they are made
from. -/
theorem winner_tryRules_eq {placedRules : List PlacedRule} {rules : List Rule}
    (related : List.Forall₂ (grammar.CompilesRule reader) placedRules rules)
    (index : Nat) :
    (tryRules text index rules).winner.map
      (fun winner => (winner.2.1.action, winner.2.2)) =
      placedRules.findSome? (grammar.choiceOf? reader text) := by
  induction related generalizing index with
  | nil => rfl
  | @cons placed rule placedRules rules compiles related ih =>
      rw [List.findSome?_cons, choiceOf?, compiles.matchLength?_eq, tryRules]
      cases rule.pattern.matchLength? text with
      | none => exact ih (index + 1)
      | some count =>
          cases count with
          | zero => exact ih (index + 1)
          | succ count =>
              rw [← compiles.action_eq]
              rfl

/-- The bracket table of the language finds what the bracket table of the grammar
finds. -/
theorem isClass_of_bracketOf? {pairs : List BracketPair}
    {bracketEntries : List BracketEntry}
    (related : List.Forall₂ (fun pair entry => entry.opening = pair.opening ∧
      entry.closing = pair.closing ∧
      grammar.IsClass pair.className entry.classIndex) pairs bracketEntries)
    (word : String) :
    Option.Rel
      (fun pair found => grammar.IsClass pair.className found.1 ∧
        found.2 = if pair.opening = word then Side.opening else .closing)
      (pairs.find? fun pair => pair.opening == word || pair.closing == word)
      (bracketEntries.findSome? fun entry =>
        if entry.opening = word then some (entry.classIndex, Side.opening)
        else if entry.closing = word then some (entry.classIndex, .closing)
        else none) := by
  induction related with
  | nil => exact .none
  | @cons pair entry pairs bracketEntries isEntry related ih =>
      obtain ⟨opening_eq, closing_eq, isClass⟩ := isEntry
      rw [List.find?_cons, List.findSome?_cons, opening_eq, closing_eq]
      by_cases opens : pair.opening = word
      · simp only [opens, beq_self_eq_true, Bool.true_or, ↓reduceIte]
        exact .some ⟨isClass, by simp [opens]⟩
      · by_cases closes : pair.closing = word
        · simp only [opens, closes, beq_self_eq_true, Bool.or_true, ↓reduceIte]
          exact .some ⟨isClass, by simp [opens]⟩
        · simp only [opens, closes, beq_eq_false_iff_ne.mpr, ne_eq, not_false_eq_true,
            Bool.or_false, ↓reduceIte]
          exact ih

/-- A classifier gives a text the class, and for a bracket the side, that its emission
gives it. -/
theorem EmitsBy.classify {language : Language}
    (isCompiled : grammar.IsCompiled reader language) {emission : Emission}
    {classifier : Classifier} (emits : grammar.EmitsBy emission classifier)
    (word : String) :
    grammar.IsClass (grammar.emitted emission word).1
      (language.classify classifier word).1 ∧
      (language.classify classifier word).2 = (grammar.emitted emission word).2 := by
  cases emits with
  | token isClass => exact ⟨isClass, rfl⟩
  | brackets =>
      have related := isClass_of_bracketOf? isCompiled.brackets word
      rw [emitted, bracketClass, Language.classify, Language.bracketOf?]
      generalize grammar.brackets.find? _ = pair at related ⊢
      generalize language.brackets.findSome? _ = found at related ⊢
      cases related with
      | none => exact ⟨isCompiled.defaultClass, rfl⟩
      | some isFound => exact ⟨isFound.1, by simp [isFound.2]⟩
  | @cases arms table words otherwise =>
      have related := words (grammar.wordKey word)
      have key_eq : (if language.ignoreCase then Text.lowerCase word else word) =
          grammar.wordKey word := by
        rw [isCompiled.ignoreCase_eq, wordKey]
      rw [emitted, caseClass, Language.classify, Language.caseClass]
      simp only [key_eq, and_true]
      generalize grammar.wordClass? arms (grammar.wordKey word) = className at related ⊢
      generalize table.classOf[grammar.wordKey word]? = index at related ⊢
      cases related with
      | none => exact otherwise
      | some isClass => exact isClass

end Grammar

end LineLexer
