import LineLexer.Proofs.Grammar.Meaning

/-!
# Look-up tables of case tables

The words of the sets of a case table are put into one look-up table, arm by arm, where a
word that is there already keeps its class.  So looking a word up finds the class of the
first arm whose set has the word.
-/

namespace LineLexer.Grammar

variable {grammar : Grammar} {classes : ClassNames}

theorem getElem?_addWords {classIndex : ClassIndex}
    {classOf : Std.TreeMap String ClassIndex} {words : List String} {key : String} :
    (grammar.addWords classIndex classOf words)[key]? =
      classOf[key]?.or
        (if words.any fun word => grammar.wordKey word == key then some classIndex
          else none) := by
  induction words generalizing classOf with
  | nil => simp [addWords]
  | cons word words ih =>
      have step : grammar.addWords classIndex classOf (word :: words) =
          grammar.addWords classIndex
            (classOf.insertIfNew (grammar.wordKey word) classIndex) words :=
        rfl
      rw [step, ih, Std.TreeMap.getElem?_insertIfNew]
      by_cases sameKey : grammar.wordKey word = key
      · subst sameKey
        have present : grammar.wordKey word ∈ classOf ↔
            classOf[grammar.wordKey word]?.isSome :=
          Std.TreeMap.mem_iff_isSome_getElem?
        cases lookedUp : classOf[grammar.wordKey word]? with
        | none => simp [present, lookedUp]
        | some index => simp [present, lookedUp]
      · simp [sameKey]

/-- A key has the class that it had before the arms, or else that of the first arm whose
set has a word with this key. -/
theorem getElem?_caseWords {placed : PlacedRule} {arms : List (Guard × String)}
    {classOf table : Std.TreeMap String ClassIndex}
    (isTable : grammar.caseWords classes placed arms classOf = .ok table) (key : String) :
    table[key]? =
      classOf[key]?.or ((grammar.wordClass? arms key).map (classIndexIn classes)) := by
  induction arms generalizing classOf with
  | nil =>
      obtain rfl := Except.ok.inj isTable
      simp [wordClass?]
  | cons arm arms ih =>
      obtain ⟨guard, className⟩ := arm
      cases guard with
      | otherwise =>
          rw [ih isTable]
          simp [wordClass?, listsKey]
      | inSet setName =>
          rw [caseWords] at isTable
          split at isTable
          · cases isTable
          · rename_i words isWords
            rw [ih isTable, getElem?_addWords, Option.or_assoc]
            by_cases listed : words.any fun word => grammar.wordKey word == key
            · simp [wordClass?, listsKey, isWords, listed]
            · simp [wordClass?, listsKey, isWords, listed]

end LineLexer.Grammar
