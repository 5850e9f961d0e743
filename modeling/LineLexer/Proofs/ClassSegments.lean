import LineLexer.EditorConfiguration

/-!
# Subclasses by segments

The dots of a class name cut it into segments, which may be empty.  Automatic closing
compares characters: a class is a subclass of an entry if it is the entry itself or goes
on behind it with a dot.  This is the same as saying that the segments of the entry are
the first segments of the class, so that the entry `string` covers `string.escape` and
leaves `strings` alone.
-/

namespace LineLexer

/-- The parts of a class name before, between and behind its dots. -/
def segments (name : String) : List (List Char) :=
  name.toList.splitOn '.'

section Splitting

variable {α : Type} [BEq α] [LawfulBEq α] {separator : α}

theorem splitOn_cons_self (items : List α) :
    (separator :: items).splitOn separator = [] :: items.splitOn separator := by
  simp [List.splitOn, List.splitOnP_cons_eq_if_modifyHead]

/-- An item that is no separator is put before the first part. -/
theorem exists_splitOn_cons {item : α} (other : item ≠ separator) (items : List α) :
    ∃ first parts, items.splitOn separator = first :: parts ∧
      (item :: items).splitOn separator = (item :: first) :: parts := by
  obtain ⟨first, parts, areParts⟩ :=
    List.exists_cons_of_ne_nil (List.splitOn_ne_nil separator items)
  refine ⟨first, parts, areParts, ?_⟩
  rw [List.splitOn] at areParts
  simp [List.splitOn, List.splitOnP_cons_eq_if_modifyHead, areParts, other]

/-- The parts of one list are the first parts of another exactly if the other list is the
same or goes on behind it with a separator. -/
theorem splitOn_isPrefix_splitOn_iff {shorter longer : List α} :
    shorter.splitOn separator <+: longer.splitOn separator ↔
      shorter = longer ∨ shorter ++ [separator] <+: longer := by
  induction shorter generalizing longer with
  | nil =>
      cases longer with
      | nil => simp
      | cons item items =>
          by_cases same : item = separator
          · subst same
            simp [splitOn_cons_self]
          · obtain ⟨first, parts, -, split⟩ := exists_splitOn_cons same items
            simp [split, Ne.symm same]
  | cons item items ih =>
      cases longer with
      | nil =>
          by_cases same : item = separator
          · subst same
            simp [splitOn_cons_self, List.splitOn_ne_nil]
          · obtain ⟨first, parts, -, split⟩ := exists_splitOn_cons same items
            simp [split]
      | cons other others =>
          by_cases same : item = separator <;> by_cases otherSame : other = separator
          · -- Both lists begin with an empty part.
            subst same otherSame
            simp [splitOn_cons_self, ih]
          · subst same
            obtain ⟨first, parts, -, split⟩ := exists_splitOn_cons otherSame others
            simp [splitOn_cons_self, split, Ne.symm otherSame]
          · subst otherSame
            obtain ⟨first, parts, -, split⟩ := exists_splitOn_cons same items
            simp [splitOn_cons_self, split, same]
          · -- Both first parts begin with the items at hand, and the rest is compared as
            -- before.
            obtain ⟨first, parts, areParts, split⟩ := exists_splitOn_cons same items
            obtain ⟨otherFirst, otherParts, areOtherParts, otherSplit⟩ :=
              exists_splitOn_cons otherSame others
            have comparison := @ih others
            rw [areParts, areOtherParts, List.cons_prefix_cons] at comparison
            rw [split, otherSplit, List.cons_prefix_cons, List.cons.injEq, and_assoc,
              comparison, List.cons_append, List.cons_prefix_cons, List.cons.injEq,
              ← and_or_left]

end Splitting

theorem segments_injective : Function.Injective segments := by
  intro name other same
  have joined : ['.'].intercalate (segments name) =
      ['.'].intercalate (segments other) := by rw [same]
  rw [segments, segments, List.intercalate_splitOn, List.intercalate_splitOn] at joined
  exact String.toList_inj.mp joined

/-- A class is covered by an entry exactly if the segments of the entry are its first
segments. -/
theorem isSubclass_iff_segments {name ancestor : String} :
    isSubclass name ancestor = true ↔ segments ancestor <+: segments name := by
  rw [isSubclass, Bool.or_eq_true, beq_iff_eq, List.isPrefixOf_iff_prefix,
    segments, segments, splitOn_isPrefix_splitOn_iff, String.toList_inj, eq_comm]

section Order

variable {name middle entry : String}

theorem isSubclass_refl (name : String) : isSubclass name name = true :=
  isSubclass_iff_segments.mpr List.prefix_rfl

theorem isSubclass_trans (inner : isSubclass name middle = true)
    (outer : isSubclass middle entry = true) : isSubclass name entry = true := by
  rw [isSubclass_iff_segments] at inner outer ⊢
  exact outer.trans inner

/-- Of two classes that cover one another each has all segments of the other, and the
segments determine the name. -/
theorem isSubclass_antisymm (below : isSubclass name entry = true)
    (above : isSubclass entry name = true) : name = entry := by
  rw [isSubclass_iff_segments] at below above
  exact segments_injective (above.eq_of_length_le below.length_le)

end Order

example : segments "string..x." = ["string".toList, [], ['x'], []] ∧
    isSubclass "string..x." "string." = true ∧ isSubclass "strings" "string" = false := by
  decide

namespace EditorConfiguration

/-- The pair is the first one that has the opening text. -/
def IsFirstPair (configuration : EditorConfiguration) (opening : String)
    (pair : ClosingPair) : Prop :=
  ∃ earlier later, configuration.closingPairs = earlier ++ pair :: later ∧
    pair.opening = opening ∧
    ∀ other ∈ earlier, other.opening ≠ opening

variable {configuration : EditorConfiguration} {opening closing name : String}
  {pair : ClosingPair}

theorem find?_eq_some_iff_isFirstPair :
    configuration.closingPairs.find? (·.opening == opening) = some pair ↔
      configuration.IsFirstPair opening pair := by
  rw [List.find?_eq_some_iff_append, IsFirstPair]
  constructor
  · rintro ⟨isOpening, earlier, later, parts, others⟩
    exact ⟨earlier, later, parts, by simpa using isOpening, by simpa using others⟩
  · rintro ⟨earlier, later, parts, isOpening, others⟩
    exact ⟨by simpa using isOpening, earlier, later, parts, by simpa using others⟩

theorem find?_eq_none_iff_forall_ne :
    configuration.closingPairs.find? (·.opening == opening) = none ↔
      ∀ pair ∈ configuration.closingPairs, pair.opening ≠ opening := by
  simp

/-- Where the cursor is in no token, the first pair with the opening text decides
alone. -/
theorem closingFor?_none_eq_some_iff :
    configuration.closingFor? opening none = some closing ↔
      ∃ pair, configuration.IsFirstPair opening pair ∧ pair.closing = closing := by
  simp only [← find?_eq_some_iff_isFirstPair]
  rw [closingFor?]
  cases configuration.closingPairs.find? (·.opening == opening) <;> simp

/-- The entries of a pair that cover a class are those whose segments begin it. -/
theorem any_isSubclass_eq_false_iff :
    pair.notIn.any (isSubclass name) = false ↔
    ∀ entry ∈ pair.notIn, ¬ segments entry <+: segments name := by
  simp only [List.any_eq_false, isSubclass_iff_segments]

theorem closingFor?_some_eq_some_iff :
    configuration.closingFor? opening (some name) = some closing ↔
      ∃ pair, configuration.IsFirstPair opening pair ∧ pair.closing = closing ∧
        ∀ entry ∈ pair.notIn, ¬ segments entry <+: segments name := by
  simp only [← find?_eq_some_iff_isFirstPair, ← any_isSubclass_eq_false_iff]
  rw [closingFor?]
  cases configuration.closingPairs.find? (·.opening == opening) with
  | none => simp
  | some pair =>
      simp only [Option.some.injEq, exists_eq_left']
      generalize pair.notIn.any (isSubclass name) = isCovered
      cases isCovered <;> simp

theorem closingFor?_some_eq_none_iff :
    configuration.closingFor? opening (some name) = none ↔
      (∀ pair ∈ configuration.closingPairs, pair.opening ≠ opening) ∨
        ∃ pair, configuration.IsFirstPair opening pair ∧
          ∃ entry ∈ pair.notIn, segments entry <+: segments name := by
  simp only [← find?_eq_some_iff_isFirstPair, ← find?_eq_none_iff_forall_ne,
    ← isSubclass_iff_segments, ← List.any_eq_true]
  rw [closingFor?]
  cases configuration.closingPairs.find? (·.opening == opening) with
  | none => simp
  | some pair =>
      simp only [Option.some.injEq, exists_eq_left', reduceCtorEq, false_or]
      generalize pair.notIn.any (isSubclass name) = isCovered
      cases isCovered <;> simp

/-- The first pair with the typed text decides what is added.  Inside a token nothing is
added if the segments of an entry of this pair are the first segments of the token's
class.  Being covered by an entry in this way is a partial order on all texts, also on
those with empty segments. -/
theorem closingFor?_by_segments (configuration : EditorConfiguration) (opening : String) :
    (∀ closing, configuration.closingFor? opening none = some closing ↔
      ∃ pair, configuration.IsFirstPair opening pair ∧ pair.closing = closing) ∧
    (∀ name closing, configuration.closingFor? opening (some name) = some closing ↔
      ∃ pair, configuration.IsFirstPair opening pair ∧ pair.closing = closing ∧
        ∀ entry ∈ pair.notIn, ¬ segments entry <+: segments name) ∧
    (∀ name, configuration.closingFor? opening (some name) = none ↔
      (∀ pair ∈ configuration.closingPairs, pair.opening ≠ opening) ∨
        ∃ pair, configuration.IsFirstPair opening pair ∧
          ∃ entry ∈ pair.notIn, segments entry <+: segments name) ∧
    (∀ name entry, isSubclass name entry = true ↔ segments entry <+: segments name) ∧
    (∀ name, isSubclass name name = true) ∧
    (∀ name middle entry, isSubclass name middle = true → isSubclass middle entry = true →
      isSubclass name entry = true) ∧
    (∀ name entry, isSubclass name entry = true → isSubclass entry name = true →
      name = entry) := by
  refine ⟨fun closing => closingFor?_none_eq_some_iff,
    fun name closing => closingFor?_some_eq_some_iff,
    fun name => closingFor?_some_eq_none_iff, fun name entry => isSubclass_iff_segments,
    isSubclass_refl, ?_, ?_⟩
  · intro name middle entry
    exact isSubclass_trans
  · intro name entry
    exact isSubclass_antisymm

end EditorConfiguration

end LineLexer
