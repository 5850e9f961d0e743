import LineLexer.ClassNames

/-!
# The numbers of token classes

A table of classes grows by one entry for each new base name and never changes an entry.
So in the table of some base names each of them has a number, and the names at this number
are the base name itself and the full name that it gets.
-/

namespace LineLexer.ClassNames

/-- Each class of the table has the full name that its base name gets. -/
def WellNamed (classes : ClassNames) : Prop :=
  ∀ entry ∈ classes.fullNames.toList, entry.2 = fullNameOf classes.postfixText entry.1

theorem wellNamed_empty (postfixText : String) : (empty postfixText).WellNamed := by
  intro entry member
  change entry ∈ ([] : List (String × String)) at member
  simp at member

@[simp]
theorem postfixText_add (classes : ClassNames) (base : String) :
    (classes.add base).postfixText = classes.postfixText := by
  unfold add
  split <;> rfl

/-- A new base name is added at the end with its full name, and one that is there already
adds nothing. -/
theorem toList_add (classes : ClassNames) (base : String) :
    (classes.add base).fullNames.toList = classes.fullNames.toList ∨
      (classes.add base).fullNames.toList =
        classes.fullNames.toList ++ [(base, fullNameOf classes.postfixText base)] := by
  unfold add
  split
  · exact Or.inl rfl
  · rename_i absent
    refine Or.inr (OrderedMap.toList_insert_of_absent _ ?_)
    simpa [OrderedMap.contains] using absent

theorem WellNamed.add {classes : ClassNames} (wellNamed : classes.WellNamed)
    (base : String) : (classes.add base).WellNamed := by
  intro entry member
  rw [postfixText_add]
  rcases toList_add classes base with same | added
  · rw [same] at member
    exact wellNamed entry member
  · rw [added] at member
    rcases List.mem_append.mp member with member | member
    · exact wellNamed entry member
    · obtain rfl := List.mem_singleton.mp member
      rfl

theorem keys_add (classes : ClassNames) (base : String) :
    (classes.add base).fullNames.keys =
      if base ∈ classes.fullNames.keys then classes.fullNames.keys
      else classes.fullNames.keys ++ [base] := by
  by_cases member : base ∈ classes.fullNames.keys
  · rw [if_pos member, add, if_pos (OrderedMap.contains_iff_mem_keys.mpr member)]
  · have absent := OrderedMap.position?_eq_none_iff.mpr member
    have notContained : ¬ classes.fullNames.contains base = true := by
      rw [OrderedMap.contains_iff_mem_keys]
      exact member
    rw [if_neg member, add, if_neg notContained, OrderedMap.keys,
      OrderedMap.toList_insert_of_absent _ absent, List.map_append]
    rfl

theorem mem_keys_add {classes : ClassNames} {base other : String} :
    other ∈ (classes.add base).fullNames.keys ↔ other ∈ classes.fullNames.keys ∨
      other = base := by
  rw [keys_add]
  split
  · rename_i present
    exact (or_iff_left_of_imp fun same => same ▸ present).symm
  · rw [List.mem_append, List.mem_singleton]

section Growing

variable {classes : ClassNames} {bases : List String}

theorem postfixText_foldl_add :
    (bases.foldl add classes).postfixText = classes.postfixText := by
  induction bases generalizing classes with
  | nil => rfl
  | cons base bases ih => rw [List.foldl_cons, ih, postfixText_add]

theorem WellNamed.foldl_add (wellNamed : classes.WellNamed) :
    (bases.foldl ClassNames.add classes).WellNamed := by
  induction bases generalizing classes with
  | nil => exact wellNamed
  | cons base bases ih => exact ih (wellNamed.add base)

theorem mem_keys_foldl_add {other : String} :
    other ∈ (bases.foldl add classes).fullNames.keys ↔
      other ∈ classes.fullNames.keys ∨ other ∈ bases := by
  induction bases generalizing classes with
  | nil => simp
  | cons base bases ih =>
      rw [List.foldl_cons, ih, mem_keys_add, List.mem_cons, or_assoc]

end Growing

/-- Each of the base names of a table has a number, and at this number stand its names. -/
theorem exists_index?_ofList {postfixText base : String} {bases : List String}
    (member : base ∈ bases) :
    ∃ index, (ofList postfixText bases).index? base = some index ∧
      (ofList postfixText bases).baseName? index = some base ∧
      (ofList postfixText bases).fullName? index =
        some (fullNameOf postfixText base) := by
  have isKey : base ∈ (ofList postfixText bases).fullNames.keys :=
    mem_keys_foldl_add.mpr (Or.inr member)
  obtain ⟨index, isIndex⟩ :=
    Option.isSome_iff_exists.mp (OrderedMap.contains_iff_mem_keys.mpr isKey)
  obtain ⟨⟨name, full⟩, isEntry, rfl⟩ :=
    Option.map_eq_some_iff.mp (OrderedMap.position?_eq_some_iff.mp isIndex)
  have full_eq : full = fullNameOf postfixText name := by
    have wellNamed : (ofList postfixText bases).WellNamed :=
      (wellNamed_empty postfixText).foldl_add
    have entry_eq := wellNamed (name, full)
      (Array.mem_toList_iff.mpr (Array.mem_of_getElem? isEntry))
    rwa [ofList, postfixText_foldl_add] at entry_eq
  refine ⟨index, isIndex, ?_, ?_⟩
  · rw [baseName?, isEntry]
    rfl
  · rw [fullName?, isEntry, Option.map_some, full_eq]

theorem index?_lt_size {classes : ClassNames} {base : String} {index : ClassIndex}
    (isIndex : classes.index? base = some index) : index < classes.size :=
  OrderedMap.position?_lt_size isIndex

/-- A number in range is that of a class, which has both its names. -/
theorem isSome_names_of_lt {classes : ClassNames} {index : ClassIndex}
    (inside : index < classes.size) :
    (classes.baseName? index).isSome ∧ (classes.fullName? index).isSome := by
  have isEntry : classes.fullNames.getAt? index = some classes.fullNames.entries[index] :=
    Array.getElem?_eq_getElem inside
  rw [baseName?, fullName?, isEntry]
  exact ⟨rfl, rfl⟩

end LineLexer.ClassNames
