import LineLexer.Catalog.Resolution
import LineLexer.Proofs.Text.EditDistance

/-!
# Suggestions for unknown languages

A name that is no alias, whatever the case of its ASCII letters, is refused, and the
refusal suggests a language exactly if an alias is near: if two edits or fewer turn it
into the name in lower case.
-/

namespace LineLexer.BuiltIn

open Text

variable {name : String}

/-! ### Near aliases -/

/-- The distance to a name is within a limit exactly if that of some alias is. -/
theorem exists_distance_le_iff {builtIn : BuiltIn} {limit : Nat} :
    (∃ distance, builtIn.distance name = some distance ∧ distance ≤ limit) ↔
      ∃ alternative ∈ builtIn.aliases,
        editDistance alternative.toList (lowerCase name).toList ≤ limit := by
  constructor
  · rintro ⟨least, isLeast, within⟩
    obtain ⟨isDistance, -⟩ := List.min?_eq_some_iff.mp isLeast
    obtain ⟨alternative, isAlias, rfl⟩ := List.mem_map.mp isDistance
    exact ⟨alternative, isAlias, within⟩
  · rintro ⟨alternative, isAlias, within⟩
    have isDistance := List.mem_map_of_mem
      (f := fun alternative => editDistance alternative.toList (lowerCase name).toList)
      isAlias
    obtain ⟨least, isLeast⟩ :=
      Option.isSome_iff_exists.mp (List.isSome_min?_of_mem isDistance)
    obtain ⟨-, bound⟩ := List.min?_eq_some_iff.mp isLeast
    exact ⟨least, isLeast, Nat.le_trans (bound _ isDistance) within⟩

/-- A language is suggested for a name exactly if some alias of some language is near to
the name. -/
theorem isSome_suggestion?_iff :
    (suggestion? name).isSome ↔ ∃ builtIn ∈ all, ∃ alternative ∈ builtIn.aliases,
      editDistance alternative.toList (lowerCase name).toList ≤ suggestionLimit := by
  have candidate_iff (builtIn : BuiltIn) : ((builtIn.distance name).bind fun distance =>
      if distance ≤ suggestionLimit then some (distance, builtIn) else none) = none ↔
        ¬ ∃ distance, builtIn.distance name = some distance ∧
        distance ≤ suggestionLimit := by
    cases builtIn.distance name <;> simp
  rw [← not_iff_not, Bool.not_eq_true, Option.isSome_eq_false_iff,
    Option.isNone_iff_eq_none]
  calc
    suggestion? name = none ↔
      all.filterMap (fun builtIn => (builtIn.distance name).bind fun distance =>
        if distance ≤ suggestionLimit then some (distance, builtIn) else none) = [] := by
      unfold suggestion?
      generalize all.filterMap _ = candidates
      cases candidates <;> simp
    _ ↔ _ := by
      simp only [List.filterMap_eq_nil_iff, candidate_iff, exists_distance_le_iff,
        not_exists, not_and]

/-! ### Refusals -/

theorem toList_toLower (text : String) :
    text.toLower.toList = text.toList.map Char.toLower :=
  String.toList_map

theorem toLower_of_mem_aliases {builtIn : BuiltIn} (member : builtIn ∈ all)
    {alternative : String} (isAlias : alternative ∈ builtIn.aliases) :
    alternative.toLower = alternative := by
  obtain rfl := List.mem_singleton.mp member
  have lower : ∀ alternative ∈ powerQuery.aliases,
      alternative.toList.map Char.toLower = alternative.toList := by
    decide
  rw [← String.toList_inj, toList_toLower]
  exact lower alternative isAlias

/-- A name is no language's if it is none of the aliases, without regard to the case of
ASCII letters. -/
theorem ofName?_eq_none (unknown : ∀ builtIn ∈ all, ∀ alternative ∈ builtIn.aliases,
    alternative.toLower ≠ name.toLower) : ofName? name = none := by
  refine List.find?_eq_none.mpr fun builtIn member contains => ?_
  have isAlias : name.toLower ∈ builtIn.aliases := by simpa using contains
  exact unknown builtIn member _ isAlias (toLower_of_mem_aliases member isAlias)

/-- The distance of two texts is the least number of single insertions, deletions and
substitutions of characters that turn one into the other.  A name that is no alias,
without regard to the case of ASCII letters, is refused, whatever the path of the source,
and the refusal suggests a language exactly if two edits or fewer turn some alias into the
name in lower case. -/
theorem editDistance_decides_suggestion :
    (∀ source target : String,
      IsLeast {count | EditsInto count source.toList target.toList}
        (editDistance source.toList target.toList)) ∧
      ∀ name path, (∀ builtIn ∈ all, ∀ alternative ∈ builtIn.aliases,
        alternative.toLower ≠ name.toLower) →
        ∃ suggestion, resolve (some name) path = .error ⟨name, suggestion⟩ ∧
          (suggestion.isSome ↔ ∃ builtIn ∈ all, ∃ alternative ∈ builtIn.aliases,
            ∃ count ≤ 2, EditsInto count alternative.toList (lowerCase name).toList) := by
  refine ⟨fun source target => isLeast_editDistance _ _, fun name path unknown => ?_⟩
  refine ⟨(suggestion? name).map BuiltIn.name, ?_, ?_⟩
  · rw [resolve, ofName?_eq_none unknown]
  · rw [Option.isSome_map, isSome_suggestion?_iff]
    -- A script of two edits or fewer exists exactly if the shortest one has two edits or
    -- fewer.
    have near_iff (alternative : String) :
        editDistance alternative.toList (lowerCase name).toList ≤ suggestionLimit ↔
          ∃ count ≤ 2, EditsInto count alternative.toList (lowerCase name).toList :=
      ⟨fun near => ⟨_, near, editsInto_editDistance _ _⟩,
        fun ⟨count, within, script⟩ =>
          Nat.le_trans (editDistance_le_of_editsInto script) within⟩
    simp only [near_iff]

/-- Two insertions turn the alias `pq` into a name that is no alias, which is as far as a
suggestion reaches. -/
theorem editDistance_decides_suggestion_twoInsertions :
    (∀ builtIn ∈ all, ∀ alternative ∈ builtIn.aliases,
      alternative.toLower ≠ "Pqxy".toLower) ∧
      ∃ suggestion, resolve (some "Pqxy") none = .error ⟨"Pqxy", suggestion⟩ ∧
      suggestion.isSome := by
  have unknown : ∀ builtIn ∈ all, ∀ alternative ∈ builtIn.aliases,
      alternative.toLower ≠ "Pqxy".toLower := by
    intro builtIn member alternative isAlias same
    rw [toLower_of_mem_aliases member isAlias] at same
    obtain rfl := List.mem_singleton.mp member
    have others : ∀ alternative ∈ powerQuery.aliases,
        alternative.toList ≠ "Pqxy".toList.map Char.toLower := by
      decide
    exact others alternative isAlias (same ▸ toList_toLower "Pqxy")
  obtain ⟨suggestion, refused, suggested_iff⟩ :=
    editDistance_decides_suggestion.2 "Pqxy" none unknown
  refine ⟨unknown, suggestion, refused, suggested_iff.mpr ?_⟩
  have lower : (lowerCase "Pqxy").toList = "pq".toList ++ 'x' :: ['y'] := by
    decide +kernel
  have script : EditsInto 2 "pq".toList ("pq".toList ++ 'x' :: ['y']) :=
    .step (.insertion "pq".toList [] 'y')
      (.step (.insertion "pq".toList ['y'] 'x') (.refl _))
  exact ⟨powerQuery, List.mem_singleton_self _, "pq", by decide, 2, Nat.le_refl 2,
    lower ▸ script⟩

end LineLexer.BuiltIn
