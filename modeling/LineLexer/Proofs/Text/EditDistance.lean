import LineLexer.Text.EditDistance
import Mathlib.Order.Bounds.Defs
import Mathlib.Order.MinMax

/-!
# The edit distance is a least number of edits

A script is a sequence of single edits, each of which may happen anywhere in the list that
the edits before it have made.  So a script can touch an entry any number of times, and
can insert what it deletes later on, while the distance is computed from the ends of two
lists only.

The table of distances holds the values of a recursion over two lists, taken at the
initial parts of both, which are read from their ends.  That these values are least
lengths of scripts follows from two facts.  The distance to a fixed target falls by at
most one in a single edit, and for each way in which the distance to a target arises there
is a script that is as long.
-/

namespace LineLexer.Text

variable {α : Type}

/-- A single edit inserts an entry, deletes one, or puts one in the place of another. -/
inductive Edits : List α → List α → Prop where
  | insertion (front back : List α) (entry : α) :
      Edits (front ++ back) (front ++ entry :: back)
  | deletion (front back : List α) (entry : α) :
      Edits (front ++ entry :: back) (front ++ back)
  | substitution (front back : List α) (old new : α) :
      Edits (front ++ old :: back) (front ++ new :: back)

/-- A script of `count` single edits, one after the other, turns the first list into the
second. -/
inductive EditsInto : (count : Nat) → List α → List α → Prop where
  | refl (list : List α) : EditsInto 0 list list
  | step {count : Nat} {source middle target : List α} (edits : Edits source middle)
      (rest : EditsInto count middle target) : EditsInto (count + 1) source target

theorem Edits.reverse {source target : List α} (edits : Edits source target) :
    Edits source.reverse target.reverse := by
  cases edits with
  | insertion front back entry =>
      rw [List.reverse_append, List.reverse_append, List.reverse_cons, List.append_assoc]
      exact .insertion back.reverse front.reverse entry
  | deletion front back entry =>
      rw [List.reverse_append, List.reverse_append, List.reverse_cons, List.append_assoc]
      exact .deletion back.reverse front.reverse entry
  | substitution front back old new =>
      rw [List.reverse_append, List.reverse_append, List.reverse_cons, List.reverse_cons,
        List.append_assoc, List.append_assoc]
      exact .substitution back.reverse front.reverse old new

namespace EditsInto

variable {count : Nat} {source target : List α}

/-- A script does the same in the other direction of reading. -/
theorem reverse (script : EditsInto count source target) :
    EditsInto count source.reverse target.reverse := by
  induction script with
  | refl list => exact .refl _
  | step edits rest ih => exact .step edits.reverse ih

/-- A script does the same behind an entry that it leaves alone. -/
theorem cons (entry : α) (script : EditsInto count source target) :
    EditsInto count (entry :: source) (entry :: target) := by
  induction script with
  | refl list => exact .refl _
  | step edits rest ih =>
      refine .step ?_ ih
      cases edits with
      | insertion front back inserted => exact .insertion (entry :: front) back inserted
      | deletion front back deleted => exact .deletion (entry :: front) back deleted
      | substitution front back old new =>
          exact .substitution (entry :: front) back old new

theorem cons_left (entry : α) (script : EditsInto count source target) :
    EditsInto (count + 1) (entry :: source) target :=
  .step (.deletion [] source entry) script

theorem cons_right (entry : α) (script : EditsInto count source target) :
    EditsInto (count + 1) source (entry :: target) :=
  .step (.insertion [] source entry) (script.cons entry)

theorem cons_cons (old new : α) (script : EditsInto count source target) :
    EditsInto (count + 1) (old :: source) (new :: target) :=
  .step (.substitution [] source old new) (script.cons new)

end EditsInto

/-! ### The recursion -/

section Recursion

variable [DecidableEq α]

/-- The distance of two lists by recursion over both: either the first entry of the source
is deleted, or that of the target inserted, or the one is put in the place of the
other. -/
def distance : List α → List α → Nat
  | [], target => target.length
  | source, [] => source.length
  | old :: source, new :: target =>
      min (min (distance source (new :: target) + 1)
        (distance (old :: source) target + 1))
        (distance source target + if old = new then 0 else 1)
termination_by source target => source.length + target.length

theorem distance_nil_left (target : List α) : distance [] target = target.length := by
  rw [distance]

theorem distance_nil_right (source : List α) : distance source [] = source.length := by
  cases source with
  | nil => rw [distance]
  | cons first source =>
      rw [distance]
      simp

theorem distance_cons_cons (old new : α) (source target : List α) :
    distance (old :: source) (new :: target) =
      min (min (distance source (new :: target) + 1)
        (distance (old :: source) target + 1))
        (distance source target + if old = new then 0 else 1) := by
  rw [distance]

end Recursion

/-! ### The rows of the table -/

section Rows

variable [DecidableEq α] {source target : List α} {row : Nat}

/-- The entry of the table for the initial parts with the given numbers of entries. -/
def tableEntry (source target : List α) (row column : Nat) : Nat :=
  distance (source.take row).reverse (target.take column).reverse

theorem tableEntry_zero_left {column : Nat} (inside : column ≤ target.length) :
    tableEntry source target 0 column = column := by
  rw [tableEntry, List.take_zero, List.reverse_nil, distance_nil_left,
    List.length_reverse, List.length_take_of_le inside]

theorem tableEntry_zero_right (inside : row ≤ source.length) :
    tableEntry source target row 0 = row := by
  rw [tableEntry, List.take_zero, List.reverse_nil, distance_nil_right,
    List.length_reverse, List.length_take_of_le inside]

theorem tableEntry_succ_succ (row : Fin source.length) (column : Fin target.length) :
    tableEntry source target (row.val + 1) (column.val + 1) =
      min (min (tableEntry source target row.val (column.val + 1) + 1)
          (tableEntry source target (row.val + 1) column.val + 1))
        (tableEntry source target row.val column.val +
          DistanceRows.substitutionCost source target row column) := by
  have rows_eq :
      (source.take (row.val + 1)).reverse =
        source[row] :: (source.take row.val).reverse := by
    rw [List.take_succ_eq_append_getElem row.isLt, List.reverse_append]
    rfl
  have columns_eq :
      (target.take (column.val + 1)).reverse =
        target[column] :: (target.take column.val).reverse := by
    rw [List.take_succ_eq_append_getElem column.isLt, List.reverse_append]
    rfl
  simp only [tableEntry, rows_eq, columns_eq, distance_cons_cons,
    DistanceRows.substitutionCost]

/-- A loop keeps what each of its rounds keeps; `property` may speak of the number of
rounds. -/
theorem foldl_keeps {State : Type} {size : Nat} (property : Nat → State → Prop)
    (round : State → Fin size → State) {state : State} (atStart : property 0 state)
    (keeps : ∀ index state, property index.val state →
      property (index.val + 1) (round state index)) :
    property size (Fin.foldl size round state) := by
  induction size with
  | zero => exact atStart
  | succ size ih =>
      rw [Fin.foldl_succ_last]
      exact keeps (Fin.last size) _ (ih _ fun index => keeps index.castSucc)

namespace DistanceRows

/-- The previous row is that of the table. -/
def IsRow (source target : List α) (row : Nat)
    (rows : DistanceRows target.length) : Prop :=
  ∀ column (inside : column < target.length + 1),
    rows.previous[column] = tableEntry source target row column

theorem isRow_start : IsRow source target 0 (.start target.length) := by
  intro column inside
  rw [tableEntry_zero_left (Nat.le_of_lt_succ inside), DistanceRows.start,
    Vector.getElem_ofFn]

/-- The previous row is that of the table, and the current one is the next one up to a
column. -/
structure AreFilled (source target : List α) (row filled : Nat)
    (rows : DistanceRows target.length) : Prop where
  previous : IsRow source target row rows
  current : ∀ column (inside : column < target.length + 1), column ≤ filled →
    rows.current[column] = tableEntry source target (row + 1) column

/-- Filling one more column. -/
theorem AreFilled.fill {row : Fin source.length} {column : Fin target.length}
    {rows : DistanceRows target.length}
    (areFilled : AreFilled source target row.val column.val rows) :
    AreFilled source target row.val (column.val + 1)
      (rows.fill column (substitutionCost source target row column)) where
  previous := areFilled.previous
  current other inside within := by
    rw [DistanceRows.fill, Vector.getElem_set]
    split
    · rename_i same
      rw [← same, tableEntry_succ_succ, areFilled.previous, areFilled.previous,
        areFilled.current column.val (by omega) (Nat.le_refl _)]
    · exact areFilled.current other inside (by omega)

/-- A row of the table gives the next one. -/
theorem IsRow.advance {row : Fin source.length} {rows : DistanceRows target.length}
    (isRow : IsRow source target row.val rows) :
    IsRow source target (row.val + 1) (rows.advance source target row) := by
  intro column inside
  have opened : AreFilled source target row.val 0
      { rows with current := rows.current.set 0 (row.val + 1) } := by
    refine ⟨isRow, fun column inside within => ?_⟩
    obtain rfl := Nat.le_zero.mp within
    rw [tableEntry_zero_right row.isLt, Vector.getElem_set_self]
  have areFilled := foldl_keeps (AreFilled source target row.val)
    (fun rows column => rows.fill column (substitutionCost source target row column))
    opened
    fun column rows areFilled => areFilled.fill
  exact areFilled.current column inside (Nat.le_of_lt_succ inside)

end DistanceRows

/-- The distance that is computed from the starts of the lists is that of the recursion
from their ends. -/
theorem editDistance_eq_distance (source target : List α) :
    editDistance source target = distance source.reverse target.reverse := by
  rw [editDistance]
  split
  · rename_i isEmpty
    rw [List.isEmpty_iff.mp isEmpty, List.reverse_nil, distance_nil_left,
      List.length_reverse]
  · split
    · rename_i isEmpty
      rw [List.isEmpty_iff.mp isEmpty, List.reverse_nil, distance_nil_right,
        List.length_reverse]
    · have isRow := foldl_keeps (DistanceRows.IsRow source target)
        (DistanceRows.advance source target) DistanceRows.isRow_start
        fun row rows isRow => isRow.advance
      rw [isRow, tableEntry, List.take_length, List.take_length]

end Rows

/-! ### Scripts as long as the distance -/

section Scripts

variable [DecidableEq α]

/-- For each way in which the distance between two lists can arise there is a script of
that length. -/
theorem editsInto_distance (source target : List α) :
    EditsInto (distance source target) source target := by
  induction source generalizing target with
  | nil =>
      rw [distance_nil_left]
      induction target with
      | nil => exact .refl []
      | cons entry target ih => exact ih.cons_right entry
  | cons first source ih =>
      induction target with
      | nil =>
          have shorter := ih []
          rw [distance_nil_right] at shorter ⊢
          exact shorter.cons_left first
      | cons entry target targetIH =>
          rw [distance_cons_cons]
          rcases min_choice
            (min (distance source (entry :: target) + 1)
              (distance (first :: source) target + 1))
            (distance source target + if first = entry then 0 else 1) with least | least
          · rw [least]
            rcases min_choice (distance source (entry :: target) + 1)
              (distance (first :: source) target + 1) with least | least
            · rw [least]
              exact (ih (entry :: target)).cons_left first
            · rw [least]
              exact targetIH.cons_right entry
          · rw [least]
            split
            · rename_i same
              exact same ▸ (ih target).cons first
            · exact (ih target).cons_cons first entry

end Scripts

/-! ### No shorter scripts -/

section Bound

variable [DecidableEq α] {source target edited : List α}

theorem distance_cons_left_le (first : α) (source target : List α) :
    distance (first :: source) target ≤ distance source target + 1 := by
  cases target with
  | nil => simp [distance_nil_right]
  | cons entry target =>
      rw [distance_cons_cons]
      omega

theorem distance_cons_right_le (source : List α) (entry : α) (target : List α) :
    distance source (entry :: target) ≤ distance source target + 1 := by
  cases source with
  | nil => simp [distance_nil_left]
  | cons first source =>
      rw [distance_cons_cons]
      omega

theorem distance_le_cons_left (first : α) (source target : List α) :
    distance source target ≤ distance (first :: source) target + 1 := by
  induction target with
  | nil =>
      simp only [distance_nil_right, List.length_cons]
      omega
  | cons entry target ih =>
      have longer := distance_cons_right_le source entry target
      rw [distance_cons_cons]
      omega

theorem distance_substitution_le (old new : α) (source target : List α) :
    distance (old :: source) target ≤ distance (new :: source) target + 1 := by
  induction target with
  | nil => simp [distance_nil_right]
  | cons entry target ih =>
      rw [distance_cons_cons, distance_cons_cons]
      split <;> split <;> omega

/-- A bound between the distances from two lists stays one when an entry is put before
both lists. -/
theorem distance_cons_le_of_le (first : α)
    (bound : ∀ target, distance source target ≤ distance edited target + 1)
    (target : List α) :
    distance (first :: source) target ≤ distance (first :: edited) target + 1 := by
  induction target with
  | nil =>
      have shorter := bound []
      simp only [distance_nil_right, List.length_cons] at shorter ⊢
      omega
  | cons entry target ih =>
      have ofWhole := bound (entry :: target)
      have ofRest := bound target
      rw [distance_cons_cons, distance_cons_cons]
      omega

theorem distance_append_le_of_le (front : List α)
    (bound : ∀ target, distance source target ≤ distance edited target + 1)
    (target : List α) :
    distance (front ++ source) target ≤ distance (front ++ edited) target + 1 := by
  induction front generalizing target with
  | nil => exact bound target
  | cons first front ih => exact distance_cons_le_of_le first ih target

/-- The distance to a target falls by at most one in a single edit. -/
theorem distance_le_of_edits (edits : Edits source edited) (target : List α) :
    distance source target ≤ distance edited target + 1 := by
  cases edits with
  | insertion front back entry =>
      exact distance_append_le_of_le front (distance_le_cons_left entry back) target
  | deletion front back entry =>
      exact distance_append_le_of_le front (distance_cons_left_le entry back) target
  | substitution front back old new =>
      exact distance_append_le_of_le front (distance_substitution_le old new back) target

theorem distance_self (list : List α) : distance list list = 0 := by
  induction list with
  | nil => exact distance_nil_left []
  | cons first list ih =>
      rw [distance_cons_cons, if_pos rfl, ih]
      exact Nat.min_zero _

theorem distance_le_of_editsInto {count : Nat} (script : EditsInto count source target) :
    distance source target ≤ count := by
  induction script with
  | refl list => exact Nat.le_of_eq (distance_self list)
  | step edits rest ih =>
      exact Nat.le_trans (distance_le_of_edits edits _) (Nat.succ_le_succ ih)

theorem editsInto_editDistance (source target : List α) :
    EditsInto (editDistance source target) source target := by
  have script := (editsInto_distance source.reverse target.reverse).reverse
  rwa [List.reverse_reverse, List.reverse_reverse, ← editDistance_eq_distance] at script

theorem editDistance_le_of_editsInto {count : Nat}
    (script : EditsInto count source target) : editDistance source target ≤ count := by
  rw [editDistance_eq_distance]
  exact distance_le_of_editsInto script.reverse

/-- The edit distance is the least length of a script. -/
theorem isLeast_editDistance (source target : List α) :
    IsLeast {count | EditsInto count source target} (editDistance source target) :=
  ⟨editsInto_editDistance source target,
    fun _ script => editDistance_le_of_editsInto script⟩

end Bound

end LineLexer.Text
