import LineLexer.Palette
import LineLexer.Proofs.Text.Lacks
import Mathlib.Data.List.Forall2

/-!
# Deleting escape sequences

The colours of a report are escape sequences that are put into its text.  Where the text
itself is free of the control character that they start with, the sequences can be found
again and deleted, wherever they stand.  So it is enough to know of each fragment of a
report that its coloured form is its plain form with sequences put in, and that this plain
form is free of the control character.
-/

namespace LineLexer

/-- A text without the control character that escape sequences start with. -/
abbrev Text.IsEscapeFree (text : String) : Prop :=
  Lacks '\x1b' text

theorem Text.IsEscapeFree.toString (number : Nat) :
    IsEscapeFree (ToString.toString number) :=
  Lacks.toString (by decide) number

theorem Text.IsEscapeFree.quoted (text : String) : IsEscapeFree (Text.quoted text) :=
  Lacks.quoted (by decide +kernel) text

/-! ### Deletion -/

def Palette.sequences (palette : Palette) : List String :=
  [palette.blue, palette.green, palette.yellow, palette.magenta, palette.dim,
    palette.reset]

theorem Palette.forClass_cases (palette : Palette) (name : String) :
    palette.forClass name ∈ palette.sequences ∨ palette.forClass name = "" := by
  rw [forClass]
  split <;> simp [sequences]

/-- Deletes the sequences that stand in a text, from the left to the right.  `pending` is
the number of characters that are left of a sequence that is being deleted. -/
def deleteSequences (sequences : List (List Char)) :
    (pending : Nat) → List Char → List Char
  | _, [] => []
  | pending + 1, _ :: rest => deleteSequences sequences pending rest
  | 0, char :: rest =>
      match sequences.find? (·.isPrefixOf (char :: rest)) with
      | some sequence => deleteSequences sequences (sequence.length - 1) rest
      | none => char :: deleteSequences sequences 0 rest

/-- The text without the escape sequences of the terminal colours. -/
def withoutColors (text : String) : String :=
  String.ofList (deleteSequences (Palette.ansi.sequences.map String.toList) 0 text.toList)

/-! ### Coloured texts -/

/-- The first text is the second one with escape sequences put in between its characters,
none of which starts an escape sequence. -/
inductive ColorsChars : (colored plain : List Char) → Prop where
  | nil : ColorsChars [] []
  | char {char : Char} {colored plain : List Char} (other : char ≠ '\x1b')
      (rest : ColorsChars colored plain) : ColorsChars (char :: colored) (char :: plain)
  | sequence {sequence : String} {colored plain : List Char}
      (isSequence : sequence ∈ Palette.ansi.sequences)
      (rest : ColorsChars colored plain) : ColorsChars (sequence.toList ++ colored) plain

namespace ColorsChars

variable {colored plain otherColored otherPlain : List Char}

theorem append (first : ColorsChars colored plain)
    (second : ColorsChars otherColored otherPlain) :
    ColorsChars (colored ++ otherColored) (plain ++ otherPlain) := by
  induction first with
  | nil => exact second
  | char other rest ih => exact .char other ih
  | sequence isSequence rest ih => exact List.append_assoc _ _ _ ▸ .sequence isSequence ih

theorem of_not_mem {text : List Char} (free : '\x1b' ∉ text) : ColorsChars text text := by
  induction text with
  | nil => exact .nil
  | cons char text ih =>
      rw [List.mem_cons, not_or] at free
      exact .char (Ne.symm free.1) (ih free.2)

theorem not_mem_plain (colors : ColorsChars colored plain) : '\x1b' ∉ plain := by
  induction colors with
  | nil => exact List.not_mem_nil
  | char other rest ih => exact List.not_mem_cons_of_ne_of_not_mem (Ne.symm other) ih
  | sequence isSequence rest ih => exact ih

/-- No sequence stands at a character that does not start one. -/
theorem find?_sequences_eq_none {char : Char} (other : char ≠ '\x1b') (rest : List Char) :
    (Palette.ansi.sequences.map String.toList).find? (·.isPrefixOf (char :: rest)) =
      none := by
  simp [Palette.sequences, Palette.ansi, List.isPrefixOf, Ne.symm other]

/-- Where a sequence stands, this very sequence is found. -/
theorem deleteSequences_sequence {sequence : String}
    (isSequence : sequence ∈ Palette.ansi.sequences) (rest : List Char) :
    deleteSequences (Palette.ansi.sequences.map String.toList) 0
      (sequence.toList ++ rest) =
      deleteSequences (Palette.ansi.sequences.map String.toList) 0 rest := by
  -- No sequence is the start of another one, so that the search does not depend on what
  -- follows.
  simp only [Palette.sequences, List.mem_cons, List.not_mem_nil, or_false] at isSequence
  rcases isSequence with rfl | rfl | rfl | rfl | rfl | rfl <;> rfl

/-- Deleting the sequences of a coloured text leaves the plain text. -/
theorem deleteSequences_eq (colors : ColorsChars colored plain) :
    deleteSequences (Palette.ansi.sequences.map String.toList) 0 colored = plain := by
  induction colors with
  | nil => rfl
  | char other rest ih => rw [deleteSequences, find?_sequences_eq_none other, ih]
  | sequence isSequence rest ih => rw [deleteSequences_sequence isSequence, ih]

end ColorsChars

/-- The first text is the second one with escape sequences put in, and the second one is
free of escapes. -/
def Colors (colored plain : String) : Prop :=
  ColorsChars colored.toList plain.toList

namespace Colors

variable {colored plain otherColored otherPlain text : String}
  {coloredTexts plainTexts : List String}

theorem append (first : Colors colored plain) (second : Colors otherColored otherPlain) :
    Colors (colored ++ otherColored) (plain ++ otherPlain) := by
  rw [Colors, String.toList_append, String.toList_append]
  exact ColorsChars.append first second

theorem free (isFree : Text.IsEscapeFree text) : Colors text text :=
  .of_not_mem isFree

theorem sequence {sequence : String} (isSequence : sequence ∈ Palette.ansi.sequences) :
    Colors sequence "" := by
  rw [Colors, ← List.append_nil sequence.toList]
  exact .sequence isSequence .nil

theorem join (areColors : List.Forall₂ Colors coloredTexts plainTexts) :
    Colors (String.join coloredTexts) (String.join plainTexts) := by
  induction areColors with
  | nil => exact .nil
  | cons first _ ih =>
      rw [Colors, String.toList_join, String.toList_join] at ih ⊢
      exact ColorsChars.append first ih

theorem join_map {α : Type} {colored plain : α → String} {items : List α}
    (each : ∀ item ∈ items, Colors (colored item) (plain item)) :
    Colors (String.join (items.map colored)) (String.join (items.map plain)) := by
  refine join (List.forall₂_map_left_iff.mpr (List.forall₂_map_right_iff.mpr ?_))
  exact List.forall₂_same.mpr each

theorem join_mapIdx {α : Type} {colored plain : Nat → α → String} {items : List α}
    (each : ∀ index, ∀ item ∈ items, Colors (colored index item) (plain index item)) :
    Colors (String.join (items.mapIdx colored)) (String.join (items.mapIdx plain)) := by
  rw [List.mapIdx_eq_zipIdx_map, List.mapIdx_eq_zipIdx_map]
  exact join_map fun ⟨item, index⟩ member =>
    each index item (List.fst_mem_of_mem_zipIdx member)

/-- Deleting the escape sequences gives back the plain text. -/
theorem withoutColors_eq (colors : Colors colored plain) :
    withoutColors colored = plain := by
  rw [withoutColors, ColorsChars.deleteSequences_eq colors, String.ofList_toList]

theorem isEscapeFree (colors : Colors colored plain) : Text.IsEscapeFree plain :=
  ColorsChars.not_mem_plain colors

/-! ### Fragments of reports -/

theorem dim : Colors Palette.ansi.dim Palette.plain.dim :=
  sequence (by decide)

theorem green : Colors Palette.ansi.green Palette.plain.green :=
  sequence (by decide)

theorem reset : Colors Palette.ansi.reset Palette.plain.reset :=
  sequence (by decide)

theorem dimmed (isFree : Text.IsEscapeFree text) :
    Colors (Palette.ansi.dimmed text) (Palette.plain.dimmed text) :=
  (dim.append (free isFree)).append reset

theorem forClass (name : String) :
    Colors (Palette.ansi.forClass name) (Palette.plain.forClass name) := by
  have plain_eq : Palette.plain.forClass name = "" := by
    rw [Palette.forClass]
    split <;> rfl
  rw [plain_eq]
  rcases Palette.ansi.forClass_cases name with isSequence | isEmpty
  · exact sequence isSequence
  · rw [isEmpty]
    exact .nil

theorem classLabel (isFree : Text.IsEscapeFree text) :
    Colors (Palette.ansi.classLabel text) (Palette.plain.classLabel text) := by
  rw [Palette.classLabel, Palette.classLabel]
  split
  · exact dimmed (by decide)
  · exact ((forClass text).append (free isFree)).append reset

end Colors

end LineLexer
