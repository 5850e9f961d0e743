import LineLexer.Text.Blank
import LineLexer.Text.CaseFolding
import LineLexer.Text.DecimalDigit
import LineLexer.Text.LowerCase
import LineLexer.Text.Utf8
import LineLexer.Text.WordChar
import Mathlib.Data.List.Basic

/-!
# Texts that differ in case

Two texts are the same up to case if they agree once the capital letters of ASCII have
been replaced by small ones.  Such texts have equally many characters and bytes, also in
each of their parts, and the same lower case.  What a function of characters says of a
letter and of its small form needs to be compared for the capital letters only, since
every other character is its own small form.
-/

namespace LineLexer.Text

def capitals : List Char :=
  (List.range 26).map fun position => Char.ofNat ('A'.toNat + position)

theorem mem_capitals_iff {char : Char} :
    char ∈ capitals ↔ 0x41 ≤ char.toNat ∧ char.toNat ≤ 0x5a := by
  rw [capitals, List.mem_map]
  constructor
  · rintro ⟨position, inside, rfl⟩
    revert position
    decide
  · rintro ⟨least, most⟩
    refine ⟨char.toNat - 0x41, List.mem_range.mpr (by omega), ?_⟩
    exact (congrArg Char.ofNat (Nat.add_sub_cancel' least)).trans (Char.ofNat_toNat char)

/-- Functions that agree on the list of the capital letters agree on each of them. -/
theorem apply_of_mem_capitals {α : Type} {f g : Char → α}
    (agree : capitals.map f = capitals.map g) {char : Char}
    (isCapital : char ∈ capitals) : f char = g char :=
  List.map_inj_left.mp agree char isCapital

theorem toNat_toLower {char : Char} (isCapital : char ∈ capitals) :
    char.toLower.toNat = char.toNat + 0x20 :=
  apply_of_mem_capitals (f := fun char => char.toLower.toNat)
    (g := fun char => char.toNat + 0x20) (by decide) isCapital

theorem toLower_eq_self {char : Char} (isOther : char ∉ capitals) : char.toLower = char :=
  dif_neg fun bounds => isOther (mem_capitals_iff.mpr bounds)

/-- What holds of every capital letter and its small form holds of every character and its
small form. -/
theorem apply_toLower {α : Type} {f : Char → α}
    (onCapitals : (capitals.map fun char => f char.toLower) = capitals.map f)
    (char : Char) : f char.toLower = f char := by
  by_cases isCapital : char ∈ capitals
  · exact apply_of_mem_capitals onCapitals isCapital
  · rw [toLower_eq_self isCapital]

/-- Ranges that lie around the letters of ASCII do not see their case. -/
theorem contains_toLower {ranges : CharRanges}
    (apart : ∀ range ∈ ranges,
      range.2 < 0x41 ∨ 0x5a < range.1 ∧ range.2 < 0x61 ∨ 0x7a < range.1) (char : Char) :
    ranges.contains char.toLower = ranges.contains char := by
  have not_contains {char : Char} (isLetter : 0x41 ≤ char.toNat ∧ char.toNat ≤ 0x5a ∨
      0x61 ≤ char.toNat ∧ char.toNat ≤ 0x7a) : ranges.contains char = false := by
    refine List.any_eq_false.mpr fun range member => ?_
    have isApart := apart range member
    simp only [Bool.and_eq_true, decide_eq_true_eq]
    omega
  by_cases isCapital : char ∈ capitals
  · have bounds := mem_capitals_iff.mp isCapital
    have small_eq := toNat_toLower isCapital
    rw [not_contains (by omega), not_contains (by omega)]
  · rw [toLower_eq_self isCapital]

theorem utf8Size_toLower (char : Char) : char.toLower.utf8Size = char.utf8Size :=
  apply_toLower (by decide) char

/-- The two texts differ in the case of ASCII letters at most. -/
def SameUpToCase (first second : List Char) : Prop :=
  first.map Char.toLower = second.map Char.toLower

instance (first second : List Char) : Decidable (SameUpToCase first second) :=
  inferInstanceAs (Decidable (first.map Char.toLower = second.map Char.toLower))

theorem byteLength_map_toLower (text : List Char) :
    byteLength (text.map Char.toLower) = byteLength text := by
  induction text with
  | nil => rfl
  | cons char rest ih => rw [List.map_cons, byteLength, byteLength, utf8Size_toLower, ih]

namespace SameUpToCase

variable {first second : List Char}

theorem length_eq (same : SameUpToCase first second) : first.length = second.length := by
  simpa using congrArg List.length same

theorem byteLength_eq (same : SameUpToCase first second) :
    byteLength first = byteLength second := by
  rw [← byteLength_map_toLower, same, byteLength_map_toLower]

theorem take (same : SameUpToCase first second) (count : Nat) :
    SameUpToCase (first.take count) (second.take count) := by
  rw [SameUpToCase, List.map_take, same, List.map_take]

theorem drop (same : SameUpToCase first second) (count : Nat) :
    SameUpToCase (first.drop count) (second.drop count) := by
  rw [SameUpToCase, List.map_drop, same, List.map_drop]

theorem eq_nil_iff (same : SameUpToCase first second) : first = [] ↔ second = [] := by
  rw [← List.length_eq_zero_iff, same.length_eq, List.length_eq_zero_iff]

end SameUpToCase

theorem startsCased_map_toLower (chars : List Char) :
    startsCased (chars.map Char.toLower) = startsCased chars := by
  have ignorable_toLower (char : Char) :
      caseIgnorableRanges.contains char.toLower = caseIgnorableRanges.contains char :=
    contains_toLower (by decide +kernel) char
  have cased_toLower (char : Char) :
      casedRanges.contains char.toLower = casedRanges.contains char :=
    apply_toLower (by decide +kernel) char
  rw [startsCased, startsCased, List.dropWhile_map, Function.comp_def,
    funext ignorable_toLower]
  cases chars.dropWhile caseIgnorableRanges.contains with
  | nil => rfl
  | cons char rest => exact cased_toLower char

theorem lowerCharBetween_toLower (before : List Char) (char : Char) (after : List Char) :
    lowerCharBetween (before.map Char.toLower) char.toLower (after.map Char.toLower) =
      lowerCharBetween before char after := by
  have isSigma_toLower : decide (char.toLower = 'Σ') = decide (char = 'Σ') :=
    apply_toLower (f := fun char => decide (char = 'Σ')) (by decide) char
  have isDotted_toLower : decide (char.toLower = 'İ') = decide (char = 'İ') :=
    apply_toLower (f := fun char => decide (char = 'İ')) (by decide) char
  have lower_toLower : mapCase lowerRuns char.toLower = mapCase lowerRuns char :=
    apply_toLower (by decide +kernel) char
  rw [lowerCharBetween, startsCased_map_toLower, startsCased_map_toLower, lower_toLower,
    if_congr (decide_eq_decide.mp isSigma_toLower) rfl rfl,
    if_congr (decide_eq_decide.mp isDotted_toLower) rfl rfl, lowerCharBetween]

theorem lowerCharsAfter_map_toLower (before chars : List Char) :
    lowerCharsAfter (before.map Char.toLower) (chars.map Char.toLower) =
      lowerCharsAfter before chars := by
  induction chars generalizing before with
  | nil => rfl
  | cons char after ih =>
      rw [List.map_cons, lowerCharsAfter, lowerCharBetween_toLower, ← List.map_cons, ih,
        lowerCharsAfter]

/-- Texts that are the same up to case have the same lower case. -/
theorem SameUpToCase.lowerCase_eq {first second : List Char}
    (same : SameUpToCase first second) :
    lowerCase (String.ofList first) = lowerCase (String.ofList second) := by
  have lowered (text : List Char) :
      lowerCharsAfter [] (text.map Char.toLower) = lowerCharsAfter [] text :=
    lowerCharsAfter_map_toLower [] text
  rw [lowerCase, lowerCase, String.toList_ofList, String.toList_ofList, ← lowered,
    same, lowered]

end LineLexer.Text
