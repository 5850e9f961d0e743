/-!
# Byte offsets

Offsets into a line count the bytes of its UTF-8 form, while the line itself is read
character by character.  This file relates the two: the number of bytes of a list of
characters, and the part of it between two byte offsets.
-/

namespace LineLexer.Text

/-- The number of bytes of the UTF-8 form of some characters. -/
def byteLength : List Char → Nat
  | [] => 0
  | char :: rest => char.utf8Size + byteLength rest

@[simp]
theorem byteLength_append (front back : List Char) :
    byteLength (front ++ back) = byteLength front + byteLength back := by
  induction front with
  | nil => simp [byteLength]
  | cons char rest ih => simp [byteLength, ih, Nat.add_assoc]

/-- The characters left after the first `count` bytes. -/
def dropBytes (count : Nat) : List Char → List Char
  | [] => []
  | char :: rest =>
      if count = 0 then char :: rest else dropBytes (count - char.utf8Size) rest

/-- The characters that fill the first `count` bytes. -/
def takeBytes (count : Nat) : List Char → List Char
  | [] => []
  | char :: rest =>
      if count = 0 then [] else char :: takeBytes (count - char.utf8Size) rest

/-- The part of `line` from the byte offset `start` up to the byte offset `stop`. -/
def slice (line : String) (start stop : Nat) : String :=
  String.ofList (takeBytes (stop - start) (dropBytes start line.toList))

/-- The part of `line` from the byte offset `start` to its end. -/
def sliceFrom (line : String) (start : Nat) : String :=
  String.ofList (dropBytes start line.toList)

theorem utf8ByteSize_ofList (chars : List Char) :
    (String.ofList chars).utf8ByteSize = byteLength chars := by
  induction chars with
  | nil => simp [byteLength]
  | cons char rest ih =>
      rw [byteLength, ← ih, ← String.utf8ByteSize_singleton, ← String.utf8ByteSize_append,
        String.singleton_eq_ofList, ← String.ofList_append, List.singleton_append]

theorem byteLength_toList (line : String) :
    byteLength line.toList = line.utf8ByteSize := by
  rw [← utf8ByteSize_ofList, String.ofList_toList]

/-- Some characters have bytes exactly if there are any. -/
theorem byteLength_pos {chars : List Char} (nonempty : chars ≠ []) :
    0 < byteLength chars := by
  cases chars with
  | nil => exact absurd rfl nonempty
  | cons char rest =>
      have positive := char.utf8Size_pos
      simp only [byteLength]
      omega

theorem dropBytes_byteLength_append (front back : List Char) :
    dropBytes (byteLength front) (front ++ back) = back := by
  induction front with
  | nil => cases back <;> simp [byteLength, dropBytes]
  | cons char rest ih =>
      have positive := char.utf8Size_pos
      simp only [byteLength, List.cons_append, dropBytes]
      rw [if_neg (by omega), Nat.add_sub_cancel_left, ih]

theorem takeBytes_byteLength_append (front back : List Char) :
    takeBytes (byteLength front) (front ++ back) = front := by
  induction front with
  | nil => cases back <;> simp [byteLength, takeBytes]
  | cons char rest ih =>
      have positive := char.utf8Size_pos
      simp only [byteLength, List.cons_append, takeBytes]
      rw [if_neg (by omega), Nat.add_sub_cancel_left, ih]

/-- The characters that stand after some others are the slice between the byte offsets on
their two sides. -/
theorem slice_eq_of_toList_eq {line : String} {front middle back : List Char}
    (parts : line.toList = front ++ (middle ++ back)) :
    slice line (byteLength front) (byteLength front + byteLength middle) =
      String.ofList middle := by
  rw [slice, parts, dropBytes_byteLength_append, Nat.add_sub_cancel_left,
    takeBytes_byteLength_append]

theorem sliceFrom_eq_of_toList_eq {line : String} {front back : List Char}
    (parts : line.toList = front ++ back) :
    sliceFrom line (byteLength front) = String.ofList back := by
  rw [sliceFrom, parts, dropBytes_byteLength_append]

/-- The byte offset after some characters at the start of a line lies between two
characters. -/
theorem isValid_of_toList_eq {line : String} {front back : List Char}
    (parts : line.toList = front ++ back) :
    (String.Pos.Raw.mk (byteLength front)).IsValid line := by
  rw [String.Pos.Raw.isValid_iff_exists_append]
  refine ⟨String.ofList front, String.ofList back, ?_, ?_⟩
  · rw [← String.ofList_append, ← parts, String.ofList_toList]
  · rw [← utf8ByteSize_ofList]
    rfl

end LineLexer.Text
