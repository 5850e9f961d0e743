import LineLexer.Pattern.Waypoints

/-!
# The size of patterns

A pattern stands for an automaton over the bytes of a text, and patterns are limited by
the memory that this automaton takes.  The automaton itself is never built; what it takes
follows from the shape of the pattern, with every counted repetition written out.

A state takes 32 bytes, an edge of a branch takes 4 more, and an edge that is labelled
with a range of bytes takes 8 more unless it is the only one of its state.  A set that
goes beyond ASCII is a branch between sequences of byte ranges; sequences that start with
the same ranges share the states for these.
-/

namespace LineLexer.Pattern

namespace CharSet

/-- The code points where the number of bytes of a character changes, or characters
end. -/
def lengthChanges : List Nat :=
  [0, 0x80, 0x800, 0xd800, 0xe000, 0x10000, 0x110000]

/-- Code points between which the members of a range set do not change. -/
def rangeChanges (ranges : Text.CharRanges) : List Nat :=
  ranges.flatMap fun range => [range.1, range.2 + 1]

/-- Code points between which membership in a set does not change. -/
def changes : CharSet → List Nat
  | nothing => []
  | range first last => [first.toNat, last.toNat + 1]
  | blank => rangeChanges Text.blankRanges
  | decimalDigit => rangeChanges Text.decimalDigitRanges
  | wordChar => rangeChanges Text.wordCharRanges
  | union left right => left.changes ++ right.changes
  | inter left right => left.changes ++ right.changes
  | compl set => set.changes
  | anyCase set =>
      set.changes ++ Text.foldRuns.flatMap fun run =>
        (List.range (run.last - run.first + 2)).flatMap fun offset =>
          [run.first + offset, run.target + offset]
  | asciiAnyCase set => set.changes ++ List.range 0x81

/-- Whether a code point is that of a member. -/
def hasCode (set : CharSet) (code : Nat) : Bool :=
  code.isValidChar && set.mem (Char.ofNat code)

/-- Joins neighbouring ranges, each given by its first code point and the one after its
last, unless the number of bytes changes between them. -/
def joinRanges : List (Nat × Nat) → List (Nat × Nat)
  | [] => []
  | (first, stop) :: ranges =>
      match joinRanges ranges with
      | [] => [(first, stop)]
      | (nextFirst, nextStop) :: joined =>
          if stop = nextFirst && !lengthChanges.contains stop then
            (first, nextStop) :: joined
          else (first, stop) :: (nextFirst, nextStop) :: joined

/-- The maximal ranges of members with one number of bytes, each given by its first code
point and the one after its last. -/
def memberRanges (set : CharSet) : List (Nat × Nat) :=
  let changes := (lengthChanges ++ set.changes).mergeSort
  joinRanges ((changes.zip changes.tail).filter fun range =>
    range.1 < range.2 && set.hasCode range.1)

end CharSet

/-- The sequences of byte ranges for the values from `first` to `last`, written with
`tail` continuation bytes after a leading byte that is marked with `mark`. -/
def byteSequences : (tail mark first last : Nat) → List (List (Nat × Nat))
  | 0, mark, first, last => [[(mark + first, mark + last)]]
  | tail + 1, mark, first, last =>
      let block := 64 ^ (tail + 1)
      let within := fun lead first last =>
        (byteSequences tail 0x80 first last).map ((mark + lead, mark + lead) :: ·)
      let low := first / block
      let high := last / block
      if low = high then within low (first % block) (last % block)
      else
        let fullLow := if first % block = 0 then low else low + 1
        let fullStop := if last % block = block - 1 then high + 1 else high
        (if fullLow = low then [] else within low (first % block) (block - 1)) ++
          (if fullLow < fullStop then
            [(mark + fullLow, mark + fullStop - 1) ::
              List.replicate (tail + 1) (0x80, 0xbf)]
          else []) ++
          (if fullStop = high then within high 0 (last % block) else [])

/-- The sequences of byte ranges for a range of characters that have one number of
bytes. -/
def rangeSequences (range : Nat × Nat) : List (List (Nat × Nat)) :=
  let (tail, mark) :=
    if range.1 < 0x80 then (0, 0)
    else if range.1 < 0x800 then (1, 0xc0)
    else if range.1 < 0x10000 then (2, 0xe0)
    else (3, 0xf0)
  byteSequences tail mark range.1 (range.2 - 1)

/-- The number of entries of a list before which it differs from another list. -/
def freshLength [BEq α] : List α → List α → Nat
  | entry :: entries, other :: others =>
      if entry == other then freshLength entries others else entries.length + 1
  | entries, _ => entries.length

/-- The number of different beginnings of the sequences of a list in which sequences with
a common beginning stand together. -/
def beginnings [BEq α] (before : List α) : List (List α) → Nat
  | [] => 0
  | sequence :: sequences => freshLength sequence before + beginnings sequence sequences

/-- The number of bytes that a set takes. -/
def CharSet.size (set : CharSet) : Nat :=
  match set.memberRanges with
  | [] => 32
  | [(first, stop)] =>
      if stop = first + 1 then 32 * (Char.ofNat first).utf8Size
      else if stop ≤ 0x80 then 72
      else sequencesSize (rangeSequences (first, stop))
  | ranges =>
      if ranges.all (·.2 ≤ 0x80) then 64 + 8 * ranges.length
      else sequencesSize (ranges.flatMap rangeSequences)
where
  /-- The number of bytes that a branch between sequences takes. -/
  sequencesSize (sequences : List (List (Nat × Nat))) : Nat :=
    64 + 4 * sequences.length + 32 * beginnings [] sequences

/-- The set that a pattern stands for, if it is a set or a choice between sets. -/
def asSet? : Pattern → Option CharSet
  | one set => some set
  | alt first second => do return (← first.asSet?).union (← second.asSet?)
  | empty => none
  | waypoint _ => none
  | assert _ => none
  | seq _ _ => none
  | repetition _ _ _ _ => none

/-- The number of bytes that a repetition takes when its body takes `size`. -/
def repetitionSize (size : Nat) (canBeEmpty : Bool) :
    (least : Nat) → (most : Option Nat) → Nat
  | 0, some 0 => 0
  | 0, some 1 => size + 72
  | 0, some most => 64 + most * (size + 40)
  | least + 1, some most =>
      (least + 1) * size +
        if most ≤ least + 1 then 0 else 32 + (most - (least + 1)) * (size + 40)
  | 0, none => size + if canBeEmpty then 112 else 40
  | least + 1, none => (least + 1) * size + 40

/-- The number of bytes that a pattern takes, where `setSize` tells it for sets. -/
def sizeWith (setSize : CharSet → Nat) : Pattern → Nat
  | empty => 32
  | waypoint _ => 0
  | one set => setSize set
  | assert _ => 32
  | seq first second => sizeWith setSize first + sizeWith setSize second
  | alt first second =>
      match (alt first second).asSet? with
      | some set => setSize set
      | none =>
          sizeWith setSize first + sizeWith setSize second +
            match second with
            | alt _ _ => 4
            | _ => 72
  | repetition body least most _ =>
      repetitionSize (sizeWith setSize body) body.canBeEmpty least most

/-- The number of bytes that a pattern may take. -/
def sizeLimit : Nat := 10485760

/-- Whether the automaton of a pattern fits into the limit.  Every capturing group of the
written text takes two states, and searching takes some bytes for itself.  The sets are
looked at only where the pattern could be too large. -/
def fits (pattern : Pattern) (groups : Nat) : Bool :=
  let rest := 208 + 64 * groups
  decide (rest + pattern.sizeWith (fun _ => 65536) ≤ sizeLimit) ||
    decide (rest + pattern.sizeWith CharSet.size ≤ sizeLimit)

end LineLexer.Pattern
