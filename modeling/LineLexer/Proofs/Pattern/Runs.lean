import LineLexer.Proofs.Pattern.Bounds
import Mathlib.Data.List.TakeWhile

/-!
# Literal texts and runs

Two kinds of patterns can be understood without listing the places where they end.  A
pattern that spells a text matches this text and nothing else, and a greedy loop over one
set of characters prefers the end of the longest run of them.  For the loop only the place
that is found first matters: whatever is found later is listed after it.
-/

namespace LineLexer.Pattern

/-- What a pattern that follows sees of a cursor, but for what lies before it. -/
def Cursor.place (cursor : Cursor) : Nat × List Char :=
  (cursor.position, cursor.rest)

theorem matchLength?_eq (pattern : Pattern) (text : List Char) :
    pattern.matchLength? text =
      ((pattern.ends [.start text]).head?.map Cursor.place).map Prod.fst := by
  rw [matchLength?, Option.map_map]
  rfl

theorem ends_seq (first second : Pattern) (cursors : List Cursor) :
    (seq first second).ends cursors = second.ends (first.ends cursors) := by
  rw [ends]

/-! ### Literal texts -/

/-- The pattern that spells a text. -/
def literal (chars : List Char) : Pattern :=
  sequence (chars.map fun char => one (.single char))

theorem advance_of_mem {set : CharSet} {cursor : Cursor} {char : Char} {rest : List Char}
    (rest_eq : cursor.rest = char :: rest) (member : set.mem char = true) :
    cursor.advance set = [⟨cursor.position + 1, some char, rest, []⟩] := by
  rw [Cursor.advance, rest_eq]
  exact if_pos member

theorem advance_of_not_mem {set : CharSet} {cursor : Cursor} {char : Char}
    {rest : List Char} (rest_eq : cursor.rest = char :: rest)
    (absent : set.mem char = false) : cursor.advance set = [] := by
  rw [Cursor.advance, rest_eq]
  exact if_neg (Bool.not_eq_true _ ▸ absent)

theorem ends_one_single (set : CharSet) (cursor : Cursor) :
    (one set).ends [cursor] = cursor.advance set := by
  rw [ends, List.flatMap_singleton]

theorem matchLength?_one (set : CharSet) (char : Char) (rest : List Char) :
    (one set).matchLength? (char :: rest) = if set.mem char then some 1 else none := by
  rw [matchLength?, ends_one_single]
  cases member : set.mem char with
  | true => rw [advance_of_mem rfl member]; rfl
  | false => rw [advance_of_not_mem rfl member]; rfl

theorem ends_sequence_cons (pattern : Pattern) (patterns : List Pattern)
    (cursors : List Cursor) :
    (sequence (pattern :: patterns)).ends cursors =
      (sequence patterns).ends (pattern.ends cursors) := by
  cases patterns <;> rfl

theorem places_ends_literal (chars : List Char) (cursor : Cursor) :
    ((literal chars).ends [cursor]).map Cursor.place =
      if chars.isPrefixOf cursor.rest then
        [(cursor.position + chars.length, cursor.rest.drop chars.length)]
      else [] := by
  induction chars generalizing cursor with
  | nil => rfl
  | cons char chars ih =>
      rw [literal, List.map_cons, ends_sequence_cons, ends_one_single, ← literal]
      cases rest_eq : cursor.rest with
      | nil =>
          rw [Cursor.advance, rest_eq]
          exact congrArg (List.map Cursor.place) (ends_nil _)
      | cons next rest =>
          rw [List.isPrefixOf_cons_cons]
          by_cases same : char = next
          · subst same
            rw [advance_of_mem rest_eq (by simp), ih, beq_self_eq_true, Bool.true_and,
              List.length_cons, List.drop_succ_cons, Nat.add_assoc, Nat.add_comm 1]
          · have absent : (CharSet.single char).mem next = false := by
              simpa using Ne.symm same
            rw [advance_of_not_mem rest_eq absent, ends_nil, beq_eq_false_iff_ne.mpr same]
            rfl

/-- A pattern that spells a text matches this text and nothing else. -/
theorem matchLength?_literal (chars text : List Char) :
    (literal chars).matchLength? text =
      if chars.isPrefixOf text then some chars.length else none := by
  rw [matchLength?_eq, ← List.head?_map, places_ends_literal]
  change ((if chars.isPrefixOf text then _ else _ : List (Nat × List Char)).head?.map
    Prod.fst) = _
  split
  · simp [Cursor.start]
  · rfl

/-! ### Runs of characters -/

/-- The place after the longest run of characters of a set. -/
def Cursor.runEnd (set : CharSet) (cursor : Cursor) : Nat × List Char :=
  (cursor.position + (cursor.rest.takeWhile set.mem).length,
    cursor.rest.dropWhile set.mem)

def Places.first? (places : Places) : Option (Nat × List Char) :=
  places.reversed.getLast?.map Cursor.place

theorem head?_toList (places : Places) :
    places.toList.head?.map Cursor.place = places.first? := by
  rw [Places.toList, List.head?_reverse, Places.first?]

/-- A place that is added is the first only if there was none before. -/
theorem Places.first?_add (places : Places) (cursor : Cursor) :
    (places.add cursor).first? = places.first?.or (some cursor.place) := by
  rw [first?, first?, reversed_add]
  split
  · rename_i present
    cases reversed_eq : places.reversed with
    | nil => simp [Cursor.isIn, reversed_eq] at present
    | cons found others => simp [List.getLast?_cons]
  · cases isLast : places.reversed.getLast? <;> simp [List.getLast?_cons, isLast]

theorem runEnd_of_mem {set : CharSet} {cursor : Cursor} {char : Char} {rest : List Char}
    (rest_eq : cursor.rest = char :: rest) (member : set.mem char = true) :
    Cursor.runEnd set ⟨cursor.position + 1, some char, rest, []⟩ = cursor.runEnd set := by
  simp only [Cursor.runEnd, rest_eq, List.takeWhile_cons, List.dropWhile_cons, member,
    ↓reduceIte, List.length_cons]
  rw [Nat.add_assoc, Nat.add_comm 1]

theorem runEnd_of_not_mem {set : CharSet} {cursor : Cursor} {char : Char}
    {rest : List Char} (rest_eq : cursor.rest = char :: rest)
    (absent : set.mem char = false) : cursor.runEnd set = cursor.place := by
  simp [Cursor.runEnd, Cursor.place, rest_eq, absent]

section Loops

variable {set : CharSet}

theorem first?_moreRounds_one {room : List Char} {found : Places} {cursor : Cursor}
    (rest_eq : cursor.rest = room) :
    (moreRounds (one set).ends true room found cursor).first? =
      found.first?.or (some (cursor.runEnd set)) := by
  induction room generalizing found cursor with
  | nil =>
      have noRun : cursor.runEnd set = cursor.place := by
        simp [Cursor.runEnd, Cursor.place, rest_eq]
      rw [moreRounds, Places.first?_add, noRun]
  | cons char room ih =>
      rw [moreRounds]
      split
      · rename_i has
        rw [Places.has_eq_isIn] at has
        cases reversed_eq : found.reversed with
        | nil => simp [Cursor.isIn, reversed_eq] at has
        | cons first others => simp [Places.first?, reversed_eq, List.getLast?_cons]
      · rw [if_pos rfl, Places.first?_add, ends_one_single]
        cases member : set.mem char with
        | false =>
            rw [advance_of_not_mem rest_eq member, List.foldl_nil,
              runEnd_of_not_mem rest_eq member]
        | true =>
            rw [advance_of_mem rest_eq member, List.foldl_cons, List.foldl_nil,
              if_neg (Nat.succ_ne_self _), ih rfl, runEnd_of_mem rest_eq member,
              Option.or_assoc]
            rfl

theorem first?_anyRounds_one {found : Places} {cursor : Cursor} :
    (anyRounds (one set).ends true found cursor).first? =
      found.first?.or (some (cursor.runEnd set)) := by
  rw [anyRounds, if_pos rfl, Places.first?_add, firstRound, ends_one_single]
  cases rest_eq : cursor.rest with
  | nil => simp [Cursor.advance, rest_eq, Cursor.runEnd, Cursor.place]
  | cons char rest =>
      cases member : set.mem char with
      | false =>
          rw [advance_of_not_mem rest_eq member, List.foldl_nil,
            runEnd_of_not_mem rest_eq member]
      | true =>
          rw [advance_of_mem rest_eq member, List.foldl_cons, List.foldl_nil,
            if_neg (Nat.succ_ne_self _), first?_moreRounds_one rfl,
            runEnd_of_mem rest_eq member, Option.or_assoc]
          rfl

theorem first?_firstRound_one {found : Places} {cursor : Cursor} {char : Char}
    {rest : List Char} (rest_eq : cursor.rest = char :: rest)
    (member : set.mem char = true) :
    (firstRound (one set).ends true found cursor).first? =
      found.first?.or (some (cursor.runEnd set)) := by
  rw [firstRound, ends_one_single, advance_of_mem rest_eq member, List.foldl_cons,
    List.foldl_nil, if_neg (Nat.succ_ne_self _), first?_moreRounds_one rfl,
    runEnd_of_mem rest_eq member]

end Loops

/-- A greedy loop that may have no round prefers, wherever it may start, the longest run
from the first of these places. -/
theorem head?_ends_anyNumber (set : CharSet) (cursors : List Cursor) :
    ((repetition (one set) 0 none true).ends cursors).head?.map Cursor.place =
      cursors.head?.map (Cursor.runEnd set) := by
  change (cursors.foldl (anyRounds (one set).ends true) .empty).toList.head?.map
    Cursor.place = _
  rw [head?_toList]
  suffices first : ∀ found : Places,
      (cursors.foldl (anyRounds (one set).ends true) found).first? =
        found.first?.or (cursors.head?.map (Cursor.runEnd set)) from first .empty
  induction cursors with
  | nil => simp
  | cons cursor cursors ih =>
      intro found
      rw [List.foldl_cons, ih, first?_anyRounds_one, Option.or_assoc]
      rfl

/-- A greedy loop of one or more rounds that starts at a place before a character of its
set prefers the longest run from there. -/
theorem head?_ends_oneOrMore {set : CharSet} {cursor : Cursor} {char : Char}
    {rest : List Char} (rest_eq : cursor.rest = char :: rest)
    (member : set.mem char = true) :
    ((repetition (one set) 1 none true).ends [cursor]).head?.map Cursor.place =
      some (cursor.runEnd set) := by
  change (firstRound (one set).ends true .empty cursor).toList.head?.map Cursor.place = _
  rw [head?_toList, first?_firstRound_one rest_eq member]
  rfl

/-- One character, a run of one or more characters and another run take all of a text if
its other characters belong to the second set and the first of them also begins the first
run. -/
theorem matchLength?_one_runs {first second third : CharSet} {char next : Char}
    {rest : List Char} (isFirst : first.mem char = true)
    (isSecond : second.mem next = true)
    (areThird : ∀ other ∈ next :: rest, third.mem other = true) :
    (seq (one first) (seq (repetition (one second) 1 none true)
      (repetition (one third) 0 none true))).matchLength? (char :: next :: rest) =
        some (rest.length + 2) := by
  let start : Cursor := ⟨1, some char, next :: rest, []⟩
  have afterFirst : (one first).ends [.start (char :: next :: rest)] = [start] := by
    rw [ends_one_single]
    exact advance_of_mem rfl isFirst
  have afterRun :
      ((repetition (one second) 1 none true).ends [start]).head?.map Cursor.place =
      some (start.runEnd second) :=
    head?_ends_oneOrMore rfl isSecond
  obtain ⟨middle, isMiddle, middle_eq⟩ := Option.map_eq_some_iff.mp afterRun
  obtain ⟨position_eq, rest_eq⟩ := Prod.mk.inj middle_eq
  have toEnd : middle.rest.takeWhile third.mem = middle.rest := by
    rw [List.takeWhile_eq_self_iff, rest_eq]
    exact fun other member => areThird other ((List.dropWhile_suffix _).subset member)
  have lengths : (start.rest.takeWhile second.mem).length + middle.rest.length =
      rest.length + 1 := by
    rw [rest_eq, ← List.length_append, List.takeWhile_append_dropWhile, List.length_cons]
  calc
    _ = (((repetition (one third) 0 none true).ends
          ((repetition (one second) 1 none true).ends [start])).head?.map
            Cursor.place).map Prod.fst := by
      rw [matchLength?_eq, ends_seq, ends_seq, afterFirst]
    _ = some (middle.position + middle.rest.length) := by
      rw [head?_ends_anyNumber, isMiddle, Option.map_some, Cursor.runEnd, toEnd,
        Option.map_some]
    _ = some (rest.length + 2) := by
      rw [position_eq, Nat.add_assoc, lengths]
      exact congrArg some (Nat.add_comm 1 _)

end LineLexer.Pattern
