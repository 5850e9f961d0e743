import LineLexer.Pattern.Waypoints
import LineLexer.Proofs.Pattern.Bounds

/-!
# The characters that matches begin with

A match that consumes something begins with one of certain characters, and these can be
read off the pattern.  A text that begins with any other character is passed over by the
rule of the pattern, whatever follows.
-/

namespace LineLexer.Pattern

/-- A set that has every character with which a match of some text can begin. -/
def firstChars : Pattern → CharSet
  | empty => .nothing
  | waypoint _ => .nothing
  | one set => set
  | assert _ => .nothing
  | seq first second =>
      if first.canBeEmpty then .union first.firstChars second.firstChars
      else first.firstChars
  | alt first second => .union first.firstChars second.firstChars
  | repetition body _ _ _ => body.firstChars

/-- The cursor stands at the start of a text that begins with the given character. -/
def Cursor.StandsBefore (char : Char) (cursor : Cursor) : Prop :=
  cursor.position = 0 ∧ cursor.rest.head? = some char

/-- A move that leads nowhere from cursors with a property. -/
def Stops (property : Cursor → Prop) (move : List Cursor → List Cursor) : Prop :=
  ∀ cursors, (∀ cursor ∈ cursors, property cursor) → move cursors = []

theorem Stops.keeps {property : Cursor → Prop} {move : List Cursor → List Cursor}
    (stops : Stops property move) : Keeps property move := by
  intro cursors holds next member
  rw [stops cursors holds] at member
  exact absurd member List.not_mem_nil

section Repetitions

variable {property : Cursor → Prop} {body : List Cursor → List Cursor}

theorem rounds_nil (count : Nat) : rounds body count [] = [] := by
  cases count <;> rfl

theorem Stops.rounds_succ (stops : Stops property body) (count : Nat) :
    Stops property (rounds body (count + 1)) := by
  intro cursors holds
  cases cursors with
  | nil => rfl
  | cons cursor cursors =>
      change rounds body count (body (cursor :: cursors)) = []
      rw [stops _ holds, rounds_nil]

theorem atMost_nil (greedy : Bool) (most : Nat) : atMost body greedy most [] = [] := by
  match most with
  | 0 => rfl
  | 1 => rfl
  | _ + 2 => rfl

theorem Stops.foldl_firstRound (stops : Stops property body) (greedy : Bool)
    (found : Places) (cursors : List Cursor)
    (holds : ∀ cursor ∈ cursors, property cursor) :
    cursors.foldl (firstRound body greedy) found = found := by
  induction cursors with
  | nil => rfl
  | cons cursor cursors ih =>
      have nowhere : body [cursor] = [] := stops [cursor] (by simpa using holds cursor)
      rw [List.foldl_cons, firstRound, nowhere, List.foldl_nil]
      exact ih fun other member => holds other (List.mem_cons_of_mem cursor member)

/-- A repetition that needs a round leads nowhere if its rounds do. -/
theorem Stops.repeated (stops : Stops property body) (greedy : Bool) {least : Nat}
    (needed : least ≠ 0) (most : Option Nat) :
    Stops property (repeated body greedy least most) := by
  obtain ⟨least, rfl⟩ := Nat.exists_eq_succ_of_ne_zero needed
  intro cursors holds
  cases most with
  | some most => rw [Pattern.repeated, stops.rounds_succ least cursors holds, atMost_nil]
  | none =>
      cases least with
      | zero =>
          change (cursors.foldl (firstRound body greedy) .empty).toList = []
          rw [stops.foldl_firstRound greedy .empty cursors holds]
          rfl
      | succ least =>
          change ((rounds body (least + 1) cursors).foldl
            (firstRound body greedy) .empty).toList = []
          rw [stops.rounds_succ least cursors holds]
          rfl

end Repetitions

/-- Before a character with which no match begins a pattern stays where it is, and if it
has to consume something it leads nowhere. -/
theorem keeps_and_stops_of_not_mem_firstChars {pattern : Pattern} {char : Char}
    (notFirst : pattern.firstChars.mem char = false) :
    Keeps (Cursor.StandsBefore char) pattern.ends ∧
      (pattern.canBeEmpty = false → Stops (Cursor.StandsBefore char) pattern.ends) := by
  induction pattern with
  | empty => exact ⟨fun cursors holds => holds,
      fun consumes => by simp [canBeEmpty] at consumes⟩
  | waypoint label =>
      refine ⟨fun cursors holds next member => ?_,
        fun consumes => by simp [canBeEmpty] at consumes⟩
      obtain ⟨cursor, isStart, member⟩ := List.mem_flatMap.mp member
      unfold Cursor.pass at member
      split at member
      · simp at member
      · obtain rfl := List.mem_singleton.mp member
        exact holds cursor isStart
  | one set =>
      have stops : Stops (Cursor.StandsBefore char) (one set).ends := by
        intro cursors holds
        refine List.flatMap_eq_nil_iff.mpr fun cursor isStart => ?_
        obtain ⟨-, isNext⟩ := holds cursor isStart
        obtain ⟨rest, rest_eq⟩ := List.head?_eq_some_iff.mp isNext
        rw [Cursor.advance, rest_eq]
        exact if_neg (Bool.not_eq_true _ ▸ notFirst)
      exact ⟨stops.keeps, fun _ => stops⟩
  | assert assertion =>
      refine ⟨fun cursors holds next member => ?_,
        fun consumes => by simp [canBeEmpty] at consumes⟩
      exact holds next (List.mem_filter.mp member).1
  | seq first second firstIH secondIH =>
      cases isEmpty : first.canBeEmpty with
      | true =>
          rw [firstChars, if_pos isEmpty, CharSet.mem, Bool.or_eq_false_iff] at notFirst
          obtain ⟨firstKeeps, -⟩ := firstIH notFirst.1
          obtain ⟨secondKeeps, secondStops⟩ := secondIH notFirst.2
          refine ⟨fun cursors holds => secondKeeps _ (firstKeeps _ holds), ?_⟩
          intro consumes cursors holds
          rw [canBeEmpty, isEmpty, Bool.true_and] at consumes
          exact secondStops consumes _ (firstKeeps _ holds)
      | false =>
          rw [firstChars, isEmpty] at notFirst
          obtain ⟨-, firstStops⟩ := firstIH notFirst
          have stops : Stops (Cursor.StandsBefore char) (seq first second).ends := by
            intro cursors holds
            rw [ends, firstStops isEmpty cursors holds, ends_nil]
          exact ⟨stops.keeps, fun _ => stops⟩
  | alt first second firstIH secondIH =>
      rw [firstChars, CharSet.mem, Bool.or_eq_false_iff] at notFirst
      obtain ⟨firstKeeps, firstStops⟩ := firstIH notFirst.1
      obtain ⟨secondKeeps, secondStops⟩ := secondIH notFirst.2
      constructor
      · intro cursors holds
        refine keeps_distinct _ fun next member => ?_
        obtain ⟨cursor, isStart, member⟩ := List.mem_flatMap.mp member
        rcases List.mem_append.mp member with member | member
        · exact firstKeeps.single (holds cursor isStart) next member
        · exact secondKeeps.single (holds cursor isStart) next member
      · intro consumes cursors holds
        rw [canBeEmpty, Bool.or_eq_false_iff] at consumes
        have nowhere :
            (cursors.flatMap fun cursor => first.ends [cursor] ++ second.ends [cursor]) =
            [] := by
          refine List.flatMap_eq_nil_iff.mpr fun cursor isStart => ?_
          have single : ∀ other ∈ [cursor], other.StandsBefore char := by
            simpa using holds cursor isStart
          rw [firstStops consumes.1 _ single, secondStops consumes.2 _ single,
            List.append_nil]
        rw [ends, nowhere]
        rfl
  | repetition body least most greedy ih =>
      obtain ⟨keeps, stops⟩ := ih notFirst
      refine ⟨fun cursors holds => ?_, fun consumes cursors holds => ?_⟩
      · rw [ends]
        exact keeps.repeated greedy least most cursors holds
      · rw [canBeEmpty, Bool.or_eq_false_iff] at consumes
        rw [ends]
        exact (stops consumes.2).repeated greedy
          (by simpa using consumes.1) most cursors holds

/-- Of a text that begins with no first character of a pattern, the pattern matches
nothing. -/
theorem matchLength?_of_not_mem_firstChars {pattern : Pattern} {char : Char}
    {rest : List Char} {count : Nat} (notFirst : pattern.firstChars.mem char = false)
    (matched : pattern.matchLength? (char :: rest) = some count) : count = 0 := by
  obtain ⟨cursor, isFirst, rfl⟩ := Option.map_eq_some_iff.mp matched
  have atStart : ∀ cursor ∈ [Cursor.start (char :: rest)], cursor.StandsBefore char := by
    simp [Cursor.StandsBefore, Cursor.start]
  exact ((keeps_and_stops_of_not_mem_firstChars notFirst).1 _ atStart cursor
    (List.mem_of_head? isFirst)).1

end LineLexer.Pattern
