import LineLexer.Pattern.Matching

/-!
# Matches lie within the text

What a pattern can reach from a cursor, it reaches by taking characters one at a time and
by passing waypoints.  So a property of cursors that both of these keep holds of every
place where the pattern can end.  For the property of lying in a given text this gives
that a match never goes past the end of the text.
-/

namespace LineLexer.Pattern

/-- A move between lists of cursors that leads from cursors with a property to such
cursors only. -/
def Keeps (property : Cursor → Prop) (move : List Cursor → List Cursor) : Prop :=
  ∀ cursors, (∀ cursor ∈ cursors, property cursor) →
    ∀ cursor ∈ move cursors, property cursor

/-- All places that have been found have a property. -/
def Places.All (property : Cursor → Prop) (places : Places) : Prop :=
  ∀ cursor ∈ places.reversed, property cursor

section Moves

variable {property : Cursor → Prop} {body : List Cursor → List Cursor}

theorem Places.all_empty : Places.empty.All property := by
  simp [Places.All, Places.empty]

theorem Places.All.add {places : Places} (all : places.All property) {cursor : Cursor}
    (holds : property cursor) : (places.add cursor).All property := by
  intro other member
  rw [Places.reversed_add] at member
  split at member
  · exact all other member
  · rcases List.mem_cons.mp member with rfl | member
    · exact holds
    · exact all other member

theorem Places.All.toList {places : Places} (all : places.All property) :
    ∀ cursor ∈ places.toList, property cursor :=
  fun cursor member => all cursor (List.mem_reverse.mp member)

/-- What every single addition keeps, a series of additions keeps. -/
theorem Places.All.foldl {places : Places} (all : places.All property)
    {cursors : List Cursor} (holds : ∀ cursor ∈ cursors, property cursor)
    {follow : Places → Cursor → Places}
    (keeps : ∀ {places cursor}, places.All property → property cursor →
      (follow places cursor).All property) :
    (cursors.foldl follow places).All property :=
  List.foldlRecOn cursors follow all
    fun _ all cursor member => keeps all (holds cursor member)

theorem keeps_distinct : Keeps property distinct := by
  intro cursors holds
  match cursors with
  | [] => simp [distinct]
  | [cursor] => simpa [distinct] using holds
  | first :: second :: cursors =>
      exact (Places.all_empty.foldl holds fun all holds => all.add holds).toList

theorem Keeps.single (keeps : Keeps property body) {cursor : Cursor}
    (holds : property cursor) : ∀ next ∈ body [cursor], property next :=
  keeps [cursor] (by simpa using holds)

theorem Keeps.rounds (keeps : Keeps property body) (count : Nat) :
    Keeps property (rounds body count) := by
  induction count with
  | zero => exact fun cursors holds => holds
  | succ count ih =>
      intro cursors holds
      cases cursors with
      | nil => simp [Pattern.rounds]
      | cons cursor cursors => exact ih _ (keeps _ holds)

theorem Keeps.moreRounds (keeps : Keeps property body) (greedy : Bool) {room : List Char}
    {found : Places} {cursor : Cursor} (all : found.All property)
    (holds : property cursor) :
    (moreRounds body greedy room found cursor).All property := by
  induction room generalizing found cursor with
  | nil => exact all.add holds
  | cons char room ih =>
      rw [Pattern.moreRounds]
      split
      · exact all
      · have follow_all : ∀ {places : Places} {next : Cursor}, places.All property →
            property next →
            (if next.position = cursor.position then places
              else Pattern.moreRounds body greedy room places next).All property := by
          intro places next placesAll nextHolds
          split
          · exact placesAll
          · exact ih placesAll nextHolds
        cases greedy with
        | true => exact (all.foldl (keeps.single holds) follow_all).add holds
        | false => exact (all.add holds).foldl (keeps.single holds) follow_all

/-- Where the first round leads only to places with the property, so do all further
ones. -/
theorem Keeps.firstRound_of_next (keeps : Keeps property body) (greedy : Bool)
    {found : Places} {cursor : Cursor} (all : found.All property)
    (holds : ∀ next ∈ body [cursor], property next) :
    (firstRound body greedy found cursor).All property := by
  refine all.foldl holds ?_
  intro places next placesAll nextHolds
  split
  · exact placesAll.add nextHolds
  · exact keeps.moreRounds greedy placesAll nextHolds

theorem Keeps.firstRound (keeps : Keeps property body) (greedy : Bool) {found : Places}
    {cursor : Cursor} (all : found.All property) (holds : property cursor) :
    (firstRound body greedy found cursor).All property :=
  keeps.firstRound_of_next greedy all (keeps.single holds)

theorem Keeps.anyRounds (keeps : Keeps property body) (greedy : Bool) {found : Places}
    {cursor : Cursor} (all : found.All property) (holds : property cursor) :
    (anyRounds body greedy found cursor).All property := by
  cases greedy with
  | true => exact (keeps.firstRound true all holds).add holds
  | false => exact keeps.firstRound false (all.add holds) holds

theorem Keeps.upToRounds (keeps : Keeps property body) (greedy : Bool) (left : Nat)
    {search : Search} {cursor : Cursor} (all : search.found.All property)
    (holds : property cursor) :
    (upToRounds body greedy left search cursor).found.All property := by
  induction left generalizing search cursor with
  | zero => exact all.add holds
  | succ left ih =>
      have follow_all : ∀ {start : Search}, start.found.All property →
          ((body [cursor]).foldl (Pattern.upToRounds body greedy left) start).found.All
            property := by
        intro start startAll
        exact List.foldlRecOn (motive := fun search => search.found.All property)
          (body [cursor]) (Pattern.upToRounds body greedy left) startAll
          fun _ searchAll next member => ih searchAll (keeps.single holds next member)
      rw [Pattern.upToRounds]
      split
      · exact all
      · cases greedy with
        | true => exact (follow_all all).add holds
        | false => exact follow_all (all.add holds)

theorem Keeps.atMost (keeps : Keeps property body) (greedy : Bool) (most : Nat) :
    Keeps property (atMost body greedy most) := by
  intro cursors holds
  match most with
  | 0 => exact holds
  | 1 =>
      refine keeps_distinct _ ?_
      intro next member
      obtain ⟨cursor, isStart, member⟩ := List.mem_flatMap.mp member
      cases greedy with
      | true =>
          rcases List.mem_append.mp member with member | member
          · exact keeps.single (holds cursor isStart) next member
          · exact List.mem_singleton.mp member ▸ holds cursor isStart
      | false =>
          rcases List.mem_cons.mp member with rfl | member
          · exact holds next isStart
          · exact keeps.single (holds cursor isStart) next member
  | most + 2 =>
      refine Places.All.toList ?_
      exact List.foldlRecOn (motive := fun search => search.found.All property) cursors
        (Pattern.upToRounds body greedy (most + 2)) Places.all_empty
        fun _ searchAll cursor member =>
          keeps.upToRounds greedy (most + 2) searchAll (holds cursor member)

theorem Keeps.repeated (keeps : Keeps property body) (greedy : Bool) (least : Nat)
    (most : Option Nat) : Keeps property (repeated body greedy least most) := by
  intro cursors holds
  match least, most with
  | least, some most => exact keeps.atMost greedy _ _ (keeps.rounds least _ holds)
  | 0, none => exact (Places.all_empty.foldl holds (keeps.anyRounds greedy)).toList
  | least + 1, none =>
      exact (Places.all_empty.foldl (keeps.rounds least _ holds)
        (keeps.firstRound greedy)).toList

end Moves

/-- A property that holds on after taking a character and after passing a waypoint holds
wherever a pattern can end. -/
theorem keeps_ends {property : Cursor → Prop}
    (advances : ∀ {cursor set}, property cursor →
      ∀ next ∈ cursor.advance set, property next)
    (passes : ∀ {cursor label}, property cursor →
      ∀ next ∈ cursor.pass label, property next)
    (pattern : Pattern) : Keeps property pattern.ends := by
  induction pattern with
  | empty => exact fun cursors holds => holds
  | waypoint label =>
      intro cursors holds next member
      obtain ⟨cursor, isStart, member⟩ := List.mem_flatMap.mp member
      exact passes (holds cursor isStart) next member
  | one set =>
      intro cursors holds next member
      obtain ⟨cursor, isStart, member⟩ := List.mem_flatMap.mp member
      exact advances (holds cursor isStart) next member
  | assert assertion =>
      intro cursors holds next member
      exact holds next (List.mem_filter.mp member).1
  | seq first second firstKeeps secondKeeps =>
      exact fun cursors holds => secondKeeps _ (firstKeeps _ holds)
  | alt first second firstKeeps secondKeeps =>
      intro cursors holds
      refine keeps_distinct _ ?_
      intro next member
      obtain ⟨cursor, isStart, member⟩ := List.mem_flatMap.mp member
      rcases List.mem_append.mp member with member | member
      · exact firstKeeps.single (holds cursor isStart) next member
      · exact secondKeeps.single (holds cursor isStart) next member
  | repetition body least most greedy keeps =>
      intro cursors holds
      rw [ends]
      exact keeps.repeated greedy least most cursors holds

/-- From no place a pattern leads to no place. -/
theorem ends_nil (pattern : Pattern) : pattern.ends [] = [] := by
  have never : Keeps (fun _ => False) pattern.ends :=
    keeps_ends (fun impossible => impossible.elim)
      (fun impossible => impossible.elim) pattern
  exact List.eq_nil_iff_forall_not_mem.mpr fun cursor member =>
    never [] (by simp) cursor member

/-- A cursor that lies in a text: what follows it is what its position leaves of the
text. -/
def Cursor.LiesIn (text : List Char) (cursor : Cursor) : Prop :=
  cursor.position ≤ text.length ∧ cursor.rest = text.drop cursor.position

theorem Cursor.LiesIn.advance {text : List Char} {cursor : Cursor} {set : CharSet}
    (liesIn : cursor.LiesIn text) : ∀ next ∈ cursor.advance set, next.LiesIn text := by
  intro next member
  obtain ⟨_, rest_eq⟩ := liesIn
  unfold Cursor.advance at member
  split at member
  · simp at member
  · rename_i char rest restEq
    split at member
    · obtain rfl := List.mem_singleton.mp member
      rw [restEq] at rest_eq
      have inside : cursor.position < text.length := by
        rcases Nat.lt_or_ge cursor.position text.length with inside | outside
        · exact inside
        · rw [List.drop_eq_nil_of_le outside] at rest_eq
          exact (List.cons_ne_nil _ _ rest_eq).elim
      refine ⟨inside, ?_⟩
      rw [← List.tail_drop, ← rest_eq, List.tail_cons]
    · simp at member

theorem Cursor.LiesIn.pass {text : List Char} {cursor : Cursor} {label : Nat}
    (liesIn : cursor.LiesIn text) : ∀ next ∈ cursor.pass label, next.LiesIn text := by
  intro next member
  unfold Cursor.pass at member
  split at member
  · simp at member
  · obtain rfl := List.mem_singleton.mp member
    exact liesIn

/-- A match takes no more characters than there are. -/
theorem matchLength?_le_length {pattern : Pattern} {text : List Char} {count : Nat}
    (matched : pattern.matchLength? text = some count) : count ≤ text.length := by
  obtain ⟨cursor, isFirst, rfl⟩ := Option.map_eq_some_iff.mp matched
  have startLiesIn : ∀ cursor ∈ [Cursor.start text], cursor.LiesIn text := by
    simp [Cursor.LiesIn, Cursor.start]
  exact (keeps_ends Cursor.LiesIn.advance Cursor.LiesIn.pass pattern _ startLiesIn cursor
    (List.mem_of_head? isFirst)).1

end LineLexer.Pattern
