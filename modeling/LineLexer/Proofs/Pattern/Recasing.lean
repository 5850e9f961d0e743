import LineLexer.Pattern.Matcher
import LineLexer.Proofs.Text.AsciiCase

/-!
# Matching texts that differ in case

Matching asks of a character whether sets have it, and of a place where it lies and what
stands around it.  So if every set of a pattern has with a letter also its small form, and
a small letter only with its capital one, then the pattern goes the same ways through a
text and through the text in small letters, and it ends at the same places in the same
order of preference.
-/

namespace LineLexer.Pattern

/-- The cursor at the same place of the text in small letters. -/
def Cursor.lowered (cursor : Cursor) : Cursor :=
  { cursor with
    before := cursor.before.map Char.toLower
    rest := cursor.rest.map Char.toLower }

/-- The same places of the text in small letters. -/
def Places.lowered (places : Places) : Places where
  reversed := places.reversed.map Cursor.lowered
  mask := places.mask
  testBit_mask := fun position => by
    rw [places.testBit_mask, List.any_map]
    rfl

/-- What has been found, in the text in small letters. -/
def Search.lowered (search : Search) : Search :=
  { search with found := search.found.lowered }

/-- A move between lists of cursors that is the same for a text and for the text in small
letters. -/
def IgnoresCapitals (move : List Cursor → List Cursor) : Prop :=
  ∀ cursors, move (cursors.map Cursor.lowered) = (move cursors).map Cursor.lowered

section Moves

theorem Places.add_lowered (places : Places) (cursor : Cursor) :
    places.lowered.add cursor.lowered = (places.add cursor).lowered := by
  have has_lowered : places.lowered.has cursor.lowered = places.has cursor := rfl
  rw [add, add, has_lowered]
  split <;> rfl

theorem Places.toList_lowered (places : Places) :
    places.lowered.toList = places.toList.map Cursor.lowered :=
  List.map_reverse.symm

/-- What each single step does in the same way for the text in small letters, a series of
steps does. -/
theorem foldl_map_lowered {State : Type} {lowered : State → State}
    {follow followLowered : State → Cursor → State}
    (same : ∀ state cursor,
      followLowered (lowered state) cursor.lowered = lowered (follow state cursor))
    (state : State) (cursors : List Cursor) :
    (cursors.map Cursor.lowered).foldl followLowered (lowered state) =
      lowered (cursors.foldl follow state) := by
  rw [List.foldl_map]
  exact List.foldl_hom lowered same

theorem toList_foldl_map_lowered {follow : Places → Cursor → Places}
    (same : ∀ places cursor, follow places.lowered cursor.lowered =
      (follow places cursor).lowered)
    (cursors : List Cursor) :
    ((cursors.map Cursor.lowered).foldl follow .empty).toList =
      (cursors.foldl follow .empty).toList.map Cursor.lowered := by
  have none_lowered : Places.empty.lowered = .empty := rfl
  rw [← Places.toList_lowered, ← foldl_map_lowered same, none_lowered]

theorem ignoresCapitals_distinct : IgnoresCapitals distinct := by
  intro cursors
  match cursors with
  | [] => rfl
  | [cursor] => rfl
  | first :: second :: cursors =>
      exact toList_foldl_map_lowered Places.add_lowered (first :: second :: cursors)

variable {body : List Cursor → List Cursor}

theorem IgnoresCapitals.single (ignores : IgnoresCapitals body) (cursor : Cursor) :
    body [cursor.lowered] = (body [cursor]).map Cursor.lowered :=
  ignores [cursor]

theorem IgnoresCapitals.rounds (ignores : IgnoresCapitals body) (count : Nat) :
    IgnoresCapitals (rounds body count) := by
  induction count with
  | zero => exact fun _ => rfl
  | succ count ih =>
      intro cursors
      cases cursors with
      | nil => rfl
      | cons cursor cursors =>
          change Pattern.rounds body count
            (body ((cursor :: cursors).map Cursor.lowered)) = _
          rw [ignores, ih]
          rfl

theorem IgnoresCapitals.moreRounds (ignores : IgnoresCapitals body) (greedy : Bool)
    (room : List Char) (found : Places) (cursor : Cursor) :
    moreRounds body greedy (room.map Char.toLower) found.lowered cursor.lowered =
      (moreRounds body greedy room found cursor).lowered := by
  induction room generalizing found cursor with
  | nil => exact found.add_lowered cursor
  | cons char room ih =>
      -- Whether a place has been found depends on its position alone.
      have has_lowered : found.lowered.has cursor.lowered = found.has cursor := rfl
      have follow_lowered (places : Places) (next : Cursor) :
          (if next.lowered.position = cursor.lowered.position then places.lowered
            else Pattern.moreRounds body greedy
              (room.map Char.toLower) places.lowered next.lowered) =
          (if next.position = cursor.position then places
            else Pattern.moreRounds body greedy room places next).lowered := by
        rw [ih]
        exact (apply_ite Places.lowered _ _ _).symm
      rw [List.map_cons, Pattern.moreRounds, Pattern.moreRounds, has_lowered]
      split
      · rfl
      · rw [ignores.single, Places.add_lowered]
        cases greedy with
        | true =>
            simp only [↓reduceIte]
            rw [foldl_map_lowered follow_lowered, Places.add_lowered]
        | false => exact foldl_map_lowered follow_lowered _ _

theorem IgnoresCapitals.firstRound (ignores : IgnoresCapitals body) (greedy : Bool)
    (found : Places) (cursor : Cursor) :
    firstRound body greedy found.lowered cursor.lowered =
      (firstRound body greedy found cursor).lowered := by
  have follow_lowered (places : Places) (next : Cursor) :
      (if next.lowered.position = cursor.lowered.position then
          places.lowered.add next.lowered
        else Pattern.moreRounds body greedy next.lowered.rest places.lowered
          next.lowered) =
      (if next.position = cursor.position then places.add next
        else Pattern.moreRounds body greedy next.rest places next).lowered := by
    rw [Places.add_lowered, apply_ite Places.lowered, ← ignores.moreRounds]
    rfl
  rw [Pattern.firstRound, ignores.single]
  exact foldl_map_lowered follow_lowered _ _

theorem IgnoresCapitals.anyRounds (ignores : IgnoresCapitals body) (greedy : Bool)
    (found : Places) (cursor : Cursor) :
    anyRounds body greedy found.lowered cursor.lowered =
      (anyRounds body greedy found cursor).lowered := by
  rw [Pattern.anyRounds, ignores.firstRound, Places.add_lowered, Places.add_lowered,
    ignores.firstRound]
  exact (apply_ite Places.lowered _ _ _).symm

theorem Search.add_lowered (search : Search) (cursor : Cursor) :
    search.lowered.add cursor.lowered = (search.add cursor).lowered := by
  rw [add, add, lowered, lowered, Places.add_lowered]

theorem IgnoresCapitals.upToRounds (ignores : IgnoresCapitals body) (greedy : Bool)
    (left : Nat) (search : Search) (cursor : Cursor) :
    upToRounds body greedy left search.lowered cursor.lowered =
      (upToRounds body greedy left search cursor).lowered := by
  induction left generalizing search cursor with
  | zero => exact search.add_lowered cursor
  | succ left ih =>
      have covers_lowered :
          search.lowered.covers (left + 1) cursor.lowered =
            search.covers (left + 1) cursor := rfl
      have close_lowered (found : Search) :
          found.lowered.close (left + 1) cursor.lowered =
            (found.close (left + 1) cursor).lowered := rfl
      rw [Pattern.upToRounds, Pattern.upToRounds, covers_lowered]
      split
      · rfl
      · cases greedy with
        | true =>
            simp only [↓reduceIte]
            rw [ignores.single, foldl_map_lowered ih, Search.add_lowered, close_lowered]
        | false =>
            simp only [Bool.false_eq_true, ↓reduceIte]
            rw [ignores.single, Search.add_lowered, foldl_map_lowered ih, close_lowered]

theorem IgnoresCapitals.optionalRound (ignores : IgnoresCapitals body) (greedy : Bool)
    (cursor : Cursor) :
    optionalRound body greedy cursor.lowered =
      (optionalRound body greedy cursor).map Cursor.lowered := by
  rw [Pattern.optionalRound, Pattern.optionalRound, ignores.single]
  cases greedy with
  | true => simp only [↓reduceIte, List.map_append, List.map_cons, List.map_nil]
  | false => rfl

/-- A list of moves from single cursors, one after the other. -/
theorem flatMap_map_lowered {follow followLowered : Cursor → List Cursor}
    (same : ∀ cursor, followLowered cursor.lowered = (follow cursor).map Cursor.lowered)
    (cursors : List Cursor) :
    (cursors.map Cursor.lowered).flatMap followLowered =
      (cursors.flatMap follow).map Cursor.lowered := by
  rw [List.flatMap_map, List.map_flatMap]
  exact congrArg (cursors.flatMap ·) (funext same)

theorem IgnoresCapitals.atMost (ignores : IgnoresCapitals body) (greedy : Bool)
    (most : Nat) : IgnoresCapitals (atMost body greedy most) := by
  intro cursors
  match most with
  | 0 => rfl
  | 1 =>
      rw [Pattern.atMost, flatMap_map_lowered (ignores.optionalRound greedy),
        ignoresCapitals_distinct]
      rfl
  | most + 2 =>
      have search_lowered :
          (cursors.map Cursor.lowered).foldl (Pattern.upToRounds body greedy (most + 2))
            ⟨.empty, ∅⟩ =
            (cursors.foldl (Pattern.upToRounds body greedy (most + 2))
              ⟨.empty, ∅⟩).lowered :=
        foldl_map_lowered (ignores.upToRounds greedy (most + 2)) ⟨.empty, ∅⟩ cursors
      rw [Pattern.atMost, search_lowered, Pattern.atMost]
      · exact Places.toList_lowered _
      all_goals omega

theorem IgnoresCapitals.repeated (ignores : IgnoresCapitals body) (greedy : Bool)
    (least : Nat) (most : Option Nat) :
    IgnoresCapitals (repeated body greedy least most) := by
  intro cursors
  match least, most with
  | least, some most =>
      rw [Pattern.repeated, ignores.rounds, ignores.atMost]
      rfl
  | 0, none => exact toList_foldl_map_lowered (ignores.anyRounds greedy) cursors
  | least + 1, none =>
      rw [Pattern.repeated, ignores.rounds]
      exact toList_foldl_map_lowered (ignores.firstRound greedy) _

end Moves

/-- The set has a letter of ASCII exactly if it has the other form of the letter. -/
def CharSet.IsCaseClosed (set : CharSet) : Prop :=
  ∀ char, set.mem char.toLower = set.mem char

instance (set : CharSet) : Decidable set.IsCaseClosed :=
  decidable_of_iff ((Text.capitals.map fun char => set.mem char.toLower) =
    Text.capitals.map set.mem)
    ⟨Text.apply_toLower, fun isClosed => List.map_congr_left fun char _ => isClosed char⟩

/-- All sets of the pattern are closed under the case of ASCII letters. -/
def IsCaseClosed : Pattern → Prop
  | empty => True
  | waypoint _ => True
  | one set => set.IsCaseClosed
  | assert _ => True
  | seq first second => first.IsCaseClosed ∧ second.IsCaseClosed
  | alt first second => first.IsCaseClosed ∧ second.IsCaseClosed
  | repetition body _ _ _ => body.IsCaseClosed

end LineLexer.Pattern

namespace LineLexer

/-- The matcher takes equally much of two texts that differ in the case of ASCII letters
at most. -/
def Matcher.IgnoresCase (matcher : Matcher) : Prop :=
  ∀ first second, Text.SameUpToCase first second →
    matcher.matchLength? first = matcher.matchLength? second

end LineLexer
