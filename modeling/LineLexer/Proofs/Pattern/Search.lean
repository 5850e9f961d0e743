import LineLexer.Proofs.Pattern.Bounds

/-!
# The search misses no place

Matching follows every place of a text once, whichever way led there first.  Nothing gets
lost by this: all that is ever added to the places that were found is followed to the end,
and of a place that was followed with a bound on the rounds, all is known that so many
rounds reach.  So a repetition ends exactly where some number of its rounds leads.
-/

namespace LineLexer.Pattern

/-- A cursor of a text that has passed no waypoint. -/
def Cursor.StandsIn (text : List Char) (cursor : Cursor) : Prop :=
  ∃ front rest, text = front ++ rest ∧ cursor = ⟨front.length, front.getLast?, rest, []⟩

variable {text : List Char}

theorem Cursor.StandsIn.eq_of_position_eq {cursor other : Cursor}
    (stands : cursor.StandsIn text) (otherStands : other.StandsIn text)
    (same : cursor.position = other.position) : cursor = other := by
  obtain ⟨front, rest, rfl, rfl⟩ := stands
  obtain ⟨otherFront, otherRest, text_eq, rfl⟩ := otherStands
  obtain ⟨rfl, rfl⟩ := List.append_inj text_eq same
  rfl

theorem Cursor.StandsIn.length_eq {cursor : Cursor} (stands : cursor.StandsIn text) :
    cursor.position + cursor.rest.length = text.length := by
  obtain ⟨front, rest, rfl, rfl⟩ := stands
  exact List.length_append.symm

theorem Cursor.StandsIn.passed_eq {cursor : Cursor} (stands : cursor.StandsIn text) :
    cursor.passed = [] := by
  obtain ⟨_, _, -, rfl⟩ := stands
  rfl

theorem Cursor.standsIn_start (text : List Char) : (Cursor.start text).StandsIn text :=
  ⟨[], text, rfl, rfl⟩

/-- From cursors in a text a move leads exactly to where single steps lead. -/
structure Follows (text : List Char) (step : Cursor → Cursor → Prop)
    (move : List Cursor → List Cursor) : Prop where
  mem_iff : ∀ cursors, (∀ cursor ∈ cursors, cursor.StandsIn text) → ∀ next,
    next ∈ move cursors ↔ ∃ cursor ∈ cursors, step cursor next
  stands : ∀ cursor next, cursor.StandsIn text → step cursor next → next.StandsIn text

inductive Rounds (step : Cursor → Cursor → Prop) : Nat → Cursor → Cursor → Prop where
  | none {cursor : Cursor} : Rounds step 0 cursor cursor
  | more {count : Nat} {cursor middle next : Cursor} (first : step cursor middle)
      (others : Rounds step count middle next) : Rounds step (count + 1) cursor next

section Places

variable {found : Places} {cursor other : Cursor}

theorem Places.has_iff (all : found.All (Cursor.StandsIn text))
    (stands : cursor.StandsIn text) :
    found.has cursor = true ↔ cursor ∈ found.reversed := by
  rw [has_eq_isIn, Cursor.isIn, List.any_eq_true]
  constructor
  · rintro ⟨place, member, same⟩
    rwa [← (all place member).eq_of_position_eq stands (by simpa using same)]
  · exact fun member => ⟨cursor, member, by simp⟩

theorem Places.mem_add (all : found.All (Cursor.StandsIn text))
    (stands : cursor.StandsIn text) :
    other ∈ (found.add cursor).reversed ↔ other ∈ found.reversed ∨ other = cursor := by
  rw [reversed_add, ← has_eq_isIn]
  split
  · rename_i has
    rw [has_iff all stands] at has
    exact ⟨.inl, Or.rec id fun same => same ▸ has⟩
  · rw [List.mem_cons, or_comm]

theorem Places.mem_toList : cursor ∈ found.toList ↔ cursor ∈ found.reversed :=
  List.mem_reverse

theorem mem_distinct {cursors : List Cursor}
    (stand : ∀ cursor ∈ cursors, cursor.StandsIn text) :
    other ∈ distinct cursors ↔ other ∈ cursors := by
  match cursors with
  | [] => rfl
  | [_] => rfl
  | first :: second :: cursors =>
      change other ∈ ((first :: second :: cursors).foldl Places.add .empty).toList ↔ _
      generalize first :: second :: cursors = places at stand
      rw [Places.mem_toList]
      suffices added : ∀ found : Places, found.All (Cursor.StandsIn text) →
          (other ∈ (places.foldl Places.add found).reversed ↔ other ∈ found.reversed ∨
            other ∈ places) by
        rw [added _ Places.all_empty]
        simp [Places.empty]
      induction places with
      | nil => simp
      | cons place places ih =>
          obtain ⟨stands, stand⟩ := List.forall_mem_cons.mp stand
          intro found all
          rw [List.foldl_cons, ih stand _ (all.add stands), Places.mem_add all stands,
            List.mem_cons, or_assoc]

end Places

section Moves

variable {step : Cursor → Cursor → Prop} {body : List Cursor → List Cursor}
  {greedy : Bool} {cursor next : Cursor} {cursors : List Cursor} {count : Nat}

theorem Follows.keeps (follows : Follows text step body) :
    Keeps (Cursor.StandsIn text) body := by
  intro cursors stand next member
  obtain ⟨cursor, isStart, steps⟩ := (follows.mem_iff cursors stand next).mp member
  exact follows.stands cursor next (stand cursor isStart) steps

theorem Follows.mem_single_iff (follows : Follows text step body)
    (stands : cursor.StandsIn text) : next ∈ body [cursor] ↔ step cursor next := by
  rw [follows.mem_iff [cursor] (by simpa using stands)]
  simp

theorem rounds_zero_iff : Rounds step 0 cursor next ↔ next = cursor := by
  constructor
  · rintro ⟨⟩
    rfl
  · rintro rfl
    exact .none

theorem Rounds.exists_of_add {least more : Nat}
    (rounds : Rounds step (least + more) cursor next) :
    ∃ middle, Rounds step least cursor middle ∧ Rounds step more middle next := by
  induction least generalizing cursor with
  | zero => exact ⟨cursor, .none, by rwa [Nat.zero_add] at rounds⟩
  | succ least ih =>
      rw [Nat.add_right_comm] at rounds
      cases rounds with
      | more first others =>
          obtain ⟨middle, before, after⟩ := ih others
          exact ⟨middle, .more first before, after⟩

theorem Rounds.append {least more : Nat} {middle : Cursor}
    (before : Rounds step least cursor middle) (after : Rounds step more middle next) :
    Rounds step (least + more) cursor next := by
  induction before with
  | none => rwa [Nat.zero_add]
  | more first _ ih =>
      rw [Nat.add_right_comm]
      exact .more first (ih after)

theorem Follows.congr {otherStep : Cursor → Cursor → Prop}
    (same : ∀ cursor next, cursor.StandsIn text →
      (step cursor next ↔ otherStep cursor next))
    (follows : Follows text step body) : Follows text otherStep body where
  mem_iff cursors stand next := by
    rw [follows.mem_iff cursors stand next]
    exact exists_congr fun cursor => and_congr_right fun isStart =>
      same cursor next (stand cursor isStart)
  stands cursor next stands steps :=
    follows.stands cursor next stands ((same cursor next stands).mpr steps)

theorem Follows.after {otherStep : Cursor → Cursor → Prop}
    {other : List Cursor → List Cursor} (first : Follows text step body)
    (second : Follows text otherStep other) :
    Follows text (fun cursor next => ∃ middle, step cursor middle ∧ otherStep middle next)
      fun cursors => other (body cursors) where
  mem_iff cursors stand next := by
    rw [second.mem_iff _ (first.keeps cursors stand)]
    simp only [first.mem_iff cursors stand]
    constructor
    · rintro ⟨middle, ⟨cursor, isStart, before⟩, behind⟩
      exact ⟨cursor, isStart, middle, before, behind⟩
    · rintro ⟨cursor, isStart, middle, before, behind⟩
      exact ⟨middle, ⟨cursor, isStart, before⟩, behind⟩
  stands cursor next stands steps := by
    obtain ⟨middle, before, behind⟩ := steps
    exact second.stands middle next (first.stands cursor middle stands before) behind

theorem Follows.either {otherStep : Cursor → Cursor → Prop}
    {other : List Cursor → List Cursor} (first : Follows text step body)
    (second : Follows text otherStep other) :
    Follows text (fun cursor next => step cursor next ∨ otherStep cursor next)
      fun cursors => distinct (cursors.flatMap fun cursor =>
        body [cursor] ++ other [cursor]) where
  stands cursor next stands steps :=
    steps.elim (first.stands cursor next stands) (second.stands cursor next stands)
  mem_iff cursors stand next := by
    have either_iff (next : Cursor) :
        next ∈ (cursors.flatMap fun cursor => body [cursor] ++ other [cursor]) ↔
        ∃ cursor ∈ cursors, step cursor next ∨ otherStep cursor next := by
      rw [List.mem_flatMap]
      refine exists_congr fun cursor => and_congr_right fun isStart => ?_
      rw [List.mem_append, first.mem_single_iff (stand cursor isStart),
        second.mem_single_iff (stand cursor isStart)]
    have eitherStand :
        ∀ next ∈ cursors.flatMap fun cursor => body [cursor] ++ other [cursor],
          next.StandsIn text := by
      intro next member
      obtain ⟨cursor, isStart, steps⟩ := (either_iff next).mp member
      have stands := stand cursor isStart
      exact steps.elim (first.stands cursor next stands)
        (second.stands cursor next stands)
    rw [mem_distinct eitherStand, either_iff]

theorem Follows.rounds (follows : Follows text step body) (count : Nat) :
    Follows text (Rounds step count) (rounds body count) where
  mem_iff cursors stand next := by
    induction count generalizing cursors with
    | zero => simp [Pattern.rounds, rounds_zero_iff]
    | succ count ih =>
        have unfolded : Pattern.rounds body (count + 1) cursors =
            Pattern.rounds body count (body cursors) := by
          cases cursors with
          | cons => rfl
          | nil =>
              have nowhere : body [] = [] :=
                List.eq_nil_iff_forall_not_mem.mpr fun next member => by
                  simpa using (follows.mem_iff [] (by simp) next).mp member
              rw [nowhere]
              cases count <;> rfl
        rw [unfolded, ih _ (follows.keeps _ stand)]
        constructor
        · rintro ⟨middle, isMiddle, others⟩
          obtain ⟨cursor, isStart, first⟩ :=
            (follows.mem_iff cursors stand middle).mp isMiddle
          exact ⟨cursor, isStart, .more first others⟩
        · rintro ⟨cursor, isStart, _ | ⟨first, others⟩⟩
          exact ⟨_,
            (follows.mem_iff cursors stand _).mpr ⟨cursor, isStart, first⟩, others⟩
  stands cursor next stands rounds := by
    induction rounds with
    | none => exact stands
    | more first _ ih => exact ih (follows.stands _ _ stands first)

end Moves

/-- A place that at least so many rounds reach from one of some cursors. -/
def Reached (text : List Char) (step : Cursor → Cursor → Prop) (least : Nat)
    (cursors : List Cursor) (next : Cursor) : Prop :=
  next.StandsIn text ∧ ∃ cursor ∈ cursors, ∃ count, least ≤ count ∧
    Rounds step count cursor next

theorem Follows.keeps_reached {step : Cursor → Cursor → Prop}
    {body : List Cursor → List Cursor} (follows : Follows text step body) {least : Nat}
    {cursors : List Cursor} : Keeps (Reached text step least cursors) body := by
  intro others reached next member
  have otherStand : ∀ other ∈ others, other.StandsIn text :=
    fun other isOther => (reached other isOther).1
  obtain ⟨cursor, isOther, steps⟩ := (follows.mem_iff others otherStand next).mp member
  obtain ⟨stands, start, isStart, count, enough, rounds⟩ := reached cursor isOther
  exact ⟨follows.stands cursor next stands steps, start, isStart, count + 1,
    Nat.le_succ_of_le enough, rounds.append (.more steps .none)⟩

/-! ### Repetitions without a bound -/

/-- What has been added since `found` is followed to the end. -/
structure Places.Completes (text : List Char) (step : Cursor → Cursor → Prop)
    (found result : Places) : Prop where
  all : result.All (Cursor.StandsIn text)
  keeps : ∀ place ∈ found.reversed, place ∈ result.reversed
  followed : ∀ place ∈ result.reversed, place ∈ found.reversed ∨ ∀ next, step place next →
    next ∈ result.reversed

namespace Places.Completes

variable {step : Cursor → Cursor → Prop} {found middle result : Places} {cursor : Cursor}
  {cursors : List Cursor}

theorem refl (step : Cursor → Cursor → Prop) (all : found.All (Cursor.StandsIn text)) :
    found.Completes text step found :=
  ⟨all, fun _ member => member, fun _ member => .inl member⟩

theorem trans (first : found.Completes text step middle)
    (second : middle.Completes text step result) : found.Completes text step result where
  all := second.all
  keeps place member := second.keeps place (first.keeps place member)
  followed place member := by
    rcases second.followed place member with isMiddle | all
    · exact (first.followed place isMiddle).imp_right fun all next steps =>
        second.keeps next (all next steps)
    · exact .inr all

/-- A place itself may be added before or after all that is one step behind it. -/
theorem around {start : Places} (completes : start.Completes text step middle)
    (stands : cursor.StandsIn text) (all : found.All (Cursor.StandsIn text))
    (nexts : ∀ next, step cursor next → next ∈ middle.reversed)
    (atOnce : start = found ∧ result = middle.add cursor ∨ start = found.add cursor ∧
      result = middle) :
    cursor ∈ result.reversed ∧ found.Completes text step result := by
  have start_iff (place : Cursor) : place ∈ (found.add cursor).reversed ↔
      place ∈ found.reversed ∨ place = cursor :=
    mem_add all stands
  rcases atOnce with ⟨rfl, rfl⟩ | ⟨rfl, rfl⟩
  · have result_iff (place : Cursor) :
        place ∈ (middle.add cursor).reversed ↔ place ∈ middle.reversed ∨ place = cursor :=
      mem_add completes.all stands
    refine ⟨(result_iff cursor).mpr (.inr rfl), completes.all.add stands,
      fun place member => ?_,
      fun place member => ?_⟩
    · exact (result_iff place).mpr (.inl (completes.keeps place member))
    · simp only [result_iff] at member ⊢
      rcases member with member | rfl
      · exact (completes.followed place member).imp_right fun all next steps =>
          .inl (all next steps)
      · exact .inr fun next steps => .inl (nexts next steps)
  · refine ⟨completes.keeps cursor ((start_iff cursor).mpr (.inr rfl)), completes.all,
      fun place member => ?_,
      fun place member => ?_⟩
    · exact completes.keeps place ((start_iff place).mpr (.inl member))
    · rcases completes.followed place member with isStart | all
      · rw [start_iff] at isStart
        exact isStart.imp_right fun same => by rwa [same]
      · exact .inr all

/-- If every single addition is followed to the end, so is a series of them. -/
theorem foldl {property : Cursor → Prop} {reach : Cursor → Cursor → Prop}
    {follow : Places → Cursor → Places}
    (adds : ∀ places cursor, places.All (Cursor.StandsIn text) → property cursor →
      (∀ next, reach cursor next → next ∈ (follow places cursor).reversed) ∧
        places.Completes text step (follow places cursor))
    (all : found.All (Cursor.StandsIn text))
    (holds : ∀ cursor ∈ cursors, property cursor) :
    (∀ cursor ∈ cursors, ∀ next, reach cursor next →
      next ∈ (cursors.foldl follow found).reversed) ∧
      found.Completes text step (cursors.foldl follow found) := by
  induction cursors generalizing found with
  | nil => exact ⟨by simp, .refl step all⟩
  | cons cursor cursors ih =>
      obtain ⟨holdsFirst, holds⟩ := List.forall_mem_cons.mp holds
      obtain ⟨isFound, completes⟩ := adds found cursor all holdsFirst
      obtain ⟨areFound, others⟩ := ih completes.all holds
      refine ⟨List.forall_mem_cons.mpr ⟨fun next reaches => ?_, areFound⟩,
        completes.trans others⟩
      exact others.keeps next (isFound next reaches)

/-- All that has been followed from nothing on is complete. -/
theorem mem_of_rounds (completes : Places.empty.Completes text step result) {count : Nat}
    {next : Cursor} (rounds : Rounds step count cursor next)
    (member : cursor ∈ result.reversed) : next ∈ result.reversed := by
  induction rounds with
  | none => exact member
  | more first _ ih =>
      rcases completes.followed _ member with isEmpty | all
      · cases isEmpty
      · exact ih (all _ first)

end Places.Completes

section Unbounded

variable {step : Cursor → Cursor → Prop} {body : List Cursor → List Cursor}
  {greedy : Bool} {found : Places} {cursor next : Cursor} {cursors : List Cursor}
  (follows : Follows text step body) (advances : ∀ cursor next, step cursor next →
    cursor.position < next.position)

include follows advances

theorem completes_nexts {follow : Places → Cursor → Places}
    (adds : ∀ places next, places.All (Cursor.StandsIn text) → next.StandsIn text →
      cursor.position < next.position →
        next ∈ (follow places next).reversed ∧
          places.Completes text step (follow places next))
    (all : found.All (Cursor.StandsIn text)) (stands : cursor.StandsIn text) :
    (∀ next, step cursor next → next ∈ ((body [cursor]).foldl follow found).reversed) ∧
      found.Completes text step ((body [cursor]).foldl follow found) := by
  have nexts_iff (next : Cursor) : next ∈ body [cursor] ↔ step cursor next :=
    follows.mem_single_iff stands
  have addsNext (places : Places) (next : Cursor)
      (placesAll : places.All (Cursor.StandsIn text)) (steps : step cursor next) :
      (∀ place, place = next → place ∈ (follow places next).reversed) ∧
        places.Completes text step (follow places next) := by
    obtain ⟨isFound, completes⟩ :=
      adds places next placesAll (follows.stands cursor next stands steps)
        (advances cursor next steps)
    exact ⟨fun place same => same ▸ isFound, completes⟩
  obtain ⟨areFound, completes⟩ :=
    Places.Completes.foldl addsNext all fun next member => (nexts_iff next).mp member
  exact ⟨fun next steps => areFound next ((nexts_iff next).mpr steps) next rfl, completes⟩

theorem completes_moreRounds {room : List Char}
    (enough : text.length ≤ cursor.position + room.length)
    (all : found.All (Cursor.StandsIn text)) (stands : cursor.StandsIn text) :
    cursor ∈ (moreRounds body greedy room found cursor).reversed ∧
      found.Completes text step (moreRounds body greedy room found cursor) := by
  induction room generalizing found cursor with
  | nil =>
      refine (Places.Completes.refl step all).around stands all (fun next steps => ?_)
        (.inl ⟨rfl, rfl⟩)
      -- Behind the last character no step leads on.
      have length_eq := (follows.stands _ _ stands steps).length_eq
      have further := advances _ _ steps
      simp only [List.length_nil] at enough
      omega
  | cons char room ih =>
      rw [moreRounds]
      split
      · rename_i has
        exact ⟨(Places.has_iff all stands).mp has, .refl step all⟩
      · have adds (places : Places) (next : Cursor)
            (placesAll : places.All (Cursor.StandsIn text))
            (nextStands : next.StandsIn text)
            (further : cursor.position < next.position) :
            next ∈ (if next.position = cursor.position then places
                else moreRounds body greedy room places next).reversed ∧
              places.Completes text step (if next.position = cursor.position then places
                else moreRounds body greedy room places next) := by
          rw [if_neg (Nat.ne_of_gt further)]
          refine ih ?_ placesAll nextStands
          rw [List.length_cons] at enough
          omega
        cases greedy with
        | true =>
            obtain ⟨areFound, completes⟩ :=
              completes_nexts follows advances adds all stands
            exact completes.around stands all areFound (.inl ⟨rfl, rfl⟩)
        | false =>
            obtain ⟨areFound, completes⟩ :=
              completes_nexts follows advances adds (all.add stands) stands
            exact completes.around stands all areFound (.inr ⟨rfl, rfl⟩)

theorem completes_firstRound (greedy : Bool) (all : found.All (Cursor.StandsIn text))
    (stands : cursor.StandsIn text) :
    (∀ next, step cursor next → next ∈ (firstRound body greedy found cursor).reversed) ∧
      found.Completes text step (firstRound body greedy found cursor) := by
  refine completes_nexts follows advances
    (fun places next placesAll nextStands further => ?_) all stands
  rw [if_neg (Nat.ne_of_gt further)]
  refine completes_moreRounds follows advances ?_ placesAll nextStands
  exact Nat.le_of_eq nextStands.length_eq.symm

theorem completes_anyRounds (greedy : Bool) (all : found.All (Cursor.StandsIn text))
    (stands : cursor.StandsIn text) :
    cursor ∈ (anyRounds body greedy found cursor).reversed ∧
      found.Completes text step (anyRounds body greedy found cursor) := by
  cases greedy with
  | true =>
      obtain ⟨areFound, completes⟩ :=
        completes_firstRound follows advances true all stands
      exact completes.around stands all areFound (.inl ⟨rfl, rfl⟩)
  | false =>
      obtain ⟨areFound, completes⟩ :=
        completes_firstRound follows advances false (all.add stands) stands
      exact completes.around stands all areFound (.inr ⟨rfl, rfl⟩)

variable {cursors : List Cursor} (stand : ∀ cursor ∈ cursors, cursor.StandsIn text)

include stand

theorem mem_foldl_anyRounds_iff (greedy : Bool) :
    next ∈ (cursors.foldl (anyRounds body greedy) .empty).reversed ↔
      ∃ cursor ∈ cursors, ∃ count, 0 ≤ count ∧ Rounds step count cursor next := by
  constructor
  · intro member
    have starts : ∀ cursor ∈ cursors, Reached text step 0 cursors cursor :=
      fun cursor isStart =>
        ⟨stand cursor isStart, cursor, isStart, 0, Nat.le_refl 0, .none⟩
    exact (Places.all_empty.foldl starts
      (follows.keeps_reached.anyRounds greedy) next member).2
  · rintro ⟨cursor, isStart, count, -, rounds⟩
    have adds (places : Places) (cursor : Cursor)
        (all : places.All (Cursor.StandsIn text)) (stands : cursor.StandsIn text) :
        (∀ next, next = cursor → next ∈ (anyRounds body greedy places cursor).reversed) ∧
          places.Completes text step (anyRounds body greedy places cursor) := by
      obtain ⟨isFound, completes⟩ :=
        completes_anyRounds follows advances greedy all stands
      exact ⟨fun next same => same ▸ isFound, completes⟩
    obtain ⟨areFound, completes⟩ := Places.Completes.foldl adds Places.all_empty stand
    exact completes.mem_of_rounds rounds (areFound cursor isStart cursor rfl)

theorem mem_foldl_firstRound_iff (greedy : Bool) (least : Nat) :
    next ∈ ((Pattern.rounds body least cursors).foldl
      (firstRound body greedy) .empty).reversed ↔
      ∃ cursor ∈ cursors, ∃ count, least + 1 ≤ count ∧ Rounds step count cursor next := by
  have follows_least := follows.rounds least
  have starts_stand := follows_least.keeps cursors stand
  constructor
  · intro member
    have all :
        ((Pattern.rounds body least cursors).foldl (firstRound body greedy) .empty).All
        (Reached text step (least + 1) cursors) := by
      refine List.foldlRecOn _ _ Places.all_empty fun found all cursor isStart => ?_
      refine follows.keeps_reached.firstRound_of_next greedy all fun next isNext => ?_
      have stands := starts_stand cursor isStart
      have steps := (follows.mem_single_iff stands).mp isNext
      obtain ⟨start, isFirst, before⟩ :=
        (follows_least.mem_iff cursors stand cursor).mp isStart
      exact ⟨follows.stands cursor next stands steps, start, isFirst, least + 1,
        Nat.le_refl _, before.append (.more steps .none)⟩
    exact (all next member).2
  · rintro ⟨cursor, isStart, count, enough, rounds⟩
    obtain ⟨more, rfl⟩ := Nat.exists_eq_add_of_le enough
    rw [Nat.add_right_comm, Nat.add_assoc] at rounds
    obtain ⟨start, before, after⟩ := rounds.exists_of_add
    obtain ⟨areFound, completes⟩ := Places.Completes.foldl
      (fun places cursor all stands =>
        completes_firstRound follows advances greedy all stands)
      Places.all_empty starts_stand
    cases after with
    | more first others =>
        have isStart := (follows_least.mem_iff cursors stand start).mpr
          ⟨cursor, isStart, before⟩
        exact completes.mem_of_rounds others (areFound start isStart _ first)

omit stand

theorem Follows.repeated_unbounded (greedy : Bool) (least : Nat) :
    Follows text (fun cursor next => ∃ count, least ≤ count ∧
      Rounds step count cursor next) (repeated body greedy least none) where
  stands cursor next stands rounds := by
    obtain ⟨count, -, rounds⟩ := rounds
    exact (follows.rounds count).stands cursor next stands rounds
  mem_iff cursors stand next := by
    cases least with
    | zero => exact Places.mem_toList.trans (mem_foldl_anyRounds_iff follows advances
        stand greedy)
    | succ least =>
        exact Places.mem_toList.trans
          (mem_foldl_firstRound_iff follows advances stand greedy least)

end Unbounded

/-! ### Repetitions with a bound -/

section Bounded

variable {step : Cursor → Cursor → Prop} {body : List Cursor → List Cursor}
  {greedy : Bool} {search : Search} {cursor next : Cursor} {cursors : List Cursor}
  {left : Nat}

theorem exists_rounds_succ_iff :
    (∃ count ≤ left + 1, Rounds step count cursor next) ↔
      next = cursor ∨ ∃ middle, step cursor middle ∧ ∃ count ≤ left,
        Rounds step count middle next := by
  constructor
  · rintro ⟨_, bounded, _ | ⟨first, others⟩⟩
    · exact .inl rfl
    · exact .inr ⟨_, first, _, Nat.le_of_succ_le_succ bounded, others⟩
  · rintro (rfl | ⟨middle, first, count, bounded, others⟩)
    · exact ⟨0, Nat.zero_le _, .none⟩
    · exact ⟨count + 1, Nat.succ_le_succ bounded, .more first others⟩

/-- From the places that have been followed all is found that the rounds lead to that were
left there. -/
structure Search.Knows (text : List Char) (step : Cursor → Cursor → Prop)
    (search : Search) : Prop where
  all : search.found.All (Cursor.StandsIn text)
  known : ∀ cursor most, cursor.StandsIn text →
    search.followed.get? cursor.position = some most →
    ∀ next, (∃ count ≤ most, Rounds step count cursor next) → next ∈ search.found.reversed

theorem Search.Knows.add (knows : search.Knows text step)
    (stands : cursor.StandsIn text) :
    (search.add cursor).Knows text step where
  all := knows.all.add stands
  known other most otherStands isFollowed next reached :=
    (Places.mem_add knows.all stands).mpr
      (.inl (knows.known other most otherStands isFollowed next reached))

theorem Search.Knows.close (knows : search.Knows text step)
    (stands : cursor.StandsIn text)
    (complete : ∀ next, (∃ count ≤ left, Rounds step count cursor next) →
      next ∈ search.found.reversed) :
    (search.close left cursor).Knows text step where
  all := knows.all
  known other most otherStands isFollowed next reached := by
    rw [Search.close, Std.TreeMap.get?_eq_getElem?,
      Std.TreeMap.getElem?_insert] at isFollowed
    split at isFollowed
    · rename_i same
      obtain rfl := stands.eq_of_position_eq otherStands
        (Std.LawfulEqCmp.compare_eq_iff_eq.mp same)
      exact complete next (Option.some.inj isFollowed ▸ reached)
    · exact knows.known other most otherStands isFollowed next reached

theorem Search.Knows.foldl {follow : Search → Cursor → Search}
    {reach : Cursor → Cursor → Prop}
    (adds : ∀ search cursor, search.Knows text step → cursor.StandsIn text →
      (follow search cursor).Knows text step ∧
      ∀ next, next ∈ (follow search cursor).found.reversed ↔
      next ∈ search.found.reversed ∨ reach cursor next)
    (knows : search.Knows text step) (stand : ∀ cursor ∈ cursors, cursor.StandsIn text) :
    (cursors.foldl follow search).Knows text step ∧
    ∀ next, next ∈ (cursors.foldl follow search).found.reversed ↔
      next ∈ search.found.reversed ∨ ∃ cursor ∈ cursors, reach cursor next := by
  induction cursors generalizing search with
  | nil => simpa using knows
  | cons cursor cursors ih =>
      obtain ⟨stands, stand⟩ := List.forall_mem_cons.mp stand
      obtain ⟨nextKnows, mem_iff⟩ := adds search cursor knows stands
      obtain ⟨lastKnows, last_iff⟩ := ih nextKnows stand
      refine ⟨lastKnows, fun next => ?_⟩
      rw [List.foldl_cons, last_iff, mem_iff, or_assoc]
      simp only [List.mem_cons, exists_eq_or_imp]

variable (follows : Follows text step body)

include follows

theorem knows_upToRounds (knows : search.Knows text step)
    (stands : cursor.StandsIn text) :
    (upToRounds body greedy left search cursor).Knows text step ∧
      ∀ next, next ∈ (upToRounds body greedy left search cursor).found.reversed ↔
        next ∈ search.found.reversed ∨ ∃ count ≤ left, Rounds step count cursor next := by
  induction left generalizing search cursor with
  | zero =>
      refine ⟨knows.add stands, fun next =>
        (Places.mem_add knows.all stands).trans (or_congr_right ?_)⟩
      simp [rounds_zero_iff]
  | succ left ih =>
      rw [upToRounds]
      split
      · rename_i covered
        refine ⟨knows, fun next => ⟨.inl, ?_⟩⟩
        rintro (member | ⟨count, bounded, rounds⟩)
        · exact member
        rw [Search.covers] at covered
        split at covered
        · rename_i most isFollowed
          have enough : left + 1 ≤ most := by simpa using covered
          exact knows.known cursor most stands isFollowed next
            ⟨count, Nat.le_trans bounded enough, rounds⟩
        · cases covered
      · have nextsStand := follows.keeps.single stands
        have adds (search : Search) (cursor : Cursor) (knows : search.Knows text step)
            (stands : cursor.StandsIn text) :
            (upToRounds body greedy left search cursor).Knows text step ∧
              ∀ next, next ∈ (upToRounds body greedy left search cursor).found.reversed ↔
                next ∈ search.found.reversed ∨ ∃ count ≤ left,
                  Rounds step count cursor next :=
          ih knows stands
        have folded (start : Search) (startKnows : start.Knows text step) :=
          startKnows.foldl adds nextsStand
        simp only [follows.mem_single_iff stands] at folded
        cases greedy with
        | true =>
            obtain ⟨othersKnow, others_iff⟩ := folded search knows
            have result_iff (next : Cursor) :
                next ∈ (((body [cursor]).foldl (upToRounds body true left) search).add
                  cursor).found.reversed ↔
                  next ∈ search.found.reversed ∨ ∃ count ≤ left + 1,
                    Rounds step count cursor next := by
              rw [Search.add, Places.mem_add othersKnow.all stands, others_iff,
                exists_rounds_succ_iff, or_assoc, or_comm (b := next = cursor)]
            have knows := (othersKnow.add stands).close stands fun next reached =>
              (result_iff next).mpr (.inr reached)
            exact ⟨knows, result_iff⟩
        | false =>
            obtain ⟨othersKnow, others_iff⟩ :=
              folded (search.add cursor) (knows.add stands)
            have result_iff (next : Cursor) :
                next ∈ ((body [cursor]).foldl (upToRounds body false left)
                  (search.add cursor)).found.reversed ↔
                  next ∈ search.found.reversed ∨ ∃ count ≤ left + 1,
                    Rounds step count cursor next := by
              rw [others_iff, Search.add, Places.mem_add knows.all stands,
                exists_rounds_succ_iff, or_assoc]
            exact ⟨othersKnow.close stands fun next reached =>
              (result_iff next).mpr (.inr reached), result_iff⟩

theorem Follows.atMost (greedy : Bool) (most : Nat) :
    Follows text (fun cursor next => ∃ count ≤ most, Rounds step count cursor next)
    (atMost body greedy most) where
  stands cursor next stands reached := by
    obtain ⟨count, -, rounds⟩ := reached
    exact (follows.rounds count).stands cursor next stands rounds
  mem_iff cursors stand next := by
    match most with
    | 0 => simp [Pattern.atMost, rounds_zero_iff]
    | 1 =>
        have optional_iff {cursor : Cursor} (stands : cursor.StandsIn text)
            (next : Cursor) :
            next ∈ optionalRound body greedy cursor ↔
              ∃ count ≤ 1, Rounds step count cursor next := by
          rw [exists_rounds_succ_iff, optionalRound]
          cases greedy <;> simp [follows.mem_single_iff stands, or_comm, rounds_zero_iff]
        have optionalStand : ∀ next ∈ cursors.flatMap (optionalRound body greedy),
            next.StandsIn text := by
          intro next member
          obtain ⟨cursor, isStart, member⟩ := List.mem_flatMap.mp member
          obtain ⟨count, -, rounds⟩ :=
            (optional_iff (stand cursor isStart) next).mp member
          exact (follows.rounds count).stands cursor next (stand cursor isStart) rounds
        change next ∈ distinct (cursors.flatMap (optionalRound body greedy)) ↔ _
        rw [mem_distinct optionalStand, List.mem_flatMap]
        exact exists_congr fun cursor => and_congr_right fun isStart =>
          optional_iff (stand cursor isStart) next
    | most + 2 =>
        change next ∈
          (cursors.foldl (upToRounds body greedy (most + 2)) ⟨.empty, ∅⟩).found.toList ↔ _
        have knows : Search.Knows text step ⟨.empty, ∅⟩ := ⟨Places.all_empty, by simp⟩
        have adds (search : Search) (cursor : Cursor) (knows : search.Knows text step)
            (stands : cursor.StandsIn text) :
            (upToRounds body greedy (most + 2) search cursor).Knows text step ∧
              ∀ next,
                next ∈ (upToRounds body greedy (most + 2) search cursor).found.reversed ↔
                next ∈ search.found.reversed ∨
                ∃ count ≤ most + 2, Rounds step count cursor next :=
          knows_upToRounds follows knows stands
        rw [Places.mem_toList, (knows.foldl adds stand).2]
        simp [Places.empty]

theorem Follows.repeated_bounded (greedy : Bool) {least most : Nat}
    (ordered : least ≤ most) :
    Follows text (fun cursor next => ∃ count, least ≤ count ∧ count ≤ most ∧
      Rounds step count cursor next) (repeated body greedy least (some most)) := by
  have follows_both := (follows.rounds least).after (follows.atMost greedy (most - least))
  have step_iff (cursor next : Cursor) : (∃ middle, Rounds step least cursor middle ∧
        ∃ count ≤ most - least, Rounds step count middle next) ↔
      ∃ count, least ≤ count ∧ count ≤ most ∧ Rounds step count cursor next := by
    constructor
    · rintro ⟨middle, before, count, bounded, behind⟩
      exact ⟨least + count, Nat.le_add_right _ _, by omega, before.append behind⟩
    · rintro ⟨_, enough, bounded, rounds⟩
      obtain ⟨more, rfl⟩ := Nat.exists_eq_add_of_le enough
      obtain ⟨middle, before, behind⟩ := rounds.exists_of_add
      exact ⟨middle, before, more, by omega, behind⟩
  simp only [step_iff] at follows_both
  exact follows_both

end Bounded

end LineLexer.Pattern
