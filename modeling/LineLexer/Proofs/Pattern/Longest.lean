import Mathlib.Data.List.Basic
import LineLexer.Proofs.Pattern.Runs
import LineLexer.Proofs.Pattern.Takes

/-!
# Longest matches

The match that a pattern prefers need not be its longest one.  It is if the pattern lists
its ends from the last to the first.  A greedy loop does so, and what follows it keeps
this order where it cannot begin with a character of the loop: then it goes on from the
end of the run only, since at every other end the next character belongs to the loop.
-/

namespace LineLexer.Pattern

/-- Each place of a list lies before the one that is listed before it. -/
def Descends (cursors : List Cursor) : Prop :=
  cursors.Pairwise fun first second => second.position < first.position

/-- The places of a text descend, and after all of them but the first comes a character of
the set. -/
structure Trails (text : List Char) (set : CharSet) (cursors : List Cursor) : Prop where
  stand : ∀ cursor ∈ cursors, cursor.StandsIn text
  descends : Descends cursors
  before : ∀ cursor ∈ cursors.tail, ∃ char rest, cursor.rest = char :: rest ∧
    set.mem char = true

/-- From places before characters of the first set the pattern leads to places before
those of the second one. -/
def Leads (pattern : Pattern) (set other : CharSet) : Prop :=
  ∀ text cursors, Trails text set cursors → Trails text other (pattern.ends cursors)

/-- Wherever it may start, with places before characters of the set after the first one,
the pattern prefers the ends further on. -/
def PrefersLonger (pattern : Pattern) (set : CharSet) : Prop :=
  ∀ text cursors, Trails text set cursors → Descends (pattern.ends cursors)

/-- No character belongs to both sets. -/
def Apart (set other : CharSet) : Prop :=
  ∀ char, set.mem char = true → other.mem char = false

section Lists

variable {text : List Char} {set other : CharSet} {cursor first : Cursor}
  {cursors others : List Cursor}

theorem Descends.position_le (descends : Descends (first :: others))
    (member : cursor ∈ first :: others) : cursor.position ≤ first.position := by
  rcases List.mem_cons.mp member with rfl | later
  · exact Nat.le_refl _
  · exact Nat.le_of_lt (List.rel_of_pairwise_cons descends later)

theorem trails_nil : Trails text set [] where
  stand := by simp
  descends := .nil
  before := by simp

theorem trails_singleton (stands : cursor.StandsIn text) : Trails text set [cursor] where
  stand := by simpa using stands
  descends := List.pairwise_singleton _ _
  before := by simp

theorem Trails.eq_nil_of_nothing
    (trails : Trails text .nothing (first :: others)) : others = [] := by
  refine List.eq_nil_iff_forall_not_mem.mpr fun cursor member => ?_
  obtain ⟨char, rest, -, isMember⟩ := trails.before cursor member
  cases isMember

theorem apart_nothing : Apart .nothing other := by
  intro char isMember
  cases isMember

theorem advance_eq_nil (apart : Apart set other)
    (before : ∃ char rest, cursor.rest = char :: rest ∧ set.mem char = true) :
    cursor.advance other = [] := by
  obtain ⟨char, rest, rest_eq, isMember⟩ := before
  exact advance_of_not_mem rest_eq (apart char isMember)

theorem advance_eq_nil_or_singleton (set : CharSet) (cursor : Cursor) :
    cursor.advance set = [] ∨ ∃ next char rest, cursor.rest = char :: rest ∧
    set.mem char = true ∧
      next.position = cursor.position + 1 ∧ cursor.advance set = [next] := by
  cases rest_eq : cursor.rest with
  | nil => exact .inl (by rw [Cursor.advance, rest_eq])
  | cons char rest =>
      cases isMember : set.mem char with
      | false => exact .inl (advance_of_not_mem rest_eq isMember)
      | true => exact .inr ⟨_, char, rest, rfl, isMember, rfl,
          advance_of_mem rest_eq isMember⟩

/-- Descending places are different, so that none of them is dropped. -/
theorem distinct_of_descends (descends : Descends cursors) :
    distinct cursors = cursors := by
  match cursors with
  | [] => rfl
  | [_] => rfl
  | first :: second :: cursors =>
      change ((first :: second :: cursors).foldl Places.add .empty).toList = _
      generalize first :: second :: cursors = places at descends
      suffices added : ∀ found : Places, Descends (found.toList ++ places) →
          (places.foldl Places.add found).toList =
            found.toList ++ places from added .empty descends
      clear descends
      induction places with
      | nil => exact fun found _ => (List.append_nil _).symm
      | cons place places ih =>
          intro found descends
          have isNew : place.isIn found.reversed = false := by
            refine List.any_eq_false.mpr fun before member same => ?_
            have further := (List.pairwise_append.mp descends).2.2 before
              (List.mem_reverse.mpr member) place List.mem_cons_self
            exact Nat.ne_of_gt further (by simpa using same)
          have added : (found.add place).toList = found.toList ++ [place] := by
            rw [Places.toList, Places.reversed_add, isNew]
            exact List.reverse_cons
          have together : (found.add place).toList ++ places =
              found.toList ++ place :: places := by
            rw [added, List.append_assoc, List.singleton_append]
          rw [List.foldl_cons, ih _ (together ▸ descends), together]

end Lists

/-! ### Loops -/

/-- Places that were found are different from each other and not before `least`, and the
first of them in the text was found last. -/
structure Places.Ascends (least : Nat) (places : Places) : Prop where
  sorted : places.reversed.Pairwise fun first second => first.position < second.position
  further : places.All fun place => least ≤ place.position

section Loops

variable {text : List Char} {set other : CharSet} {cursor first second : Cursor}
  {cursors : List Cursor} {least : Nat} {greedy : Bool}

theorem Places.ascends_empty : Places.empty.Ascends least :=
  ⟨.nil, Places.all_empty⟩

theorem Places.Ascends.add {places : Places}
    (ascends : places.Ascends (cursor.position + 1)) :
    (places.add cursor).Ascends cursor.position := by
  have isNew : cursor.isIn places.reversed = false := by
    refine List.any_eq_false.mpr fun place member same => ?_
    exact Nat.ne_of_gt (ascends.further place member) (by simpa using same)
  have further : places.All fun place => cursor.position ≤ place.position :=
    fun place member => Nat.le_of_succ_le (ascends.further place member)
  refine ⟨?_, further.add (Nat.le_refl _)⟩
  rw [reversed_add, isNew]
  exact List.pairwise_cons.mpr ⟨ascends.further, ascends.sorted⟩

theorem Places.Ascends.descends {places : Places} (ascends : places.Ascends least) :
    Descends places.toList :=
  List.pairwise_reverse.mpr ascends.sorted

/-- A greedy loop adds the end of the run first and its own start last. -/
theorem ascends_moreRounds_one {room : List Char} (rest_eq : cursor.rest = room) :
    (moreRounds (one set).ends true room .empty cursor).Ascends cursor.position := by
  induction room generalizing cursor with
  | nil => exact Places.ascends_empty.add
  | cons char room ih =>
      have notFound : Places.empty.has cursor = false := by
        rw [Places.has_eq_isIn]
        rfl
      rw [moreRounds, notFound, if_neg Bool.false_ne_true, if_pos rfl, ends_one_single]
      cases isMember : set.mem char with
      | false =>
          rw [advance_of_not_mem rest_eq isMember]
          exact Places.ascends_empty.add
      | true =>
          rw [advance_of_mem rest_eq isMember, List.foldl_cons, List.foldl_nil,
            if_neg (Nat.succ_ne_self _)]
          have ascends := @ih ⟨cursor.position + 1, some char, room, []⟩ rfl
          exact ascends.add

theorem ascends_firstRound_one (set : CharSet) (cursor : Cursor) :
    (firstRound (one set).ends true .empty cursor).Ascends (cursor.position + 1) := by
  rw [firstRound, ends_one_single]
  rcases advance_eq_nil_or_singleton set cursor with stops | ⟨next, -, -, -, -,
    further, goesOn⟩
  · rw [stops]
    exact Places.ascends_empty
  · rw [goesOn, List.foldl_cons, List.foldl_nil, if_neg (further ▸ Nat.succ_ne_self _),
      ← further]
    exact ascends_moreRounds_one rfl

theorem descends_anyNumber (set : CharSet) (cursor : Cursor) :
    Descends ((repetition (one set) 0 none true).ends [cursor]) := by
  change Descends (anyRounds (one set).ends true .empty cursor).toList
  rw [anyRounds, if_pos rfl]
  exact (ascends_firstRound_one set cursor).add.descends

theorem descends_oneOrMore (set : CharSet) (cursor : Cursor) :
    Descends ((repetition (one set) 1 none true).ends [cursor]) :=
  (ascends_firstRound_one set cursor).descends

/-- At every end of a loop but the last one in the text a character of the loop
follows. -/
theorem exists_char_of_loop_leadsTo
    (toFirst : Reading.LeadsTo (repetition (one set) least none greedy).Takes
      cursor first)
    (toSecond : Reading.LeadsTo (repetition (one set) least none greedy).Takes
      cursor second)
    (before : second.position < first.position) :
    ∃ char rest, second.rest = char :: rest ∧ set.mem char = true := by
  obtain ⟨taken, rest, rest_eq, isTaken, rfl⟩ := toFirst
  obtain ⟨otherTaken, otherRest, otherRest_eq, -, rfl⟩ := toSecond
  obtain ⟨more, taken_eq, rfl⟩ : ∃ more, taken = otherTaken ++ more ∧
      otherRest = more ++ rest := by
    rcases List.append_eq_append_iff.mp
      (rest_eq.symm.trans otherRest_eq) with ⟨more, rfl, rfl⟩ | isMore
    · simp only [List.length_append] at before
      omega
    · exact isMore
  cases more with
  | nil => simp [taken_eq] at before
  | cons char more =>
      have isMember : char ∈ taken :=
        taken_eq ▸ List.mem_append_right otherTaken List.mem_cons_self
      exact ⟨char, more ++ rest, rfl, (takes_loop_iff.mp isTaken).2 char isMember⟩

theorem trails_of_loop (stands : cursor.StandsIn text)
    (descends : Descends ((repetition (one set) least none true).ends [cursor])) :
    Trails text set ((repetition (one set) least none true).ends [cursor]) := by
  have follows := @follows_ends (repetition (one set) least none true) rfl text
  refine ⟨follows.keeps.single stands, descends, fun place member => ?_⟩
  cases ends_eq : (repetition (one set) least none true).ends [cursor] with
  | nil =>
      rw [ends_eq] at member
      cases member
  | cons first others =>
      rw [ends_eq] at member descends
      have leadsTo (end_ : Cursor) (isEnd : end_ ∈ first :: others) :=
        (follows.mem_single_iff stands).mp (ends_eq ▸ isEnd)
      exact exists_char_of_loop_leadsTo (leadsTo first List.mem_cons_self)
        (leadsTo place (List.mem_cons_of_mem first member))
        (List.rel_of_pairwise_cons descends member)

theorem leads_anyNumber (set : CharSet) :
    (repetition (one set) 0 none true).Leads .nothing set := by
  intro text cursors trails
  cases cursors with
  | nil =>
      rw [ends_nil]
      exact trails_nil
  | cons cursor others =>
      obtain rfl := trails.eq_nil_of_nothing
      exact trails_of_loop (trails.stand cursor List.mem_cons_self)
        (descends_anyNumber set cursor)

theorem leads_oneOrMore (apart : Apart set other) :
    (repetition (one other) 1 none true).Leads set other := by
  intro text cursors trails
  cases cursors with
  | nil =>
      rw [ends_nil]
      exact trails_nil
  | cons cursor others =>
      have stops : Stops (fun cursor => ∃ char rest, cursor.rest = char :: rest ∧
          set.mem char = true) (one other).ends :=
        fun cursors before =>
          List.flatMap_eq_nil_iff.mpr fun cursor member =>
            advance_eq_nil apart (before cursor member)
      have ends_eq : (repetition (one other) 1 none true).ends (cursor :: others) =
          (repetition (one other) 1 none true).ends [cursor] := by
        change (others.foldl (firstRound (one other).ends true)
          (firstRound (one other).ends true .empty cursor)).toList = _
        rw [stops.foldl_firstRound true _ others trails.before]
        rfl
      rw [ends_eq]
      exact trails_of_loop (trails.stand cursor List.mem_cons_self)
        (descends_oneOrMore other cursor)

end Loops

/-! ### One pattern after another -/

section Sequences

variable {pattern first second : Pattern} {set other last : CharSet}

theorem leads_one (apart : Apart set other) : (one other).Leads set last := by
  intro text cursors trails
  cases cursors with
  | nil => exact trails_nil
  | cons cursor others =>
      have stops : others.flatMap (·.advance other) = [] :=
        List.flatMap_eq_nil_iff.mpr fun cursor member =>
          advance_eq_nil apart (trails.before cursor member)
      rw [ends, List.flatMap_cons, stops, List.append_nil]
      have stand := (follows_one other text).keeps.single
        (trails.stand cursor List.mem_cons_self)
      rw [ends_one_single] at stand
      rcases advance_eq_nil_or_singleton other cursor with ends_eq | ⟨next, -, -, -, -,
        -, ends_eq⟩
      · rw [ends_eq]
        exact trails_nil
      · rw [ends_eq] at stand ⊢
        exact trails_singleton (stand next List.mem_cons_self)

theorem ends_optional (body : Pattern) (cursors : List Cursor) :
    (repetition body 0 (some 1) true).ends cursors =
      distinct (cursors.flatMap fun cursor => body.ends [cursor] ++ [cursor]) := by
  rw [ends]
  rfl

theorem leads_optional_one (set : CharSet) :
    (repetition (one set) 0 (some 1) true).Leads .nothing set := by
  intro text cursors trails
  cases cursors with
  | nil => exact trails_nil
  | cons cursor others =>
      obtain rfl := trails.eq_nil_of_nothing
      have stands := trails.stand cursor List.mem_cons_self
      have stand := (follows_one set text).keeps.single stands
      rw [ends_one_single] at stand
      rw [ends_optional, List.flatMap_singleton, ends_one_single]
      rcases advance_eq_nil_or_singleton set cursor with
        ends_eq | ⟨next, char, rest, rest_eq, isMember, further, ends_eq⟩
      · rw [ends_eq]
        exact trails_singleton stands
      · rw [ends_eq] at stand ⊢
        have descends : Descends [next, cursor] := by
          simp [Descends, further]
        rw [List.singleton_append, distinct_of_descends descends]
        exact ⟨by simpa [stands] using stand, descends, by simpa [rest_eq] using isMember⟩

theorem leads_seq (leads : first.Leads set other) (leadsOn : second.Leads other last) :
    (seq first second).Leads set last := by
  intro text cursors trails
  rw [ends_seq]
  exact leadsOn text _ (leads text cursors trails)

theorem Leads.prefersLonger (leads : pattern.Leads set other) :
    pattern.PrefersLonger set :=
  fun text cursors trails => (leads text cursors trails).descends

theorem prefersLonger_seq (leads : first.Leads set other)
    (prefers : second.PrefersLonger other) : (seq first second).PrefersLonger set := by
  intro text cursors trails
  rw [ends_seq]
  exact prefers text _ (leads text cursors trails)

/-- What an optional pattern adds are ends behind the first place, and nothing at the
other ones, where its matches cannot begin. -/
theorem prefersLonger_optional (direct : pattern.isDirect = true)
    (consumes : pattern.canBeEmpty = false) (prefers : pattern.PrefersLonger .nothing)
    (apart : Apart set pattern.firstChars) :
    (repetition pattern 0 (some 1) true).PrefersLonger set := by
  intro text cursors trails
  cases cursors with
  | nil => exact .nil
  | cons cursor others =>
      have follows := follows_ends direct text
      have nowhere : ∀ other ∈ others, pattern.ends [other] = [] := by
        refine fun other isOther => List.eq_nil_iff_forall_not_mem.mpr
          fun next isNext => ?_
        have stands := trails.stand other (List.mem_cons_of_mem cursor isOther)
        obtain ⟨taken, rest, rest_eq, isTaken, -⟩ :=
          (follows.mem_single_iff stands).mp isNext
        obtain ⟨char, behind, other_eq, isMember⟩ := trails.before other isOther
        obtain ⟨first, more, rfl⟩ := List.exists_cons_of_ne_nil (isTaken.ne_nil consumes)
        obtain ⟨rfl, -⟩ := List.cons.inj (other_eq.symm.trans rest_eq)
        exact Bool.false_ne_true ((apart char isMember).symm.trans isTaken.mem_firstChars)
      have others_eq : (others.flatMap fun other => pattern.ends [other] ++ [other]) =
          others := by
        calc
          _ = others.flatMap fun other => [other] :=
            List.flatMap_congr fun other isOther => by
              rw [nowhere other isOther, List.nil_append]
          _ = others := List.flatMap_singleton' others
      have stands := trails.stand cursor List.mem_cons_self
      have descends : Descends (pattern.ends [cursor] ++ cursor :: others) := by
        refine List.pairwise_append.mpr
          ⟨prefers text [cursor] (trails_singleton stands), trails.descends, ?_⟩
        intro next isNext other isOther
        obtain ⟨taken, rest, -, isTaken, rfl⟩ := (follows.mem_single_iff stands).mp isNext
        have further := List.length_pos_iff.mpr (isTaken.ne_nil consumes)
        have notBehind := trails.descends.position_le isOther
        exact Nat.lt_of_le_of_lt notBehind (Nat.lt_add_of_pos_right further)
      rw [ends_optional, List.flatMap_cons, others_eq, List.append_assoc,
        List.singleton_append, distinct_of_descends descends]
      exact descends

end Sequences

/-- The match that such a pattern prefers is the longest of all texts that it takes. -/
theorem PrefersLonger.length_le {pattern : Pattern} {taken rest : List Char} {count : Nat}
    (prefers : pattern.PrefersLonger .nothing) (direct : pattern.isDirect = true)
    (matched : pattern.matchLength? (taken ++ rest) = some count)
    (isTaken : pattern.Takes none taken rest) : taken.length ≤ count := by
  have stands := Cursor.standsIn_start (taken ++ rest)
  have member := ((follows_ends direct (taken ++ rest)).mem_single_iff stands).mpr
    ⟨taken, rest, rfl, isTaken, rfl⟩
  have descends := prefers _ _ (trails_singleton stands)
  obtain ⟨first, isFirst, rfl⟩ := Option.map_eq_some_iff.mp matched
  obtain ⟨others, ends_eq⟩ := List.head?_eq_some_iff.mp isFirst
  rw [ends_eq] at member descends
  simpa [Cursor.start] using descends.position_le member

end LineLexer.Pattern
