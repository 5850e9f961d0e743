import LineLexer.Proofs.Pattern.FirstChars
import LineLexer.Proofs.Pattern.Search

/-!
# What a pattern takes

Which texts a pattern can match between two places is said here by the pattern alone,
without places, search and preference.  A pattern without waypoints whose loops advance
ends exactly behind the texts that it takes.
-/

namespace LineLexer.Pattern

/-- What can be taken between the character before and the text behind it. -/
abbrev Reading := Option Char → (taken : List Char) → (rest : List Char) → Prop

def Reading.followedBy (first second : Reading) : Reading := fun before taken rest =>
  ∃ front back, taken = front ++ back ∧ first before front (back ++ rest) ∧
    second (front.getLast?.or before) back rest

def Reading.times (reading : Reading) : Nat → Reading
  | 0 => fun _ taken _ => taken = []
  | count + 1 => reading.followedBy (reading.times count)

/-- What a pattern takes. -/
def Takes : Pattern → Reading
  | empty => fun _ taken _ => taken = []
  | waypoint _ => fun _ taken _ => taken = []
  | one set => fun _ taken _ => ∃ char, taken = [char] ∧ set.mem char = true
  | assert assertion => fun before taken rest => taken = [] ∧
      assertion.holds before rest.head? = true
  | seq first second => Reading.followedBy first.Takes second.Takes
  | alt first second => fun before taken rest => first.Takes before taken rest ∨
      second.Takes before taken rest
  | repetition body least most _ => fun before taken rest =>
      ∃ count, least ≤ count ∧ (∀ bound, most = some bound → count ≤ bound) ∧
        Reading.times body.Takes count before taken rest

/-- Whether a pattern has no waypoints, no loop whose rounds may consume nothing, and no
bounds that exclude each other. -/
def isDirect : Pattern → Bool
  | empty => true
  | waypoint _ => false
  | one _ => true
  | assert _ => true
  | seq first second => first.isDirect && second.isDirect
  | alt first second => first.isDirect && second.isDirect
  | repetition body least (some most) _ => body.isDirect && decide (least ≤ most)
  | repetition body _ none _ => body.isDirect && !body.canBeEmpty

section Readings

variable {reading first second : Reading} {cursor next : Cursor} {text : List Char}
  {count : Nat}

/-- A reading leads from a cursor to the places behind the texts that it takes. -/
def Reading.LeadsTo (reading : Reading) (cursor next : Cursor) : Prop :=
  ∃ taken rest, cursor.rest = taken ++ rest ∧ reading cursor.before taken rest ∧
    next = ⟨cursor.position + taken.length, taken.getLast?.or cursor.before, rest, []⟩

theorem Reading.LeadsTo.stands (stands : cursor.StandsIn text)
    (leadsTo : reading.LeadsTo cursor next) : next.StandsIn text := by
  obtain ⟨taken, rest, rest_eq, -, rfl⟩ := leadsTo
  obtain ⟨front, _, rfl, rfl⟩ := stands
  obtain rfl : _ = taken ++ rest := rest_eq
  refine ⟨front ++ taken, rest, (List.append_assoc _ _ _).symm, ?_⟩
  rw [List.length_append, List.getLast?_append]

theorem followedBy_leadsTo_iff :
    (first.followedBy second).LeadsTo cursor next ↔
      ∃ middle, first.LeadsTo cursor middle ∧ second.LeadsTo middle next := by
  constructor
  · rintro ⟨_, rest, rest_eq, ⟨front, back, rfl, isFront, isBack⟩, rfl⟩
    refine ⟨_, ⟨front, back ++ rest, by rw [rest_eq, List.append_assoc], isFront, rfl⟩,
      back, rest, rfl, isBack, ?_⟩
    simp only [List.length_append, List.getLast?_append, Option.or_assoc, Nat.add_assoc]
  · rintro ⟨_, ⟨front, _, rest_eq, isFront, rfl⟩, back, rest, rfl, isBack, rfl⟩
    refine ⟨front ++ back, rest, by rw [rest_eq, List.append_assoc],
      ⟨front, back, rfl, isFront, isBack⟩, ?_⟩
    simp only [List.length_append, List.getLast?_append, Option.or_assoc, Nat.add_assoc]

theorem either_leadsTo_iff :
    Reading.LeadsTo (fun before taken rest => first before taken rest ∨
      second before taken rest) cursor next ↔
      first.LeadsTo cursor next ∨ second.LeadsTo cursor next := by
  constructor
  · rintro ⟨taken, rest, rest_eq, isTaken | isTaken, rfl⟩
    · exact .inl ⟨taken, rest, rest_eq, isTaken, rfl⟩
    · exact .inr ⟨taken, rest, rest_eq, isTaken, rfl⟩
  · rintro (⟨taken, rest, rest_eq, isTaken, rfl⟩ | ⟨taken, rest, rest_eq, isTaken, rfl⟩)
    · exact ⟨taken, rest, rest_eq, .inl isTaken, rfl⟩
    · exact ⟨taken, rest, rest_eq, .inr isTaken, rfl⟩

theorem nothing_leadsTo_iff (cleared : cursor.passed = []) :
    Reading.LeadsTo (fun _ taken _ => taken = []) cursor next ↔ next = cursor := by
  obtain ⟨position, before, rest, passed⟩ := cursor
  obtain rfl : passed = [] := cleared
  constructor
  · rintro ⟨_, _, rfl, rfl, rfl⟩
    rfl
  · rintro rfl
    exact ⟨[], rest, rfl, rfl, rfl⟩

theorem times_leadsTo_iff (cleared : cursor.passed = []) :
    (reading.times count).LeadsTo cursor next ↔
    Rounds reading.LeadsTo count cursor next := by
  induction count generalizing cursor with
  | zero => rw [rounds_zero_iff, ← nothing_leadsTo_iff cleared, Reading.times]
  | succ count ih =>
      rw [Reading.times, followedBy_leadsTo_iff]
      have passed_eq {middle : Cursor} (first : reading.LeadsTo cursor middle) :
          middle.passed = [] := by
        obtain ⟨_, _, -, -, rfl⟩ := first
        rfl
      constructor
      · rintro ⟨middle, first, others⟩
        exact .more first ((ih (passed_eq first)).mp others)
      · rintro (_ | ⟨first, others⟩)
        exact ⟨_, first, (ih (passed_eq first)).mpr others⟩

theorem repetition_leadsTo_iff {body : Pattern} {least : Nat} {most : Option Nat}
    {greedy : Bool} (cleared : cursor.passed = []) :
    Reading.LeadsTo (repetition body least most greedy).Takes cursor next ↔
      ∃ count, least ≤ count ∧ (∀ bound, most = some bound → count ≤ bound) ∧
        Rounds (Reading.LeadsTo body.Takes) count cursor next := by
  simp only [← times_leadsTo_iff cleared]
  constructor
  · rintro ⟨taken, rest, rest_eq, ⟨count, enough, bounded, isTaken⟩, rfl⟩
    exact ⟨count, enough, bounded, taken, rest, rest_eq, isTaken, rfl⟩
  · rintro ⟨count, enough, bounded, taken, rest, rest_eq, isTaken, rfl⟩
    exact ⟨taken, rest, rest_eq, ⟨count, enough, bounded, isTaken⟩, rfl⟩

end Readings

section Ends

variable {text taken rest : List Char} {before : Option Char} {pattern : Pattern}
  {count : Nat}

theorem Takes.ne_nil (consumes : pattern.canBeEmpty = false)
    (takes : pattern.Takes before taken rest) : taken ≠ [] := by
  induction pattern generalizing before taken rest with
  | empty => cases consumes
  | waypoint label => cases consumes
  | one set =>
      obtain ⟨char, rfl, -⟩ := takes
      exact List.cons_ne_nil _ _
  | assert assertion => cases consumes
  | seq first second firstIH secondIH =>
      obtain ⟨front, back, rfl, isFront, isBack⟩ := takes
      rw [canBeEmpty, Bool.and_eq_false_iff] at consumes
      rcases consumes with consumes | consumes
      · exact List.append_ne_nil_of_left_ne_nil (firstIH consumes isFront) _
      · exact List.append_ne_nil_of_right_ne_nil _ (secondIH consumes isBack)
  | alt first second firstIH secondIH =>
      rw [canBeEmpty, Bool.or_eq_false_iff] at consumes
      exact takes.elim (firstIH consumes.1) (secondIH consumes.2)
  | repetition body least most greedy ih =>
      rw [canBeEmpty, Bool.or_eq_false_iff] at consumes
      obtain ⟨_ | count, enough, -, times⟩ := takes
      · simp [Nat.le_zero.mp enough] at consumes
      · obtain ⟨front, back, rfl, isFront, -⟩ := times
        exact List.append_ne_nil_of_left_ne_nil (ih consumes.2 isFront) _

/-- A text that a pattern takes begins with one of its first characters. -/
theorem Takes.mem_firstChars {char : Char}
    (takes : pattern.Takes before (char :: taken) rest) :
    pattern.firstChars.mem char = true := by
  induction pattern generalizing before taken rest with
  | empty => cases takes
  | waypoint label => cases takes
  | one set =>
      obtain ⟨other, same, isMember⟩ := takes
      obtain ⟨rfl, -⟩ := List.cons.inj same
      exact isMember
  | assert assertion => cases takes.1
  | seq first second firstIH secondIH =>
      obtain ⟨front, back, same, isFront, isBack⟩ := takes
      cases front with
      | nil =>
          have isEmpty : first.canBeEmpty = true :=
            (Bool.not_eq_false _).mp fun consumes => isFront.ne_nil consumes rfl
          rw [firstChars, if_pos isEmpty, CharSet.mem, Bool.or_eq_true]
          rw [List.nil_append] at same
          exact .inr (secondIH (same ▸ isBack))
      | cons other front =>
          obtain ⟨rfl, -⟩ := List.cons.inj same
          have isMember := firstIH isFront
          rw [firstChars]
          split
          · rw [CharSet.mem, isMember, Bool.true_or]
          · exact isMember
  | alt first second firstIH secondIH =>
      rw [firstChars, CharSet.mem, Bool.or_eq_true]
      exact takes.imp firstIH secondIH
  | repetition body least most greedy ih =>
      obtain ⟨count, -, -, times⟩ := takes
      induction count generalizing before with
      | zero => cases times
      | succ count countIH =>
          obtain ⟨front, back, same, isFront, others⟩ := times
          cases front with
          | nil =>
              rw [List.nil_append] at same
              exact countIH (same ▸ others)
          | cons other front =>
              obtain ⟨rfl, -⟩ := List.cons.inj same
              exact ih isFront

theorem follows_one (set : CharSet) (text : List Char) :
    Follows text (Reading.LeadsTo (one set).Takes) (one set).ends where
  stands cursor next stands leadsTo := leadsTo.stands stands
  mem_iff cursors stand next := by
    rw [ends, List.mem_flatMap]
    refine exists_congr fun cursor => and_congr_right fun _ => ?_
    rw [Cursor.advance]
    constructor
    · intro member
      split at member
      · cases member
      · rename_i char rest rest_eq
        split at member
        · rename_i isMember
          obtain rfl := List.mem_singleton.mp member
          exact ⟨[char], rest, rest_eq, ⟨char, rfl, isMember⟩, rfl⟩
        · cases member
    · rintro ⟨_, rest, rest_eq, ⟨char, rfl, isMember⟩, rfl⟩
      rw [rest_eq]
      simp [isMember]

/-- A pattern ends exactly behind the texts that it takes. -/
theorem follows_empty (text : List Char) :
    Follows text (Reading.LeadsTo empty.Takes) empty.ends := by
  refine ⟨fun cursors stand next => ?_, fun cursor next stands leadsTo =>
    leadsTo.stands stands⟩
  have starts_iff : next ∈ cursors ↔ ∃ cursor ∈ cursors, next = cursor := by simp
  rw [ends, starts_iff]
  exact exists_congr fun cursor => and_congr_right fun isStart =>
    (nothing_leadsTo_iff (stand cursor isStart).passed_eq).symm

theorem follows_assert (assertion : Assertion) (text : List Char) :
    Follows text (Reading.LeadsTo (assert assertion).Takes) (assert assertion).ends := by
  refine ⟨fun cursors stand next => ?_, fun cursor next stands leadsTo =>
    leadsTo.stands stands⟩
  rw [ends, List.mem_filter]
  constructor
  · rintro ⟨isStart, holds⟩
    obtain ⟨front, rest, -, rfl⟩ := stand next isStart
    exact ⟨_, isStart, [], rest, rfl, ⟨rfl, holds⟩, rfl⟩
  · rintro ⟨cursor, isStart, _, rest, rest_eq, ⟨rfl, holds⟩, rfl⟩
    obtain ⟨front, _, -, rfl⟩ := stand cursor isStart
    obtain rfl : _ = rest := rest_eq
    exact ⟨isStart, holds⟩

theorem follows_ends (direct : pattern.isDirect = true) (text : List Char) :
    Follows text (Reading.LeadsTo pattern.Takes) pattern.ends := by
  induction pattern with
  | waypoint label => cases direct
  | one set => exact follows_one set text
  | empty => exact follows_empty text
  | assert assertion => exact follows_assert assertion text
  | seq first second firstIH secondIH =>
      rw [isDirect, Bool.and_eq_true] at direct
      have follows := (firstIH direct.1).after (secondIH direct.2)
      simp only [← followedBy_leadsTo_iff] at follows
      exact follows
  | alt first second firstIH secondIH =>
      rw [isDirect, Bool.and_eq_true] at direct
      have follows := (firstIH direct.1).either (secondIH direct.2)
      simp only [← either_leadsTo_iff] at follows
      exact follows
  | repetition body least most greedy ih =>
      have ends_eq : (repetition body least most greedy).ends =
          repeated body.ends greedy least most := by
        funext cursors
        rw [ends]
      refine Follows.congr (fun cursor next stands =>
        (repetition_leadsTo_iff stands.passed_eq).symm) ?_
      rw [ends_eq]
      cases most with
      | some most =>
          rw [isDirect, Bool.and_eq_true, decide_eq_true_eq] at direct
          simpa using (ih direct.1).repeated_bounded greedy direct.2
      | none =>
          rw [isDirect, Bool.and_eq_true, Bool.not_eq_true'] at direct
          have advances (cursor next : Cursor)
              (leadsTo : Reading.LeadsTo body.Takes cursor next) :
              cursor.position < next.position := by
            obtain ⟨taken, rest, -, isTaken, rfl⟩ := leadsTo
            exact Nat.lt_add_of_pos_right
              (List.length_pos_iff.mpr (isTaken.ne_nil direct.2))
          simpa using (ih direct.1).repeated_unbounded advances greedy least

/-- A match is one of the texts that the pattern takes. -/
theorem exists_takes_of_matchLength? (direct : pattern.isDirect = true)
    (matched : pattern.matchLength? text = some count) :
    ∃ taken rest, text = taken ++ rest ∧ taken.length = count ∧
    pattern.Takes none taken rest := by
  obtain ⟨next, isFirst, rfl⟩ := Option.map_eq_some_iff.mp matched
  obtain ⟨taken, rest, text_eq, isTaken, rfl⟩ :=
    ((follows_ends direct text).mem_single_iff (Cursor.standsIn_start text)).mp
      (List.mem_of_head? isFirst)
  exact ⟨taken, rest, text_eq, (Nat.zero_add _).symm, isTaken⟩

/-- A pattern that has to consume something does not match the empty text. -/
theorem matchLength?_ne_some_zero (direct : pattern.isDirect = true)
    (consumes : pattern.canBeEmpty = false) : pattern.matchLength? text ≠ some 0 := by
  intro matched
  obtain ⟨taken, rest, -, isEmpty, isTaken⟩ := exists_takes_of_matchLength? direct matched
  exact isTaken.ne_nil consumes (List.length_eq_zero_iff.mp isEmpty)

theorem matchLength?_eq_none_of_not_mem_firstChars {char : Char}
    (direct : pattern.isDirect = true) (consumes : pattern.canBeEmpty = false)
    (notFirst : pattern.firstChars.mem char = false) :
    pattern.matchLength? (char :: rest) = none := by
  cases matched : pattern.matchLength? (char :: rest) with
  | none => rfl
  | some count =>
      obtain rfl := matchLength?_of_not_mem_firstChars notFirst matched
      exact absurd matched (matchLength?_ne_some_zero direct consumes)

theorem exists_matchLength?_of_takes (direct : pattern.isDirect = true)
    (isTaken : pattern.Takes none taken rest) :
    ∃ count, pattern.matchLength? (taken ++ rest) = some count := by
  have member :=
    ((follows_ends direct (taken ++ rest)).mem_single_iff (Cursor.standsIn_start _)).mpr
      ⟨taken, rest, rfl, isTaken, rfl⟩
  obtain ⟨first, isFirst⟩ := Option.ne_none_iff_exists'.mp fun isNone =>
    List.ne_nil_of_mem member (List.head?_eq_none_iff.mp isNone)
  exact ⟨first.position, congrArg (Option.map Cursor.position) isFirst⟩

theorem matchLength?_eq_none_iff (direct : pattern.isDirect = true) :
    pattern.matchLength? text = none ↔
      ∀ taken rest, text = taken ++ rest → ¬ pattern.Takes none taken rest := by
  constructor
  · rintro isNone taken rest rfl isTaken
    obtain ⟨count, matched⟩ := exists_matchLength?_of_takes direct isTaken
    rw [isNone] at matched
    cases matched
  · intro never
    cases matched : pattern.matchLength? text with
    | none => rfl
    | some count =>
        obtain ⟨taken, rest, text_eq, -, isTaken⟩ :=
          exists_takes_of_matchLength? direct matched
        exact absurd isTaken (never taken rest text_eq)

/-- Where all texts that a pattern takes have one length, this is the length of the
match. -/
theorem matchLength?_eq_some_of_takes (direct : pattern.isDirect = true)
    (isTaken : pattern.Takes none taken rest)
    (only : ∀ other otherRest, taken ++ rest = other ++ otherRest →
      pattern.Takes none other otherRest → other.length = taken.length) :
    pattern.matchLength? (taken ++ rest) = some taken.length := by
  obtain ⟨count, matched⟩ := exists_matchLength?_of_takes direct isTaken
  obtain ⟨other, otherRest, text_eq, rfl, isOther⟩ :=
    exists_takes_of_matchLength? direct matched
  rw [matched, only other otherRest text_eq isOther]

end Ends

/-! ### Common patterns -/

section Common

variable {set : CharSet} {body pattern : Pattern} {least : Nat} {greedy : Bool}
  {before : Option Char} {taken rest : List Char}

theorem times_one_iff {count : Nat} :
    Reading.times (one set).Takes count before taken rest ↔
      taken.length = count ∧ ∀ char ∈ taken, set.mem char = true := by
  induction count generalizing before taken with
  | zero =>
      rw [List.length_eq_zero_iff]
      exact ⟨fun isEmpty => ⟨isEmpty, isEmpty ▸ by simp⟩, And.left⟩
  | succ count ih =>
      constructor
      · rintro ⟨_, back, rfl, ⟨char, rfl, isMember⟩, others⟩
        obtain ⟨rfl, areMembers⟩ := ih.mp others
        exact ⟨rfl, List.forall_mem_cons.mpr ⟨isMember, areMembers⟩⟩
      · rintro ⟨length_eq, areMembers⟩
        obtain ⟨char, back, rfl⟩ := List.exists_cons_of_length_eq_add_one length_eq
        obtain ⟨isMember, areMembers⟩ := List.forall_mem_cons.mp areMembers
        exact ⟨[char], back, rfl, ⟨char, rfl, isMember⟩,
          ih.mpr ⟨Nat.succ.inj length_eq, areMembers⟩⟩

@[simp]
theorem takes_loop_iff :
    (repetition (one set) least none greedy).Takes before taken rest ↔
      least ≤ taken.length ∧ ∀ char ∈ taken, set.mem char = true := by
  constructor
  · rintro ⟨_, enough, -, times⟩
    obtain ⟨rfl, areMembers⟩ := times_one_iff.mp times
    exact ⟨enough, areMembers⟩
  · rintro ⟨enough, areMembers⟩
    exact ⟨taken.length, enough, by simp, times_one_iff.mpr ⟨rfl, areMembers⟩⟩

@[simp]
theorem takes_optional_iff :
    (repetition body 0 (some 1) greedy).Takes before taken rest ↔
    taken = [] ∨ body.Takes before taken rest := by
  constructor
  · rintro ⟨_ | _ | count, -, bounded, times⟩
    · exact .inl times
    · obtain ⟨front, _, rfl, isFront, rfl⟩ := times
      rw [List.append_nil]
      exact .inr isFront
    · have := bounded 1 rfl
      omega
  · rintro (rfl | isTaken)
    · exact ⟨0, Nat.le_refl 0, by simp, rfl⟩
    · exact ⟨1, Nat.zero_le 1, by simp, taken, [], by simp, isTaken, rfl⟩

@[simp]
theorem takes_one_iff : (one set).Takes before taken rest ↔ ∃ char, taken = [char] ∧
    set.mem char = true :=
  Iff.rfl

theorem takes_seq_iff {other : Pattern} :
    (seq pattern other).Takes before taken rest ↔ ∃ front back, taken = front ++ back ∧
      pattern.Takes before front (back ++ rest) ∧
      other.Takes (front.getLast?.or before) back rest :=
  Iff.rfl

@[simp]
theorem takes_one_seq_iff :
    (seq (one set) pattern).Takes before taken rest ↔
      ∃ char others, taken = char :: others ∧ set.mem char = true ∧
      pattern.Takes (some char) others rest := by
  constructor
  · rintro ⟨_, others, rfl, ⟨char, rfl, isMember⟩, isTaken⟩
    exact ⟨char, others, rfl, isMember, isTaken⟩
  · rintro ⟨char, others, rfl, isMember, isTaken⟩
    exact ⟨[char], others, rfl, ⟨char, rfl, isMember⟩, isTaken⟩

/-- Whether one of the sets of a pattern has a character. -/
def admits : Pattern → Char → Bool
  | empty, _ => false
  | waypoint _, _ => false
  | one set, char => set.mem char
  | assert _, _ => false
  | seq first second, char => first.admits char || second.admits char
  | alt first second, char => first.admits char || second.admits char
  | repetition body _ _ _, char => body.admits char

/-- A character that no set of a pattern has is in no text that the pattern takes. -/
theorem Takes.notMem {char : Char} (isTaken : pattern.Takes before taken rest)
    (absent : pattern.admits char = false) : char ∉ taken := by
  induction pattern generalizing before taken rest with
  | empty =>
      obtain rfl : taken = [] := isTaken
      exact List.not_mem_nil
  | waypoint label =>
      obtain rfl : taken = [] := isTaken
      exact List.not_mem_nil
  | one set =>
      obtain ⟨other, rfl, isMember⟩ := isTaken
      rintro member
      obtain rfl := List.mem_singleton.mp member
      exact Bool.false_ne_true (absent.symm.trans isMember)
  | assert assertion =>
      obtain ⟨rfl, -⟩ := isTaken
      exact List.not_mem_nil
  | seq first second firstIH secondIH =>
      obtain ⟨front, back, rfl, isFront, isBack⟩ := isTaken
      rw [admits, Bool.or_eq_false_iff] at absent
      rw [List.mem_append, not_or]
      exact ⟨firstIH isFront absent.1, secondIH isBack absent.2⟩
  | alt first second firstIH secondIH =>
      rw [admits, Bool.or_eq_false_iff] at absent
      rcases isTaken with isTaken | isTaken
      · exact firstIH isTaken absent.1
      · exact secondIH isTaken absent.2
  | repetition body least most greedy ih =>
      obtain ⟨count, -, -, times⟩ := isTaken
      induction count generalizing before taken with
      | zero =>
          obtain rfl : taken = [] := times
          exact List.not_mem_nil
      | succ count countIH =>
          obtain ⟨front, back, rfl, isFront, others⟩ := times
          rw [List.mem_append, not_or]
          exact ⟨ih isFront absent, countIH others⟩

end Common

end LineLexer.Pattern
