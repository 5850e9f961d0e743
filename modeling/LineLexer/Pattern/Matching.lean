import LineLexer.Pattern.Basic
import Std.Data.TreeMap

/-!
# Matching

A pattern that starts at a cursor can end at several places.  `Pattern.ends` takes the
places where the pattern may start and lists those where it may end, both in order of
preference and each place once: what follows the pattern sees only where it ended, so a
second way to the same place never leads to anything new.  This keeps the lists as short
as the text and matching free of backtracking, and one pattern after another is one
function after another.

A repetition does not go on after a round that consumed nothing.  A first round may be
empty, and then the repetition ends there; a later round that is empty leads nowhere.
Which choices such a round still has is the matter of the waypoints in the pattern.
-/

namespace LineLexer.Pattern

/-- A place in a text: how many characters lie before it, the last of them, and what
follows; and the waypoints that have been passed since the last character. -/
structure Cursor where
  position : Nat
  before : Option Char
  rest : List Char
  passed : List Nat := []
  deriving DecidableEq, Repr

namespace Cursor

/-- The cursor at the start of a text. -/
def start (text : List Char) : Cursor :=
  { position := 0, before := none, rest := text }

/-- The cursor after one character of the set, if such a character follows. -/
def advance (cursor : Cursor) (set : CharSet) : List Cursor :=
  match cursor.rest with
  | [] => []
  | char :: rest =>
      if set.mem char then
        [{ position := cursor.position + 1, before := some char, rest := rest }]
      else []

/-- The same place after a waypoint, if the waypoint has not been passed there. -/
def pass (cursor : Cursor) (label : Nat) : List Cursor :=
  if cursor.passed.contains label then []
  else [{ cursor with passed := label :: cursor.passed }]

/-- Whether a list of cursors of one text holds this place. -/
def isIn (cursor : Cursor) (cursors : List Cursor) : Bool :=
  cursors.any (·.position == cursor.position)

end Cursor

/-- Different places of one text that have been found one after the other, the last one
first, with a bit set at the position of each, so that it is quickly seen whether a place
has been found. -/
structure Places where
  reversed : List Cursor
  mask : Nat
  testBit_mask : ∀ position, mask.testBit position = reversed.any (·.position == position)

namespace Places

def empty : Places :=
  ⟨[], 0, by simp⟩

/-- The places in the order in which they were found. -/
def toList (places : Places) : List Cursor :=
  places.reversed.reverse

/-- Whether a place has been found. -/
def has (places : Places) (cursor : Cursor) : Bool :=
  places.mask.testBit cursor.position

theorem has_eq_isIn (places : Places) (cursor : Cursor) :
    places.has cursor = cursor.isIn places.reversed :=
  places.testBit_mask cursor.position

/-- Adds a place unless it has been found before. -/
def add (places : Places) (cursor : Cursor) : Places :=
  if places.has cursor then places
  else
    { reversed := cursor :: places.reversed
      mask := places.mask ||| 1 <<< cursor.position
      testBit_mask := fun position => by
        rw [List.any_cons, ← places.testBit_mask, Nat.testBit_or, Nat.one_shiftLeft,
          Nat.testBit_two_pow, Bool.or_comm]
        rfl }

theorem reversed_add (places : Places) (cursor : Cursor) :
    (places.add cursor).reversed =
      if cursor.isIn places.reversed then places.reversed
      else cursor :: places.reversed := by
  rw [add, has_eq_isIn]
  split <;> rfl

end Places

/-- The cursors of a list without repeated places; of each place the first cursor
stays. -/
def distinct : List Cursor → List Cursor
  | [] => []
  | [cursor] => [cursor]
  | cursors => (cursors.foldl Places.add .empty).toList

/-- The places after exactly `count` rounds from the given places. -/
def rounds (body : List Cursor → List Cursor) : Nat → List Cursor → List Cursor
  | 0, cursors => cursors
  | _ + 1, [] => []
  | count + 1, cursors => rounds body count (body cursors)

/-- Adds to `found` the places that any number of further rounds reach from `cursor`, each
round consuming something.  The places in `found` have been followed already.  At most as
many rounds are possible as `room` has characters, which are those after the cursor. -/
def moreRounds (body : List Cursor → List Cursor) (greedy : Bool) :
    (room : List Char) → (found : Places) → Cursor → Places
  | [], found, cursor => found.add cursor
  | _ :: room, found, cursor =>
      if found.has cursor then found
      else
        let follow := fun found next =>
          if next.position = cursor.position then found
          else moreRounds body greedy room found next
        if greedy then ((body [cursor]).foldl follow found).add cursor
        else (body [cursor]).foldl follow (found.add cursor)

/-- Adds to `found` the places after one or more rounds from `cursor`. -/
def firstRound (body : List Cursor → List Cursor) (greedy : Bool) (found : Places)
    (cursor : Cursor) : Places :=
  (body [cursor]).foldl
    (fun found next =>
      if next.position = cursor.position then found.add next
      else moreRounds body greedy next.rest found next)
    found

/-- Adds to `found` the places after any number of rounds from `cursor`. -/
def anyRounds (body : List Cursor → List Cursor) (greedy : Bool) (found : Places)
    (cursor : Cursor) : Places :=
  if greedy then (firstRound body greedy found cursor).add cursor
  else firstRound body greedy (found.add cursor) cursor

/-- The places after one round or none from `cursor`. -/
def optionalRound (body : List Cursor → List Cursor) (greedy : Bool)
    (cursor : Cursor) : List Cursor :=
  if greedy then body [cursor] ++ [cursor] else cursor :: body [cursor]

/-- What a repetition with a bound on its rounds has found so far.  `followed` has the
positions of the places that have been followed to the end, with the greatest number of
rounds that were left at each. -/
structure Search where
  found : Places
  followed : Std.TreeMap Nat Nat

namespace Search

/-- Whether a place has been followed with at least so many rounds left. -/
def covers (search : Search) (left : Nat) (cursor : Cursor) : Bool :=
  match search.followed.get? cursor.position with
  | some most => left ≤ most
  | none => false

def add (search : Search) (cursor : Cursor) : Search :=
  { search with found := search.found.add cursor }

/-- Notes that a place has been followed with more rounds left than ever before. -/
def close (search : Search) (left : Nat) (cursor : Cursor) : Search :=
  { search with followed := search.followed.insert cursor.position left }

end Search

/-- Adds to what has been found the places that up to `left` further rounds reach from
`cursor`. -/
def upToRounds (body : List Cursor → List Cursor) (greedy : Bool) :
    (left : Nat) → Search → Cursor → Search
  | 0, search, cursor => search.add cursor
  | left + 1, search, cursor =>
      if search.covers (left + 1) cursor then search
      else
        let follow := upToRounds body greedy left
        let search :=
          if greedy then ((body [cursor]).foldl follow search).add cursor
          else (body [cursor]).foldl follow (search.add cursor)
        search.close (left + 1) cursor

/-- The places after at most `most` rounds from the given places. -/
def atMost (body : List Cursor → List Cursor) (greedy : Bool) :
    (most : Nat) → List Cursor → List Cursor
  | 0, cursors => cursors
  | 1, cursors => distinct (cursors.flatMap (optionalRound body greedy))
  | most, cursors =>
      (cursors.foldl (upToRounds body greedy most) ⟨.empty, ∅⟩).found.toList

/-- The places after at least `least` and, if there is a `most`, at most `most` rounds
from the given places. -/
def repeated (body : List Cursor → List Cursor) (greedy : Bool) :
    (least : Nat) → (most : Option Nat) → List Cursor → List Cursor
  | least, some most, cursors =>
      atMost body greedy (most - least) (rounds body least cursors)
  | 0, none, cursors => (cursors.foldl (anyRounds body greedy) .empty).toList
  | least + 1, none, cursors =>
      ((rounds body least cursors).foldl (firstRound body greedy) .empty).toList

/-- The places where a match that starts at one of the given places can end, the preferred
ones first. -/
def ends : Pattern → List Cursor → List Cursor
  | empty, cursors => cursors
  | waypoint label, cursors => cursors.flatMap fun cursor => cursor.pass label
  | one set, cursors => cursors.flatMap fun cursor => cursor.advance set
  | assert assertion, cursors =>
      cursors.filter fun cursor => assertion.holds cursor.before cursor.rest.head?
  | seq first second, cursors => ends second (ends first cursors)
  | alt first second, cursors =>
      distinct (cursors.flatMap fun cursor => ends first [cursor] ++ ends second [cursor])
  | repetition body least most greedy, cursors =>
      repeated (fun cursors => ends body cursors) greedy least most cursors

/-- The number of characters that the preferred match at the start of a text consumes. -/
def matchLength? (pattern : Pattern) (text : List Char) : Option Nat :=
  (pattern.ends [.start text]).head?.map Cursor.position

end LineLexer.Pattern
