import LineLexer.Proofs.Pattern.Recasing
import LineLexer.Proofs.Pattern.Remainders

/-!
# Patterns that are read without regard to case

Where case is ignored, reading a pattern gives sets that are closed under case: characters
and bracket expressions are closed as they are read, and the named sets are closed by
themselves.  Only a group that turns the flag off can bring in other sets.  So a pattern
that has no such group anywhere in its text ignores case.
-/

namespace LineLexer.Pattern

namespace CharSet

variable {left right set : CharSet}

theorem IsCaseClosed.union (isLeft : left.IsCaseClosed) (isRight : right.IsCaseClosed) :
    (union left right).IsCaseClosed := fun char => by
  rw [mem, isLeft char, isRight char, mem]

theorem IsCaseClosed.compl (isClosed : set.IsCaseClosed) :
    set.compl.IsCaseClosed := fun char => by
  rw [mem, isClosed char, mem]

end CharSet

section Elements

variable {flags : Flags} {set : CharSet}

end Elements

namespace Bracket

variable {flags : Flags}

end Bracket

section Pieces

def Item.IsCaseClosed (item : Item) : Prop :=
  ∀ pattern, item.pattern? = some pattern → pattern.IsCaseClosed

end Pieces

def GroupHead.flags : GroupHead → Flags
  | setting flags => flags
  | opening flags _ => flags

section Alternatives

variable {room : Nat} {flags flagsNow : Flags} {branches branchesNow : List Piece}
  {items itemsNow : List Item} {text left rest : List Char} {piece : Piece}

end Alternatives

section Waypoints

/-- Whatever waypoints are in use, the pattern that is built is closed under case. -/
def BuildsCaseClosed (build : StateM Nat Pattern) : Prop :=
  ∀ used, (build.run used).1.IsCaseClosed

theorem buildsCaseClosed_pure {pattern : Pattern} (isClosed : pattern.IsCaseClosed) :
    BuildsCaseClosed (pure pattern) :=
  fun _ => isClosed

theorem BuildsCaseClosed.bind {first : StateM Nat Pattern}
    {next : Pattern → StateM Nat Pattern} (isFirst : BuildsCaseClosed first)
    (isNext : ∀ pattern, pattern.IsCaseClosed → BuildsCaseClosed (next pattern)) :
    BuildsCaseClosed (first >>= next) :=
  fun used => isNext _ (isFirst used) _

theorem buildsCaseClosed_newWaypoint : BuildsCaseClosed newWaypoint :=
  fun _ => trivial

variable {body : StateM Nat Pattern}

theorem BuildsCaseClosed.copies (isClosed : BuildsCaseClosed body) (count : Nat) :
    BuildsCaseClosed (copies body count) := by
  induction count with
  | zero => exact buildsCaseClosed_pure trivial
  | succ count ih =>
      exact isClosed.bind fun first firstClosed => ih.bind fun others othersClosed =>
        buildsCaseClosed_pure ⟨firstClosed, othersClosed⟩

theorem BuildsCaseClosed.optionally (isClosed : BuildsCaseClosed body) (greedy : Bool) :
    BuildsCaseClosed (optionally greedy body) := by
  refine buildsCaseClosed_newWaypoint.bind fun point pointClosed =>
    isClosed.bind fun pattern patternClosed => buildsCaseClosed_pure ⟨pointClosed, ?_⟩
  cases greedy with
  | true => exact ⟨patternClosed, trivial⟩
  | false => exact ⟨trivial, patternClosed⟩

theorem BuildsCaseClosed.optionalCopies (isClosed : BuildsCaseClosed body) (greedy : Bool)
    (count : Nat) : BuildsCaseClosed (optionalCopies greedy body count) := by
  induction count with
  | zero => exact buildsCaseClosed_pure trivial
  | succ count ih =>
      refine BuildsCaseClosed.optionally ?_ greedy
      exact isClosed.bind fun first firstClosed => ih.bind fun others othersClosed =>
        buildsCaseClosed_pure ⟨firstClosed, othersClosed⟩

theorem BuildsCaseClosed.loop (isClosed : BuildsCaseClosed body) (greedy : Bool) :
    BuildsCaseClosed (loop greedy body) :=
  isClosed.bind fun _ patternClosed =>
    buildsCaseClosed_newWaypoint.bind fun _ pointClosed =>
    buildsCaseClosed_pure ⟨patternClosed, pointClosed⟩

theorem IsCaseClosed.withWaypoints {pattern : Pattern} (isClosed : pattern.IsCaseClosed) :
    BuildsCaseClosed pattern.withWaypoints := by
  induction pattern with
  | empty => exact buildsCaseClosed_pure trivial
  | waypoint label => exact buildsCaseClosed_pure trivial
  | one set => exact buildsCaseClosed_pure isClosed
  | assert assertion => exact buildsCaseClosed_pure trivial
  | seq first second firstIH secondIH =>
      exact (firstIH isClosed.1).bind fun _ firstClosed =>
        (secondIH isClosed.2).bind fun _ secondClosed =>
          buildsCaseClosed_pure ⟨firstClosed, secondClosed⟩
  | alt first second firstIH secondIH =>
      exact buildsCaseClosed_newWaypoint.bind fun _ pointClosed =>
        (firstIH isClosed.1).bind fun _ firstClosed =>
          (secondIH isClosed.2).bind fun _ secondClosed =>
            buildsCaseClosed_pure ⟨pointClosed, firstClosed, secondClosed⟩
  | repetition body least most greedy ih =>
      have bodyClosed := ih isClosed
      match least, most with
      | least, some most =>
          exact (bodyClosed.copies least).bind fun _ requiredClosed =>
            (bodyClosed.optionalCopies greedy (most - least)).bind fun _ othersClosed =>
              buildsCaseClosed_pure ⟨requiredClosed, othersClosed⟩
      | 0, none =>
          rw [Pattern.withWaypoints]
          split
          · exact (bodyClosed.loop greedy).optionally greedy
          · exact buildsCaseClosed_newWaypoint.bind fun _ pointClosed =>
              bodyClosed.bind fun _ patternClosed =>
                buildsCaseClosed_pure ⟨pointClosed, patternClosed, pointClosed⟩
      | least + 1, none =>
          exact (bodyClosed.copies least).bind fun _ requiredClosed =>
            (bodyClosed.loop greedy).bind fun _ loopClosed =>
              buildsCaseClosed_pure ⟨requiredClosed, loopClosed⟩

theorem IsCaseClosed.settled {pattern : Pattern} (isClosed : pattern.IsCaseClosed) :
    pattern.settled.IsCaseClosed := by
  rw [Pattern.settled]
  split
  · exact isClosed
  · exact isClosed.withWaypoints 0

end Waypoints

end LineLexer.Pattern
