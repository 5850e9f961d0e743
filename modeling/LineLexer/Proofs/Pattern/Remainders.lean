import LineLexer.Pattern.Parse
import Mathlib.Data.List.Infix

/-!
# What readers of patterns leave

Every reader takes what it reads from the front of a text and leaves the rest, so what it
leaves is an end of the text.  What is known of all the ends of a pattern's text is
therefore known wherever the reading of the pattern gets to.
-/

namespace LineLexer.Pattern

/-- If something is read, an end of the text is left. -/
def LeavesEnd {α : Type} (text : List Char) (outcome : Option (α × List Char)) : Prop :=
  ∀ value rest, outcome = some (value, rest) → rest <:+ text

section Combinators

variable {α β : Type} {text rest : List Char}

theorem leavesEnd_none : LeavesEnd (α := α) text none := by
  intro value rest isRead
  cases isRead

theorem leavesEnd_some {value : α} (isEnd : rest <:+ text) :
    LeavesEnd text (some (value, rest)) := by
  intro other left isRead
  cases isRead
  exact isEnd

theorem LeavesEnd.mono {outcome : Option (α × List Char)}
    (leaves : LeavesEnd rest outcome) (isEnd : rest <:+ text) : LeavesEnd text outcome :=
  fun value left isRead => (leaves value left isRead).trans isEnd

theorem leavesEnd_bind {first : Option β} {next : β → Option (α × List Char)}
    (leaves : ∀ value, first = some value → LeavesEnd text (next value)) :
    LeavesEnd text (first >>= next) := by
  cases first with
  | none => exact leavesEnd_none
  | some value => exact leaves value rfl

theorem LeavesEnd.bind {first : Option (β × List Char)}
    {next : β × List Char → Option (α × List Char)} (isFirst : LeavesEnd text first)
    (leaves : ∀ value rest, rest <:+ text → LeavesEnd text (next (value, rest))) :
    LeavesEnd text (first >>= next) :=
  leavesEnd_bind fun ⟨value, rest⟩ isRead => leaves value rest (isFirst value rest isRead)

theorem isSuffix_of_cons {char : Char} (isEnd : char :: rest <:+ text) : rest <:+ text :=
  (List.suffix_cons char rest).trans isEnd

end Combinators

variable {flags : Flags}

theorem skipInsignificant_isSuffix (inComment : Bool) (text : List Char) :
    Flags.skipInsignificant inComment text <:+ text := by
  induction text generalizing inComment with
  | nil => exact List.suffix_rfl
  | cons char rest ih =>
      rw [Flags.skipInsignificant]
      split
      · exact (ih _).trans (List.suffix_cons char rest)
      · split
        · exact (ih _).trans (List.suffix_cons char rest)
        · split
          · exact (ih _).trans (List.suffix_cons char rest)
          · exact List.suffix_rfl

theorem skip_isSuffix (flags : Flags) (text : List Char) : flags.skip text <:+ text := by
  rw [Flags.skip]
  split
  · exact skipInsignificant_isSuffix false text
  · exact List.suffix_rfl

namespace Element

end Element

namespace Bracket

end Bracket

theorem readFlags_leavesEnd (negated dangling : Bool) (given : List Char) (flags : Flags)
    (text : List Char) :
    LeavesEnd text (readFlags negated dangling given flags text) := by
  fun_induction readFlags negated dangling given flags text
  case case1 => exact leavesEnd_none
  case case2 => exact leavesEnd_none
  case case3 => exact leavesEnd_some (List.suffix_cons _ _)
  case case4 => exact leavesEnd_none
  case case5 => exact leavesEnd_some (List.suffix_cons _ _)
  case case6 => exact leavesEnd_none
  case case7 ih => exact ih.mono (List.suffix_cons _ _)
  case case8 => exact leavesEnd_none
  case case9 ih => exact leavesEnd_bind fun changed _ =>
    (ih changed).mono (List.suffix_cons _ _)

theorem readGroupName_leavesEnd (text : List Char) :
    LeavesEnd text (readGroupName flags text) := by
  have dropped := List.dropWhile_suffix (l := text) (· != '>')
  rw [readGroupName]
  split
  · rename_i closing_eq
    rw [closing_eq] at dropped
    split
    · exact leavesEnd_some (isSuffix_of_cons dropped)
    · exact leavesEnd_none
  · exact leavesEnd_none

theorem readGroupHead_leavesEnd (text : List Char) :
    LeavesEnd text (readGroupHead flags text) := by
  have skipped := skip_isSuffix flags text
  rw [readGroupHead]
  split
  · rename_i mark_eq
    rw [mark_eq] at skipped
    exact (readGroupName_leavesEnd _).mono (isSuffix_of_cons (isSuffix_of_cons skipped))
  · rename_i mark_eq
    rw [mark_eq] at skipped
    exact (readGroupName_leavesEnd _).mono
      (isSuffix_of_cons (isSuffix_of_cons (isSuffix_of_cons skipped)))
  · rename_i mark_eq
    rw [mark_eq] at skipped
    exact (readFlags_leavesEnd _ _ _ _ _).mono (isSuffix_of_cons skipped)
  · exact leavesEnd_some skipped

/-- How the reading of alternatives goes on after one thing has been read: the flags that
are in force then, the alternatives and items that have been read, and an end of the
text. -/
inductive ReadsOn (room : Nat) (flags : Flags) (branches : List Piece) (items : List Item)
    (text : List Char) : Flags → List Piece → List Item → List Char → Prop where
  | branch {left : List Char} (isEnd : left <:+ text) :
      ReadsOn room flags branches items text flags (.ofItems items :: branches) [] left
  | setting {rest left : List Char} {inner : Flags} (isGroup : '(' :: rest <:+ text)
      (isHead : readGroupHead flags rest = some (.setting inner, left)) :
      ReadsOn room flags branches items text inner branches (.flagSetting :: items) left
  | group {rest inside left : List Char} {inner : Flags} {kind : GroupKind}
      {piece : Piece} (isGroup : '(' :: rest <:+ text)
      (isHead : readGroupHead flags rest = some (.opening inner kind, inside))
      (isPiece : readAlternatives room inner [] [] inside = some (piece, ')' :: left)) :
      ReadsOn room flags branches items text flags branches
      (.piece (piece.grouped kind) :: items) left
  | set {rest left : List Char} {set : Bracket.DeepSet} (isEnd : left <:+ text)
      (isSet : Bracket.read flags rest = some (set, left)) :
      ReadsOn room flags branches items text flags branches
        (.piece { pattern := .one set.set, depth := set.depth } :: items) left
  | repetition {left : List Char} {least : Nat} {most : Option Nat} {greedy : Bool}
      {repeated : List Item} (isEnd : left <:+ text)
      (isRepeated : repeatLast least most greedy items = some repeated) :
      ReadsOn room flags branches items text flags branches repeated left
  | primitive {rest left : List Char} {pattern : Pattern} (isEnd : left <:+ text)
      (isPattern : readPrimitive flags rest = some (pattern, left)) :
      ReadsOn room flags branches items text flags branches
      (.piece { pattern := pattern } :: items) left

/-- Reading goes on with an end of the text, if the texts of groups are read so. -/
theorem ReadsOn.isSuffix {room : Nat} {flagsNow : Flags}
    {branches branchesNow : List Piece} {items itemsNow : List Item}
    {text left : List Char}
    (readsOn : ReadsOn room flags branches items text flagsNow branchesNow itemsNow left)
    (inGroups : ∀ inner inside,
      LeavesEnd inside (readAlternatives room inner [] [] inside)) :
    left <:+ text := by
  cases readsOn with
  | branch isEnd => exact isEnd
  | setting isGroup isHead =>
      exact (readGroupHead_leavesEnd _ _ _ isHead).trans (isSuffix_of_cons isGroup)
  | group isGroup isHead isPiece =>
      have insideIsEnd :=
        (readGroupHead_leavesEnd _ _ _ isHead).trans (isSuffix_of_cons isGroup)
      exact isSuffix_of_cons ((inGroups _ _ _ _ isPiece).trans insideIsEnd)
  | set isEnd isSet => exact isEnd
  | repetition isEnd isRepeated => exact isEnd
  | primitive isEnd isPattern => exact isEnd

end LineLexer.Pattern
