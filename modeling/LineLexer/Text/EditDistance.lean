/-!
# Edit distance

The least number of single insertions, deletions and substitutions that turn one list into
another.  The distances between the initial parts of two lists form a table, which is
filled row by row, each row from left to right.  Of the rows only two are kept, the one
that is being filled and the one before it, and they change places after each entry of the
source.
-/

namespace LineLexer.Text

/-- Two rows of the table.  Each has a column for every initial part of the target. -/
structure DistanceRows (width : Nat) where
  previous : Vector Nat (width + 1)
  current : Vector Nat (width + 1)

namespace DistanceRows

/-- The distances from the empty list in the previous row, and a row for those that come
next. -/
def start (width : Nat) : DistanceRows width where
  previous := .ofFn fun column => column
  current := .replicate (width + 1) 0

/-- Fills the column after `column` in the current row.  `cost` is that of putting one
entry in the place of the other. -/
def fill {width : Nat} (rows : DistanceRows width) (column : Fin width) (cost : Nat) :
    DistanceRows width where
  previous := rows.previous
  current := rows.current.set (column.val + 1)
    (min (min (rows.previous[column.val + 1] + 1) (rows.current[column.val] + 1))
      (rows.previous[column.val] + cost))

variable {α : Type} [DecidableEq α]

/-- The cost of putting an entry of the target in the place of one of the source, which is
nothing where the two are the same. -/
def substitutionCost (source target : List α) (row : Fin source.length)
    (column : Fin target.length) : Nat :=
  if source[row] = target[column] then 0 else 1

/-- Fills the current row for an entry of the source.  After it the rows change places. -/
def advance (source target : List α) (rows : DistanceRows target.length)
    (row : Fin source.length) : DistanceRows target.length :=
  let opened : DistanceRows target.length :=
    { rows with current := rows.current.set 0 (row.val + 1) }
  let filled := Fin.foldl target.length
    (fun rows column => rows.fill column (substitutionCost source target row column))
    opened
  { previous := filled.current, current := filled.previous }

end DistanceRows

/-- The least number of insertions, deletions and substitutions that turn `source` into
`target`. -/
def editDistance {α : Type} [DecidableEq α] (source target : List α) : Nat :=
  if source.isEmpty then target.length
  else if target.isEmpty then source.length
  else
    let rows := Fin.foldl source.length (DistanceRows.advance source target)
      (.start target.length)
    rows.previous[target.length]

end LineLexer.Text
