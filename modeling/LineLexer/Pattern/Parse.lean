import LineLexer.Pattern.Bracket
import LineLexer.Pattern.Size
import LineLexer.Text.Letter

/-!
# Reading patterns

The written form of patterns: characters stand for themselves, `.`, `[…]` and escapes for
sets, `^`, `$` and `\b` for assertions; `*`, `+`, `?` and `{…}` repeat what stands before
them, `|` separates alternatives, and parentheses group.  `(?flags)` and `(?flags:…)` set
flags, and `(?<name>…)` names a group.  Look-around, back references and Unicode property
classes are not part of the language, and a text that uses them is refused like any other
text that is not a pattern.

A pattern is read from left to right in one pass, and its flags are resolved on the way.
A text that has the form of a pattern is still refused when the pattern is nested too
deeply or too large.
-/

namespace LineLexer.Pattern

inductive GroupKind where
  | plain
  | capturing
  | named (name : List Char)

/-- A pattern with the measures of the text that it was read from: how deeply it is
nested, how many capturing groups it has when its counted repetitions are written out, and
their names. -/
structure Piece where
  pattern : Pattern
  depth : Nat := 0
  groups : Nat := 0
  names : List (List Char) := []

/-- What a sequence is made of as it is written.  A setting of flags matches nothing. -/
inductive Item where
  | flagSetting
  | piece (piece : Piece)

namespace Item

def depth : Item → Nat
  | .flagSetting => 0
  | .piece inner => inner.depth

/-- The number of capturing groups of an item. -/
def groups : Item → Nat
  | .flagSetting => 0
  | .piece inner => inner.groups

/-- The names of the groups of an item. -/
def names : Item → List (List Char)
  | .flagSetting => []
  | .piece inner => inner.names

def pattern? : Item → Option Pattern
  | .flagSetting => none
  | .piece inner => some inner.pattern

end Item

namespace Piece

/-- The items of a sequence, the last one first, as one piece. -/
def ofItems (items : List Item) : Piece where
  pattern := .sequence (items.reverse.filterMap Item.pattern?)
  depth := match items with
    | [] => 0
    | [item] => item.depth
    | items => 1 + (items.map Item.depth).foldl max 0
  groups := (items.map Item.groups).foldl (· + ·) 0
  names := items.flatMap Item.names

/-- The alternatives of a choice, the last one first, as one piece. -/
def ofBranches (branches : List Piece) : Piece where
  pattern := .choice (branches.reverse.map Piece.pattern)
  depth := match branches with
    | [] => 0
    | [branch] => branch.depth
    | branches => 1 + (branches.map Piece.depth).foldl max 0
  groups := (branches.map Piece.groups).foldl (· + ·) 0
  names := branches.flatMap Piece.names

def grouped (kind : GroupKind) (piece : Piece) : Piece :=
  let deeper := { piece with depth := piece.depth + 1 }
  match kind with
  | .plain => deeper
  | .capturing => { deeper with groups := piece.groups + 1 }
  | .named name =>
      { deeper with groups := piece.groups + 1, names := name :: piece.names }

def repeated (piece : Piece) (least : Nat) (most : Option Nat) (greedy : Bool) : Piece :=
  let (least, most) := roundBounds piece.pattern least most
  { piece with
    pattern := .repetition piece.pattern least most greedy
    depth := piece.depth + 1
    groups := most.getD (max least 1) * piece.groups }

end Piece

/-- What follows the opening parenthesis of a group: flags for the rest of the group
around it, or flags for its own text and its kind. -/
inductive GroupHead where
  | setting (flags : Flags)
  | opening (flags : Flags) (kind : GroupKind)

/-- Reads flags up to the colon or the parenthesis that ends them.  No flag may be given
twice, and a hyphen, of which there is at most one, must be followed by a flag. -/
def readFlags (negated dangling : Bool) (given : List Char) (flags : Flags) :
    List Char → Option (GroupHead × List Char)
  | [] => none
  | ':' :: rest => if dangling then none else some (.opening flags .plain, rest)
  | ')' :: rest =>
      if dangling || (given.isEmpty && !negated) then none
      else some (.setting flags, rest)
  | '-' :: rest => if negated then none else readFlags true true given flags rest
  | letter :: rest => do
      if given.contains letter then none
      let flags ← flags.set? letter (!negated)
      readFlags negated false (letter :: given) flags rest

/-- Whether a text is the name of a group: a letter or an underscore, and then letters,
numbers, underscores, points and brackets. -/
def isGroupName : List Char → Bool
  | [] => false
  | first :: rest =>
      (first == '_' || Text.isLetter first) &&
        rest.all fun char =>
          ['_', '.', '[', ']'].contains char || Text.isLetterOrNumber char

/-- Reads the name of a group, up to the angle bracket that closes it. -/
def readGroupName (flags : Flags) (text : List Char) : Option (GroupHead × List Char) :=
  let name := text.takeWhile (· != '>')
  match text.dropWhile (· != '>') with
  | '>' :: rest =>
      if isGroupName name then some (.opening flags (.named name), rest) else none
  | _ => none

/-- Reads what follows an opening parenthesis. -/
def readGroupHead (flags : Flags) (text : List Char) : Option (GroupHead × List Char) :=
  match flags.skip text with
  | '?' :: '<' :: rest => readGroupName flags rest
  | '?' :: 'P' :: '<' :: rest => readGroupName flags rest
  | '?' :: rest => readFlags false false [] flags rest
  | text => some (.opening flags .capturing, text)

/-- Reads decimal digits between which blanks and comments mean nothing. -/
def readSpacedDigits (inComment : Bool) (digits : List Char) :
    List Char → List Char × List Char
  | [] => (digits.reverse, [])
  | char :: rest =>
      if inComment then readSpacedDigits (char != '\n') digits rest
      else if char.isDigit then readSpacedDigits false (char :: digits) rest
      else if Text.isBlank char then readSpacedDigits false digits rest
      else if char = '#' && !digits.isEmpty then readSpacedDigits true digits rest
      else (digits.reverse, char :: rest)

/-- Reads a count of a repetition, with the blanks around it. -/
def readCount (flags : Flags) (text : List Char) : Option (Nat × List Char) :=
  let (digits, rest) :=
    if flags.verbose then readSpacedDigits false [] text
    else
      let text := text.dropWhile Text.isBlank
      (text.takeWhile Char.isDigit, (text.dropWhile Char.isDigit).dropWhile Text.isBlank)
  let value := digits.foldl (fun value digit => 10 * value + (digit.toNat - '0'.toNat)) 0
  if digits.isEmpty || 4294967295 < value then none else some (value, rest)

/-- Reads the counts of a repetition, after its opening brace. -/
def readCounts (flags : Flags) (text : List Char) :
    Option ((Nat × Option Nat) × List Char) := do
  let (least, rest) ← readCount flags (flags.skip text)
  match rest with
  | '\x7d' :: rest => some ((least, some least), rest)
  | ',' :: rest =>
      match flags.skip rest with
      | '\x7d' :: rest => some ((least, none), rest)
      | rest => do
          let (most, rest) ← readCount flags rest
          match rest with
          | '\x7d' :: rest =>
              if least ≤ most then some ((least, some most), rest) else none
          | _ => none
  | _ => none

/-- Reads what may follow a repetition, a mark that makes it lazy, and tells whether the
repetition is greedy. -/
def readGreed (flags : Flags) : List Char → Bool × List Char
  | '?' :: rest => (flags.swapGreed, rest)
  | rest => (!flags.swapGreed, rest)

/-- Repeats the last of the items read so far, if it is a pattern. -/
def repeatLast (least : Nat) (most : Option Nat) (greedy : Bool) :
    List Item → Option (List Item)
  | .piece piece :: items => some (.piece (piece.repeated least most greedy) :: items)
  | .flagSetting :: _ => none
  | [] => none

/-- The pattern that an element stands for outside brackets. -/
def elementPattern? (flags : Flags) : Element → Option Pattern
  | .literal literal => (literal.toSet? flags).map .one
  | .named set => some (.one set)
  | .assertion assertion => some (.assert assertion)

/-- Reads a character, a set or an assertion outside brackets. -/
def readPrimitive (flags : Flags) : List Char → Option (Pattern × List Char)
  | [] => none
  | '.' :: rest => (flags.dot?).map fun set => (.one set, rest)
  | '^' :: rest => some (.assert flags.lineStart, rest)
  | '$' :: rest => some (.assert flags.lineEnd, rest)
  | '\\' :: rest => do
      let (element, rest) ← Element.readEscape flags rest
      some (← elementPattern? flags element, rest)
  | char :: rest => do
      some (← elementPattern? flags (.literal ⟨char, false⟩), rest)

/-- Reads alternatives up to the end of the text or of the group that they stand in.
`branches` are the alternatives before the current one and `items` its items so far, both
in reverse order. -/
def readAlternatives :
    (room : Nat) → Flags → (branches : List Piece) → (items : List Item) →
    List Char → Option (Piece × List Char)
  | 0, _, _, _, _ => none
  | room + 1, flags, branches, items, text =>
      match flags.skip text with
      | [] => some (.ofBranches (.ofItems items :: branches), [])
      | ')' :: rest => some (.ofBranches (.ofItems items :: branches), ')' :: rest)
      | '|' :: rest => readAlternatives room flags (.ofItems items :: branches) [] rest
      | '(' :: rest => do
          let (head, rest) ← readGroupHead flags rest
          match head with
          | .setting flags =>
              readAlternatives room flags branches (.flagSetting :: items) rest
          | .opening inner kind =>
              match ← readAlternatives room inner [] [] rest with
              | (piece, ')' :: rest) =>
                  readAlternatives room flags branches
                    (.piece (piece.grouped kind) :: items) rest
              | _ => none
      | '[' :: rest => do
          let (set, rest) ← Bracket.read flags rest
          readAlternatives room flags branches
            (.piece { pattern := .one set.set, depth := set.depth } :: items) rest
      | '?' :: rest => do
          let (greedy, rest) := readGreed flags rest
          readAlternatives room flags branches (← repeatLast 0 (some 1) greedy items) rest
      | '*' :: rest => do
          let (greedy, rest) := readGreed flags rest
          readAlternatives room flags branches (← repeatLast 0 none greedy items) rest
      | '+' :: rest => do
          let (greedy, rest) := readGreed flags rest
          readAlternatives room flags branches (← repeatLast 1 none greedy items) rest
      | '\x7b' :: rest => do
          let ((least, most), rest) ← readCounts flags rest
          let (greedy, rest) := readGreed flags (flags.skip rest)
          readAlternatives room flags branches (← repeatLast least most greedy items) rest
      | text => do
          let (pattern, rest) ← readPrimitive flags text
          readAlternatives room flags branches
            (.piece { pattern := pattern } :: items) rest

/-- The greatest depth that a pattern may have. -/
def depthLimit : Nat := 250

def allDiffer : List (List Char) → Bool
  | [] => true
  | name :: names => !names.contains name && allDiffer names

/-- The piece with the given written form, if there is one.  No two of its groups have the
same name. -/
def readPiece (ignoreCase : Bool) (text : String) : Option Piece := do
  let flags : Flags := { ignoreCase := ignoreCase }
  match ← readAlternatives (text.toList.length + 1) flags [] [] text.toList with
  | (piece, []) =>
      if piece.depth ≤ depthLimit && allDiffer piece.names then some piece else none
  | _ => none

/-- Why a text is refused as a pattern; one that is nested too deeply is malformed. -/
inductive Fault where
  | malformed
  | tooLarge
  deriving DecidableEq, Repr

/-- The words that report a fault. -/
def Fault.message : Fault → String
  | malformed => "error parsing pattern 0"
  | tooLarge => "error building NFA"

/-- The pattern with the given written form. -/
def parse (ignoreCase : Bool) (text : String) : Except Fault Pattern :=
  match readPiece ignoreCase text with
  | none => .error .malformed
  | some piece =>
      if piece.pattern.fits piece.groups then .ok piece.pattern.settled
      else .error .tooLarge

end LineLexer.Pattern
