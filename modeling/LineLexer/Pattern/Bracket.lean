import LineLexer.Pattern.Escape

/-!
# Bracket expressions

A bracket expression describes a set of characters by the union of its items, which are
characters, ranges, named sets and further bracket expressions.  Such unions can be joined
by `&&` for intersection, `--` for difference and `~~` for symmetric difference, evaluated
from left to right.

Beside each set stands the depth of the expression that gave it, since the depth of
patterns is limited.
-/

namespace LineLexer.Pattern.Bracket

/-- The operations between the unions of a bracket expression. -/
inductive SetOperation where
  | inter
  | diff
  | symmDiff

def SetOperation.apply : SetOperation → CharSet → CharSet → CharSet
  | .inter, left, right => left.inter right
  | .diff, left, right => left.diff right
  | .symmDiff, left, right => left.symmDiff right

/-- A set with the depth of the expression that it comes from. -/
structure DeepSet where
  set : CharSet
  depth : Nat

/-- A bracket expression as far as it has been read: whether it is to be complemented at
the end, the operation that waits for its right side, and the items of the current union,
the last one first. -/
structure Progress where
  negated : Bool
  pending : Option (SetOperation × DeepSet)
  items : List DeepSet

namespace Progress

def union (progress : Progress) : DeepSet where
  set := match progress.items with
    | [item] => item.set
    | items => .unions (items.reverse.map DeepSet.set)
  depth := match progress.items with
    | [] => 0
    | [item] => item.depth
    | items => 1 + (items.map DeepSet.depth).foldl max 0

/-- The set up to here: the current union, after the operation that waits for it. -/
def combined (flags : Flags) (progress : Progress) : DeepSet :=
  let right := progress.union
  match progress.pending with
  | none => right
  | some (operation, left) =>
      { set := operation.apply
          (flags.closeUnderCase left.set) (flags.closeUnderCase right.set)
        depth := 1 + max left.depth right.depth }

/-- Adds an item to the current union. -/
def push (progress : Progress) (set : CharSet) (depth : Nat) : Progress :=
  { progress with items := ⟨set, depth⟩ :: progress.items }

/-- Starts a new union as the right side of an operation. -/
def startOperation (flags : Flags) (progress : Progress)
    (operation : SetOperation) : Progress :=
  { progress with pending := some (operation, progress.combined flags), items := [] }

/-- The set of the whole expression, if it has one. -/
def close? (flags : Flags) (progress : Progress) : Option DeepSet :=
  let combined := progress.combined flags
  (flags.complementIf? progress.negated (flags.closeUnderCase combined.set)).map
    fun set => ⟨set, combined.depth + 1⟩

end Progress

/-- The sets that have a name inside brackets. -/
def asciiClass? (name : String) : Option CharSet :=
  match name with
  | "alnum" => some (.ofRanges [('0', '9'), ('A', 'Z'), ('a', 'z')])
  | "alpha" => some (.ofRanges [('A', 'Z'), ('a', 'z')])
  | "ascii" => some .ascii
  | "blank" => some (.ofRanges [('\t', '\t'), (' ', ' ')])
  | "cntrl" => some (.ofRanges [('\x00', '\x1f'), ('\x7f', '\x7f')])
  | "digit" => some .asciiDigit
  | "graph" => some (.range '!' '~')
  | "lower" => some (.range 'a' 'z')
  | "print" => some (.range ' ' '~')
  | "punct" => some (.ofRanges [('!', '/'), (':', '@'), ('[', '\x60'), ('\x7b', '~')])
  | "space" => some .asciiBlank
  | "upper" => some (.range 'A' 'Z')
  | "word" => some .asciiWordChar
  | "xdigit" => some (.ofRanges [('0', '9'), ('A', 'F'), ('a', 'f')])
  | _ => none

/-- Reads a named set such as `[:alpha:]` or `[:^alpha:]`, after its first bracket, and
tells whether it is to be complemented. -/
def readAsciiClass : List Char → Option ((Bool × CharSet) × List Char)
  | ':' :: text => do
      let (negated, text) := match text with
        | '^' :: text => (true, text)
        | text => (false, text)
      match text.dropWhile (· != ':') with
      | ':' :: ']' :: rest =>
          let named ← asciiClass? (String.ofList (text.takeWhile (· != ':')))
          some ((negated, named), rest)
      | _ => none
  | _ => none

/-- Reads one end of a range, or an item of its own. -/
def readElement (flags : Flags) : List Char → Option (Element × List Char)
  | [] => none
  | '\\' :: rest => Element.readEscape flags rest
  | char :: rest => some (.literal ⟨char, false⟩, rest)

/-- The set that an element stands for when it is an item of its own. -/
def elementSet? (flags : Flags) : Element → Option CharSet
  | .literal literal => (literal.inBrackets? flags).map .single
  | .named set => some set
  | .assertion _ => none

/-- The character that an element stands for as an end of a range. -/
def rangeEnd? (flags : Flags) : Element → Option Char
  | .literal literal => literal.inBrackets? flags
  | .named _ => none
  | .assertion _ => none

/-- The next character that means something, past blanks and the start of a comment. -/
def peekSignificant (flags : Flags) (text : List Char) : Option Char :=
  if flags.verbose then
    match text.dropWhile Text.isBlank with
    | '#' :: rest => (rest.dropWhile Text.isBlank).head?
    | rest => rest.head?
  else text.head?

/-- Reads an item: an element, or a range between two characters.  A hyphen before the
closing bracket or before another hyphen does not make a range. -/
def readItem (flags : Flags) (text : List Char) : Option (CharSet × List Char) := do
  let (first, rest) ← readElement flags text
  match flags.skip rest with
  | [] => none
  | '-' :: rest =>
      let next := peekSignificant flags rest
      if next == some ']' || next == some '-' then
        some (← elementSet? flags first, '-' :: rest)
      else
        let (last, rest) ← readElement flags (flags.skip rest)
        let first ← rangeEnd? flags first
        let last ← rangeEnd? flags last
        if first ≤ last then some (.range first last, rest) else none
  | rest => some (← elementSet? flags first, rest)

/-- Reads the hyphens that stand first in an expression; they are items. -/
def readLeadingHyphens (flags : Flags) :
    (room : Nat) → Progress → List Char → Progress × List Char
  | room + 1, progress, '-' :: rest =>
      readLeadingHyphens flags room (progress.push (.single '-') 0) (flags.skip rest)
  | _, progress, text => (progress, text)

/-- Reads what may follow the opening bracket before the items: a caret that complements
the set, and then hyphens or else a closing bracket, which are items when they stand
here. -/
def readOpening (flags : Flags) (room : Nat) (text : List Char) : Progress × List Char :=
  let (negated, text) := match flags.skip text with
    | '^' :: rest => (true, flags.skip rest)
    | text => (false, text)
  match readLeadingHyphens flags room ⟨negated, none, []⟩ text with
  | (progress, ']' :: rest) =>
      if progress.items.isEmpty then (progress.push (.single ']') 0, flags.skip rest)
      else (progress, ']' :: rest)
  | opened => opened

/-- Reads the items of an expression up to its closing bracket. -/
def readItems (flags : Flags) :
    (room : Nat) → Progress → List Char → Option (DeepSet × List Char)
  | 0, _, _ => none
  | room + 1, progress, text =>
      match flags.skip text with
      | [] => none
      | ']' :: rest => (progress.close? flags).map fun set => (set, rest)
      | '&' :: '&' :: rest =>
          readItems flags room (progress.startOperation flags .inter) rest
      | '-' :: '-' :: rest =>
          readItems flags room (progress.startOperation flags .diff) rest
      | '~' :: '~' :: rest =>
          readItems flags room (progress.startOperation flags .symmDiff) rest
      | '[' :: rest =>
          match readAsciiClass rest with
          | some ((negated, named), rest) => do
              let set ← flags.complementIf? negated (flags.closeUnderCase named)
              readItems flags room (progress.push set 0) rest
          | none => do
              let (inner, rest) := readOpening flags room rest
              let (set, rest) ← readItems flags room inner rest
              readItems flags room (progress.push set.set set.depth) rest
      | text => do
          let (set, rest) ← readItem flags text
          readItems flags room (progress.push set 0) rest

/-- Reads a bracket expression, after its opening bracket. -/
def read (flags : Flags) (text : List Char) : Option (DeepSet × List Char) :=
  let room := text.length + 1
  let (progress, rest) := readOpening flags room text
  readItems flags room progress rest

end LineLexer.Pattern.Bracket
