import LineLexer.Proofs.Scan.Lines
import LineLexer.Proofs.Scan.Taking
import LineLexer.Proofs.Text.Lines

/-!
# Delimited regions

A region of a document is opened by a token that enters a state, goes on for any number of
lines in this state, and is closed by a token that leaves it.  If the tokens of each of
its lines are known whatever stands after the region, then the lexed document is that of
the region alone, with the lexed rest of the document joined to its last line.
-/

namespace LineLexer

/-- The characters of a token with the number of its class. -/
structure Piece where
  classIndex : ClassIndex
  chars : List Char
  deriving DecidableEq, Repr

namespace Piece

def spelled (pieces : List Piece) : List Char :=
  pieces.flatMap chars

/-- The tokens of some pieces from a byte offset on. -/
def row (offset : Nat) : List Piece → List Token
  | [] => []
  | piece :: pieces =>
      ⟨offset, offset + Text.byteLength piece.chars, piece.classIndex, none⟩ ::
        row (offset + Text.byteLength piece.chars) pieces

@[simp]
theorem spelled_nil : spelled [] = [] :=
  rfl

@[simp]
theorem spelled_append (first second : List Piece) :
    spelled (first ++ second) = spelled first ++ spelled second :=
  List.flatMap_append

@[simp]
theorem spelled_cons (piece : Piece) (pieces : List Piece) :
    spelled (piece :: pieces) = piece.chars ++ spelled pieces :=
  List.flatMap_cons

theorem row_append (offset : Nat) (first second : List Piece) :
    row offset (first ++ second) =
      row offset first ++ row (offset + Text.byteLength (spelled first)) second := by
  induction first generalizing offset with
  | nil => rfl
  | cons piece first ih =>
      rw [List.cons_append, row, row, ih, spelled_cons, Text.byteLength_append,
        Nat.add_assoc]
      rfl

theorem length_row (offset : Nat) (pieces : List Piece) :
    (row offset pieces).length = pieces.length := by
  induction pieces generalizing offset with
  | nil => rfl
  | cons piece pieces ih => rw [row, List.length_cons, ih, List.length_cons]

theorem map_classIndex_row (offset : Nat) (pieces : List Piece) :
    (row offset pieces).map Token.classIndex = pieces.map classIndex := by
  induction pieces generalizing offset with
  | nil => rfl
  | cons piece pieces ih => rw [row, List.map_cons, ih, List.map_cons]

theorem getLast?_stop_row (offset : Nat) (pieces : List Piece) :
    ((row offset pieces).getLast?.map Token.stop).getD offset =
      offset + Text.byteLength (spelled pieces) := by
  induction pieces generalizing offset with
  | nil => rfl
  | cons piece pieces ih =>
      rw [row, spelled_cons, Text.byteLength_append, ← Nat.add_assoc, ← ih,
        List.getLast?_cons]
      cases (row (offset + Text.byteLength piece.chars) pieces).getLast? <;> rfl

/-- In a line that has the pieces after some other characters the texts of the tokens are
those of the pieces. -/
theorem map_text_row {line : String} {front back : List Char} {pieces : List Piece}
    (parts : line.toList = front ++ (spelled pieces ++ back)) :
    (row (Text.byteLength front) pieces).map (·.text line) =
      pieces.map fun piece => String.ofList piece.chars := by
  induction pieces generalizing front with
  | nil => rfl
  | cons piece pieces ih =>
      rw [spelled_cons, List.append_assoc] at parts
      have partsAfter : line.toList =
          (front ++ piece.chars) ++ (spelled pieces ++ back) := by
        rw [parts, List.append_assoc]
      have others := ih partsAfter
      rw [Text.byteLength_append] at others
      rw [row, List.map_cons, others, List.map_cons]
      exact congrArg (· :: _) (Text.slice_eq_of_toList_eq parts)

end Piece

def LexedLine.width (lexed : LexedLine) : Nat :=
  (lexed.tokens.getLast?.map Token.stop).getD 0

/-- The line that starts with the tokens of one line and goes on with those of another
one. -/
def LexedLine.followedBy (first second : LexedLine) : LexedLine :=
  ⟨first.tokens ++ second.tokens.map (Token.shift first.width), second.endStack⟩

/-- Two lists of lexed lines, where the last line of the first list goes on with the first
line of the second one. -/
def joinLines : List LexedLine → List LexedLine → List LexedLine
  | [], second => second
  | [last], [] => [last]
  | [last], first :: second => last.followedBy first :: second
  | line :: next :: lines, second => line :: joinLines (next :: lines) second

/-- The lexed lines of some rows of pieces, where the stack `inner` is left at the end of
each row but the last one, which leaves `outer`. -/
def lexedRows (inner outer : ActiveStates) : List (List Piece) → List LexedLine
  | [] => []
  | [last] => [⟨Piece.row 0 last, outer⟩]
  | pieces :: next :: rows =>
      ⟨Piece.row 0 pieces, inner⟩ :: lexedRows inner outer (next :: rows)

theorem lexedRows_cons {inner outer : ActiveStates} {pieces : List Piece}
    {rows : List (List Piece)} (more : rows ≠ []) :
    lexedRows inner outer (pieces :: rows) =
      ⟨Piece.row 0 pieces, inner⟩ :: lexedRows inner outer rows := by
  obtain ⟨next, others, rfl⟩ := List.exists_cons_of_ne_nil more
  rfl

theorem lexedRows_ne_nil {inner outer : ActiveStates} {rows : List (List Piece)}
    (more : rows ≠ []) : lexedRows inner outer rows ≠ [] := by
  match rows with
  | [] => exact absurd rfl more
  | [_] => exact List.cons_ne_nil _ _
  | _ :: _ :: _ => exact List.cons_ne_nil _ _

/-- All lines but the last one end with the inner stack, and the last one ends with the
outer stack. -/
theorem map_endStack_lexedRows {inner outer : ActiveStates} {rows : List (List Piece)}
    (more : rows ≠ []) :
    (lexedRows inner outer rows).map LexedLine.endStack =
      List.replicate (rows.length - 1) inner ++ [outer] := by
  induction rows with
  | nil => exact absurd rfl more
  | cons pieces rows ih =>
      cases rows with
      | nil => rfl
      | cons next rows =>
          rw [lexedRows, List.map_cons, ih (List.cons_ne_nil _ _)]
          simp [List.replicate_succ]

theorem map_stackNames_lexedRows (language : Language) {inner outer : ActiveStates}
    {rows : List (List Piece)} (more : rows ≠ []) :
    (lexedRows inner outer rows).map (fun line => language.stackNames line.endStack) =
      List.replicate (rows.length - 1) (language.stackNames inner) ++
        [language.stackNames outer] := by
  have names_eq := congrArg (List.map language.stackNames)
    (@map_endStack_lexedRows inner outer rows more)
  rwa [List.map_map, List.map_append, List.map_replicate, List.map_singleton] at names_eq

/-- The full names of the classes and the texts of the tokens of a line. -/
def LexedLine.namedTexts (lexed : LexedLine) (language : Language) (line : String) :
    List (String × String) :=
  lexed.tokens.map fun token => (language.className token.classIndex, token.text line)

/-- The classes and the texts of the tokens of a document, line by line. -/
def Language.documentTokens (language : Language) (text : String) :
    List (List (String × String)) :=
  List.zipWith (fun line lexed => LexedLine.namedTexts lexed language line)
    (Text.documentLines text) (language.lexDocument text)

def Piece.namedText (language : Language) (piece : Piece) : String × String :=
  (language.className piece.classIndex, String.ofList piece.chars)

theorem namedTexts_row (language : Language) (stack : ActiveStates)
    (pieces : List Piece) :
    (LexedLine.mk (Piece.row 0 pieces) stack).namedTexts language
        (String.ofList (Piece.spelled pieces)) =
          pieces.map (Piece.namedText language) := by
  have parts : (String.ofList (Piece.spelled pieces)).toList =
      [] ++ (Piece.spelled pieces ++ []) := by
    simp
  have texts := Piece.map_text_row parts
  have classes := Piece.map_classIndex_row 0 pieces
  calc
    _ = List.zip (((Piece.row 0 pieces).map Token.classIndex).map language.className)
          ((Piece.row 0 pieces).map (·.text (String.ofList (Piece.spelled pieces)))) := by
      rw [List.map_map, List.zip_map']
      rfl
    _ = pieces.map (Piece.namedText language) := by
      rw [classes, show Piece.row 0 pieces =
        Piece.row (Text.byteLength []) pieces from rfl, texts, List.map_map,
        List.zip_map']
      rfl

theorem zipWith_namedTexts_lexedRows (language : Language) (inner outer : ActiveStates)
    (rows : List (List Piece)) :
    List.zipWith (fun line lexed => LexedLine.namedTexts lexed language line)
        (rows.map fun pieces => String.ofList (Piece.spelled pieces))
          (lexedRows inner outer rows) =
      rows.map fun pieces => pieces.map (Piece.namedText language) := by
  induction rows with
  | nil => rfl
  | cons pieces rows ih =>
      cases rows with
      | nil => exact congrArg (fun texts =>
          [texts]) (namedTexts_row language outer pieces)
      | cons next rows =>
          rw [lexedRows, List.map_cons, List.zipWith_cons_cons, namedTexts_row, ih]
          rfl

theorem joinLines_cons {line : LexedLine} {lines second : List LexedLine}
    (more : lines ≠ []) :
    joinLines (line :: lines) second = line :: joinLines lines second := by
  obtain ⟨next, others, rfl⟩ := List.exists_cons_of_ne_nil more
  rfl

section Regions

variable {language : Language} {stack inner outer : ActiveStates}

open Scanner

/-- The scan takes some pieces from any offset on with the inner stack, if they are
followed by `rest`, and has then the stack `last`. -/
def TakesPieces (language : Language) (inner : ActiveStates) (pieces : List Piece)
    (rest : List Char) (last : ActiveStates) : Prop :=
  ∀ offset, Takes language ⟨offset, Piece.spelled pieces ++ rest, inner⟩
    (Piece.row offset pieces)
    ⟨offset + Text.byteLength (Piece.spelled pieces), rest, last⟩

theorem TakesPieces.append {first second : List Piece} {rest : List Char}
    {last : ActiveStates}
    (takesFirst : TakesPieces language stack first (Piece.spelled second ++ rest) inner)
    (takesSecond : TakesPieces language inner second rest last) :
    TakesPieces language stack (first ++ second) rest last := by
  intro offset
  have joined := (takesFirst offset).append (takesSecond _)
  rw [← Piece.row_append, Nat.add_assoc, ← Text.byteLength_append, ← List.append_assoc,
    ← Piece.spelled_append] at joined
  exact joined

theorem takesPieces_nil (rest : List Char) : TakesPieces language inner [] rest inner :=
  fun _ => .nil

section Selected

variable {grammar : Grammar} {reader : PatternReader}
  (isCompiled : grammar.IsCompiled reader language) {name className : String}
  {entries : List Entry} {transition : Option Transition} {change : Option StackChange}
  (chars : List Char) {rest : List Char}
  (isTop : grammar.states.position? name = some stack.top)
  (isEntries : grammar.states.get? name = some entries)

include isCompiled isTop isEntries

/-- Where walking the entries of the innermost active state leads to a rule, the text that
the rule matches is taken as a token of the class that the rule gives it, unless it is a
bracket. -/
theorem takesPieces_of_emitted {emission : Emission}
    (selects : grammar.Selects reader (chars ++ rest) entries
      (some (⟨emission, transition⟩, chars.length)))
    (emits : grammar.emitted emission (String.ofList chars) = (className, none))
    (changes : grammar.ChangesBy transition change) :
    TakesPieces language stack [⟨language.classIndexOf className, chars⟩] rest
      (StackChange.apply change stack).1 := by
  intro offset
  obtain ⟨step, isStep, -, next_eq, token_eq⟩ :=
    @Grammar.IsCompiled.step?_of_selects grammar reader language
      ⟨offset, chars ++ rest, stack⟩ name entries isTop isEntries
      isCompiled ⟨emission, transition⟩ change chars.length selects changes
  simp only [Scanner.advance, List.take_left, List.drop_left] at next_eq
  have takes : Takes language ⟨offset, chars ++ rest, stack⟩ [step.token] step.next :=
    .cons isStep .nil
  rw [token_eq, next_eq] at takes
  simpa [Piece.row, emits] using takes

theorem takesPieces_of_selects
    (selects : grammar.Selects reader (chars ++ rest) entries
      (some (⟨.token className, transition⟩, chars.length)))
    (changes : grammar.ChangesBy transition change) :
    TakesPieces language stack [⟨language.classIndexOf className, chars⟩] rest
      (StackChange.apply change stack).1 :=
  takesPieces_of_emitted isCompiled chars isTop isEntries selects rfl changes

/-- Where no rule is chosen, the next character is taken as a token of the class of
unmatched text. -/
theorem takesPieces_of_selects_none {char : Char}
    (selects : grammar.Selects reader (char :: rest) entries none) :
    TakesPieces language stack [⟨language.defaultClass, [char]⟩] rest stack := by
  intro offset
  obtain ⟨step, isStep, -, next_eq, token_eq⟩ :=
    @Grammar.IsCompiled.step?_of_selects_none grammar reader language
      ⟨offset, char :: rest, stack⟩ name entries isTop
      isEntries isCompiled (List.cons_ne_nil char rest) selects
  have takes : Takes language ⟨offset, char :: rest, stack⟩ [step.token] step.next :=
    .cons isStep .nil
  rw [token_eq, next_eq] at takes
  exact takes

end Selected

/-- Pieces that stand for single characters are taken if each of them is, followed by
those after it. -/
theorem takesPieces_map {pieceOf : Char → Piece} {part rest : List Char}
    (each : ∀ front char back, part = front ++ char :: back →
      TakesPieces language inner [pieceOf char]
      (Piece.spelled (back.map pieceOf) ++ rest) inner) :
    TakesPieces language inner (part.map pieceOf) rest inner := by
  induction part with
  | nil => exact takesPieces_nil rest
  | cons char part ih =>
      have first : TakesPieces language inner [pieceOf char]
          (Piece.spelled (part.map pieceOf) ++ rest) inner := each [] char part rfl
      refine first.append (ih ?_)
      intro front other back parts
      exact each (char :: front) other back (by rw [parts, List.cons_append])

/-- The rows of a region are taken with the inner stack, each up to the end of its line
but the last one, which is closed and followed by `after`. -/
inductive Encloses (language : Language) (inner outer : ActiveStates) (closing : Piece)
    (after : List Char) : List (List Piece) → Prop where
  | last {pieces : List Piece}
      (takes : TakesPieces language inner (pieces ++ [closing]) after outer) :
      Encloses language inner outer closing after [pieces]
  | more {pieces : List Piece} {rows : List (List Piece)}
      (takes : TakesPieces language inner pieces [] inner)
      (others : Encloses language inner outer closing after rows) :
      Encloses language inner outer closing after (pieces :: rows)

theorem Encloses.ne_nil {closing : Piece} {after : List Char} {rows : List (List Piece)}
    (encloses : Encloses language inner outer closing after rows) : rows ≠ [] := by
  cases encloses <;> exact List.cons_ne_nil _ _

/-- Rows are enclosed if each of them is taken both up to the end of its line and up to
the closing token. -/
theorem encloses_of_takes {closing : Piece} {after : List Char} {rows : List (List Piece)}
    (nonempty : rows ≠ [])
    (takes : ∀ row ∈ rows, TakesPieces language inner row [] inner ∧
      TakesPieces language inner row (Piece.spelled [closing] ++ after) inner)
    (closes : TakesPieces language inner [closing] after outer) :
    Encloses language inner outer closing after rows := by
  induction rows with
  | nil => exact absurd rfl nonempty
  | cons row rows ih =>
      obtain ⟨toEnd, toClosing⟩ := takes row List.mem_cons_self
      by_cases more : rows = []
      · subst more
        exact .last (toClosing.append closes)
      · exact .more toEnd (ih more fun other member =>
          takes other (List.mem_cons_of_mem row member))

/-- What some pieces at the start of a line are followed by is scanned as a line of its
own. -/
theorem TakesPieces.lexLine {pieces : List Piece} {after : List Char}
    {last : ActiveStates} (takes : TakesPieces language stack pieces after last) :
    language.lexLine stack (String.ofList (Piece.spelled pieces ++ after)) =
      LexedLine.followedBy ⟨Piece.row 0 pieces, last⟩
        (language.lexLine last (String.ofList after)) := by
  have takesLine :
      Takes language (.start (String.ofList (Piece.spelled pieces ++ after)) stack)
      (Piece.row 0 pieces)
      ⟨Text.byteLength (Piece.spelled pieces), (String.ofList after).toList, last⟩ := by
    have fromStart := takes 0
    rw [Nat.zero_add] at fromStart
    rwa [Scanner.start, String.toList_ofList, String.toList_ofList]
  have width_eq : (LexedLine.mk (Piece.row 0 pieces) last).width =
      Text.byteLength (Piece.spelled pieces) :=
    (Piece.getLast?_stop_row 0 pieces).trans (Nat.zero_add _)
  rw [Language.lexLine_of_takes takesLine, LexedLine.followedBy, width_eq]

theorem lexLine_empty (stack : ActiveStates) :
    language.lexLine stack "" = ⟨[], stack⟩ := by
  have noStep : (Scanner.start "" stack).step? language = none :=
    Scanner.step?_eq_none_iff.mpr String.toList_empty
  have tokens_eq : (language.lexLine stack "").tokens = [] := by
    rw [Language.tokens_lexLine, steps_of_step?_eq_none noStep, List.map_nil]
  have stack_eq : (language.lexLine stack "").endStack = stack := by
    rw [Language.endStack_lexLine, finish_of_step?_eq_none noStep]
    rfl
  exact congrArg₂ LexedLine.mk tokens_eq stack_eq

/-- The lexed lines of a region and of what follows it are the lines of the region, joined
to the lexed lines of what follows. -/
theorem Encloses.lexLines {opening : List Piece} {closing : Piece} {after : List Char}
    {rows : List (List Piece)}
    (encloses : Encloses language inner outer closing after rows)
    (opens : ∀ rest, TakesPieces language stack opening rest inner)
    (others : List (List Char)) :
    language.lexLines stack
        ((Text.joinRows [Piece.spelled opening] (Text.joinRows (rows.map Piece.spelled)
          (Text.joinRows [closing.chars] (after :: others)))).map String.ofList) =
      joinLines
        (lexedRows inner outer (Text.joinRows [opening] (Text.joinRows rows [[closing]])))
        (language.lexLines outer ((after :: others).map String.ofList)) := by
  induction encloses generalizing opening stack with
  | @last pieces takes =>
      have line_eq : Piece.spelled opening ++
          (Piece.spelled pieces ++ (closing.chars ++ after)) =
          Piece.spelled (opening ++ (pieces ++ [closing])) ++ after := by
        simp [Piece.spelled]
      have takesAll : TakesPieces language stack
          (opening ++ (pieces ++ [closing])) after outer :=
        (opens _).append takes
      simp only [List.map_cons, List.map_nil, Text.joinRows, line_eq,
        Language.lexLines_cons, takesAll.lexLine, lexedRows, joinLines]
      rfl
  | @more pieces rows takes encloses ih =>
      have spelled_ne : rows.map Piece.spelled ≠ [] := by simpa using encloses.ne_nil
      have lines_ne : Text.joinRows (rows.map Piece.spelled)
          (Text.joinRows [closing.chars] (after :: others)) ≠ [] :=
            Text.joinRows_ne_nil spelled_ne
      have rows_ne : Text.joinRows rows [[closing]] ≠ [] :=
        Text.joinRows_ne_nil encloses.ne_nil
      have line_eq : language.lexLine stack
          (String.ofList (Piece.spelled opening ++ Piece.spelled pieces)) =
            ⟨Piece.row 0 (opening ++ pieces), inner⟩ := by
        have takesAll : TakesPieces language stack (opening ++ pieces) [] inner :=
          (opens _).append takes
        have lexed := takesAll.lexLine
        rw [List.append_nil, Piece.spelled_append] at lexed
        rw [lexed, LexedLine.followedBy]
        have empty : language.lexLine inner (String.ofList []) = ⟨[], inner⟩ := by
          rw [String.ofList_nil, lexLine_empty]
        rw [empty, List.map_nil, List.append_nil]
      have others_eq := @ih inner [] takesPieces_nil
      rw [Text.joinRows_empty rows_ne, Piece.spelled_nil,
        Text.joinRows_empty lines_ne] at others_eq
      rw [List.map_cons, Text.joinRows_cons spelled_ne,
        Text.joinRows_singleton_append, List.map_cons, Language.lexLines_cons, line_eq,
        others_eq, Text.joinRows_cons encloses.ne_nil, Text.joinRows_singleton_append,
        lexedRows_cons rows_ne, joinLines_cons (lexedRows_ne_nil rows_ne)]

/-- What follows a region that ends the document is an empty line, which adds nothing. -/
theorem joinLines_lexedRows_empty {rows : List (List Piece)} (more : rows ≠ []) :
    joinLines (lexedRows inner outer rows) (language.lexLines outer [""]) =
      lexedRows inner outer rows := by
  rw [Language.lexLines_cons, Language.lexLines_nil, lexLine_empty]
  induction rows with
  | nil => exact absurd rfl more
  | cons pieces rows ih =>
      cases rows with
      | nil => simp [lexedRows, joinLines, LexedLine.followedBy]
      | cons next rows =>
          have others_ne : next :: rows ≠ [] := List.cons_ne_nil _ _
          rw [lexedRows_cons others_ne, joinLines_cons (lexedRows_ne_nil others_ne),
            ih others_ne]

section WholeDocument

variable {opening closing : Piece} {rows : List (List Piece)} {body : List Char}

/-- The rows of a region with the tokens that open and close it. -/
def regionRows (opening closing : Piece) (rows : List (List Piece)) : List (List Piece) :=
  Text.joinRows [[opening]] (Text.joinRows rows [[closing]])

theorem regionRows_ne_nil : regionRows opening closing rows ≠ [] :=
  Text.joinRows_ne_nil (List.cons_ne_nil _ _)

variable (isOpening : Text.IsPlain opening.chars) (isClosing : Text.IsPlain closing.chars)
  (nonempty : closing.chars ≠ [])
  (body_eq : Text.endedRows (Text.splitAtLineFeeds body) = rows.map Piece.spelled)

include isOpening isClosing nonempty body_eq

/-- The lexed lines of a document that begins with a region are those of the region,
joined to the lexed lines of what follows. -/
theorem lexDocument_region_append {after : List Char}
    (opens : ∀ rest, TakesPieces language language.initialStack [opening] rest inner)
    (encloses : ∀ first others,
      (Text.splitAtLineFeeds after).map Text.dropFinalReturn = first :: others →
        Encloses language inner language.initialStack closing first rows) :
    language.lexDocument
      (String.ofList (opening.chars ++ (body ++ (closing.chars ++ after)))) =
      joinLines (lexedRows inner language.initialStack (regionRows opening closing rows))
        (language.lexDocument (String.ofList after)) := by
  rw [Language.lexDocument_eq_lexLines, Language.lexDocument_eq_lexLines,
    Text.documentLines_ofList, Text.documentLines_ofList,
    Text.map_dropFinalReturn_enclosed isOpening isClosing nonempty, body_eq]
  have lines_ne : (Text.splitAtLineFeeds after).map Text.dropFinalReturn ≠ [] := by
    simpa using Text.splitAtLineFeeds_ne_nil after
  obtain ⟨first, others, lines_eq⟩ := List.exists_cons_of_ne_nil lines_ne
  have lexed := (encloses first others lines_eq).lexLines opens others
  rw [lines_eq]
  simpa [Piece.spelled, regionRows] using lexed

theorem lexDocument_region
    (opens : ∀ rest, TakesPieces language language.initialStack [opening] rest inner)
    (encloses : Encloses language inner language.initialStack closing [] rows) :
    language.lexDocument (String.ofList (opening.chars ++ (body ++ closing.chars))) =
      lexedRows inner language.initialStack (regionRows opening closing rows) := by
  have enclosesFirst (first : List Char) (others : List (List Char))
      (lines_eq : (Text.splitAtLineFeeds []).map Text.dropFinalReturn = first :: others) :
      Encloses language inner language.initialStack closing first rows :=
    (List.cons.inj lines_eq).1 ▸ encloses
  have lexed :=
    lexDocument_region_append isOpening isClosing nonempty body_eq opens enclosesFirst
  rw [List.append_nil] at lexed
  exact lexed.trans (joinLines_lexedRows_empty regionRows_ne_nil)

theorem documentLines_region :
    Text.documentLines (String.ofList (opening.chars ++ (body ++ closing.chars))) =
      (regionRows opening closing rows).map fun pieces =>
        String.ofList (Piece.spelled pieces) := by
  have lines_eq := Text.map_dropFinalReturn_enclosed isOpening isClosing nonempty body []
  rw [List.append_nil, body_eq] at lines_eq
  calc
    _ = ((regionRows opening closing rows).map Piece.spelled).map String.ofList := by
      rw [Text.documentLines_ofList, lines_eq, regionRows,
        Text.map_joinRows _ Piece.spelled_append,
        Text.map_joinRows _ Piece.spelled_append]
      simp [Piece.spelled, Text.splitAtLineFeeds, Text.dropFinalReturn, Text.joinRows]
    _ = _ := List.map_map

theorem documentTokens_region
    (opens : ∀ rest, TakesPieces language language.initialStack [opening] rest inner)
    (encloses : Encloses language inner language.initialStack closing [] rows) :
    language.documentTokens (String.ofList (opening.chars ++ (body ++ closing.chars))) =
      (regionRows opening closing rows).map fun pieces =>
        pieces.map (Piece.namedText language) := by
  rw [Language.documentTokens, documentLines_region isOpening isClosing nonempty body_eq,
    lexDocument_region isOpening isClosing nonempty body_eq opens encloses,
    zipWith_namedTexts_lexedRows]

end WholeDocument

end Regions

end LineLexer
