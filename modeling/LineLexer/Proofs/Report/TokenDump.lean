import LineLexer.Catalog.PowerQuery
import LineLexer.Proofs.Language.Names
import LineLexer.Proofs.Scan.Lines
import LineLexer.Proofs.Scan.Merging
import LineLexer.Proofs.Text.Lines
import LineLexer.Report.TokenDump

/-!
# Token dumps lose nothing

The rows of a dump can be told apart by their first characters, since all but the headers
start with blanks.  The text of a token is what stands from the first quote of its row on,
and a row without quotes is not one of a token.  So the lines of the document can be read
back from the dump, whatever characters they hold, and with the lines all that is found in
them.
-/

namespace LineLexer

namespace Text

/-- Rows that hold no line feeds are found again by cutting at the line feeds after
them. -/
theorem splitAtLineFeeds_join_rows {rows : List String}
    (areRows : ∀ row ∈ rows, Lacks '\n' row) :
    splitAtLineFeeds (String.join (rows.map (· ++ "\n"))).toList =
      rows.map String.toList ++ [[]] := by
  induction rows with
  | nil => rfl
  | cons row rows ih =>
      obtain ⟨isRow, others⟩ := List.forall_mem_cons.mp areRows
      have first_eq : splitAtLineFeeds (row ++ "\n").toList = [row.toList, []] := by
        rw [String.toList_append, splitAtLineFeeds_append,
          splitAtLineFeeds_of_not_mem isRow]
        exact congrArg (· :: [[]]) (List.append_nil row.toList)
      rw [List.map_cons, String.join_cons, String.toList_append, splitAtLineFeeds_append,
        first_eq, ih others, joinRows_cons (List.cons_ne_nil _ _),
        joinRows_empty (by simp)]
      rfl

end Text

namespace DumpStyle

/-- Whether a character is one of the two by which a dump is read back. -/
def IsMark (char : Char) : Prop :=
  char = '"' ∨ char = '\n'

/-- Whether a row is the header of a line. -/
def isHeaderRow (row : List Char) : Bool :=
  row.head?.any (· != ' ')

/-- What stands from the first quote of a row on, if there is one. -/
def quotedPart? (row : List Char) : Option (List Char) :=
  if '"' ∈ row then some (row.dropWhile (· != '"')) else none

/-! ### The rows of a dump -/

section Rows

variable (style : DumpStyle) (language : Language)

def headerRow (number : Nat) : String :=
  style.palette.dimmed ("L" ++ toString number)

/-- What stands before the text of a token. -/
def tokenLabel (token : Token) : String :=
  "  " ++ (if style.showSpans then style.palette.dimmed (spanText token) else "") ++
    style.palette.classLabel (language.className token.classIndex) ++ " "

def tokenRow (line : String) (token : Token) : String :=
  style.tokenLabel language token ++ Text.quoted (token.text line)

def stackRow? (stack : ActiveStates) : Option String :=
  if stack.above.isEmpty then none
  else some ("  " ++ style.palette.dimmed ("-> " ++ language.stackText stack))

/-- The rows for a line that come after its header. -/
def bodyRows (run : LineRun) : List String :=
  let lexed := run.lexed.mergedIf style.merge
  lexed.tokens.map (style.tokenRow language run.line) ++
    (style.stackRow? language lexed.endStack).toList

/-- The rows for lines that are numbered from `first` on. -/
def rows : (first : Nat) → List LineRun → List String
  | _, [] => []
  | first, run :: runs =>
      style.headerRow first :: (style.bodyRows language run ++ rows (first + 1) runs)

theorem lineText_eq_join (number : Nat) (run : LineRun) :
    style.lineText language number run.line run.lexed =
      String.join ((style.headerRow number :: style.bodyRows language run).map
        (· ++ "\n")) := by
  have stackLine_eq (stack : ActiveStates) :
      style.stackLine language stack =
        String.join ((style.stackRow? language stack).toList.map (· ++ "\n")) := by
    rw [stackLine, stackRow?]
    split <;> rfl
  rw [lineText, stackLine_eq]
  simp only [bodyRows, List.map_cons, List.map_append, List.map_map, String.join_cons,
    String.join_append, ← String.append_assoc]
  rfl

/-- A dump lists the runs of the lines, one after the other. -/
theorem dump_eq_join_mapIdx (text : String) :
    style.dump language text =
      String.join ((language.runDocument text).mapIdx fun index run =>
      style.lineText language (index + 1) run.line run.lexed) := by
  rw [dump, Language.zip_documentLines_lexDocument, List.mapIdx_eq_zipIdx_map,
    List.zipIdx_map, List.map_map, List.mapIdx_eq_zipIdx_map]
  rfl

theorem dump_eq_join (text : String) :
    style.dump language text =
      String.join ((style.rows language 1 (language.runDocument text)).map
        (· ++ "\n")) := by
  have ofRuns (first : Nat) (runs : List LineRun) :
      String.join (runs.mapIdx fun index run =>
          style.lineText language (first + index) run.line run.lexed) =
        String.join ((style.rows language first runs).map (· ++ "\n")) := by
    induction runs generalizing first with
    | nil => rfl
    | cons run runs ih =>
        have others_eq := ih (first + 1)
        simp only [Nat.add_assoc, Nat.add_comm 1] at others_eq
        rw [List.mapIdx_cons, String.join_cons, others_eq, lineText_eq_join, rows,
          ← List.cons_append, List.map_append, String.join_append]
        rfl
  rw [← ofRuns 1 (language.runDocument text), dump_eq_join_mapIdx]
  simp only [Nat.add_comm 1]

end Rows

/-! ### Reading rows -/

theorem lacks_spanText {mark : Char} (notDigit : mark.isDigit = false)
    (notDots : Text.Lacks mark "..") (notBlank : mark ≠ ' ') (token : Token) :
    Text.Lacks mark (spanText token) :=
  (((Text.Lacks.toString notDigit token.start).append notDots).append
    (.toString notDigit token.stop)).append (.replicate notBlank _)

/-- In a dump with these names and colours the rows can be told apart and read back. -/
structure IsReadable (style : DumpStyle) (language : Language) : Prop where
  className : ∀ mark, IsMark mark → ∀ index, Text.Lacks mark (language.className index)
  stateName : ∀ mark, IsMark mark → ∀ state, Text.Lacks mark (language.stateName state)
  sequences : ∀ mark, IsMark mark → ∀ sequence ∈ style.palette.sequences,
    Text.Lacks mark sequence
  dim : style.palette.dim.toList.head? ≠ some ' '

namespace IsReadable

open Text

variable {style : DumpStyle} {language : Language} (readable : style.IsReadable language)

include readable

section Marks

variable {mark : Char} (isMark : IsMark mark)

include isMark

theorem lacks_dimmed {text : String} (lacks : Lacks mark text) :
    Lacks mark (style.palette.dimmed text) := by
  have ofDim := readable.sequences mark isMark style.palette.dim
    (by simp [Palette.sequences])
  have ofReset := readable.sequences mark isMark style.palette.reset
    (by simp [Palette.sequences])
  exact (ofDim.append lacks).append ofReset

theorem lacks_classLabel (index : ClassIndex) :
    Lacks mark (style.palette.classLabel (language.className index)) := by
  have ofSequence := readable.sequences mark isMark
  have ofClass (name : String) : Lacks mark (style.palette.forClass name) := by
    rcases style.palette.forClass_cases name with isSequence | isEmpty
    · exact ofSequence _ isSequence
    · rw [isEmpty]
      exact .empty
  have ofNone : Lacks mark "(none)" := by rcases isMark with rfl | rfl <;> decide
  rw [Palette.classLabel]
  split
  · exact readable.lacks_dimmed isMark ofNone
  · exact ((ofClass _).append (readable.className mark isMark index)).append
      (ofSequence style.palette.reset (by simp [Palette.sequences]))

theorem lacks_tokenLabel (token : Token) :
    Lacks mark (style.tokenLabel language token) := by
  obtain ⟨two, one⟩ : Lacks mark "  " ∧ Lacks mark " " := by
    rcases isMark with rfl | rfl <;> decide
  obtain ⟨notDigit, notDots, notBlank⟩ : mark.isDigit = false ∧ Lacks mark ".." ∧
      mark ≠ ' ' := by
    rcases isMark with rfl | rfl <;> decide
  have ofSpan : Lacks mark
      (if style.showSpans then style.palette.dimmed (spanText token) else "") := by
    split
    · exact readable.lacks_dimmed isMark (lacks_spanText notDigit notDots notBlank token)
    · exact .empty
  exact ((two.append ofSpan).append
    (readable.lacks_classLabel isMark token.classIndex)).append one

theorem lacks_headerRow (number : Nat) : Lacks mark (style.headerRow number) := by
  obtain ⟨letter, notDigit⟩ : Lacks mark "L" ∧ mark.isDigit = false := by
    rcases isMark with rfl | rfl <;> decide
  exact readable.lacks_dimmed isMark (letter.append (.toString notDigit number))

theorem lacks_stackRow {stack : ActiveStates} {row : String}
    (isRow : row ∈ style.stackRow? language stack) : Lacks mark row := by
  obtain ⟨blanks, arrow, notFrame⟩ : Lacks mark "  " ∧ Lacks mark "-> " ∧
      mark ∉ "[, ]".toList := by
    rcases isMark with rfl | rfl <;> decide
  have ofStack := Language.lacks_stackText (readable.stateName mark isMark) notFrame stack
  rw [stackRow?] at isRow
  split at isRow
  · cases isRow
  · obtain rfl := Option.some.inj isRow
    exact blanks.append (readable.lacks_dimmed isMark (arrow.append ofStack))

end Marks

/-! #### Telling rows apart -/

theorem isHeaderRow_headerRow (number : Nat) :
    isHeaderRow (style.headerRow number).toList = true := by
  rw [headerRow, Palette.dimmed, String.toList_append, String.toList_append]
  cases dim_eq : style.palette.dim.toList with
  | nil => simp [isHeaderRow]
  | cons char rest =>
      have notBlank := readable.dim
      rw [dim_eq] at notBlank
      simpa [isHeaderRow] using notBlank

omit readable in
theorem isHeaderRow_of_mem_bodyRows {run : LineRun} {row : String}
    (member : row ∈ style.bodyRows language run) : isHeaderRow row.toList = false := by
  rcases List.mem_append.mp member with isToken | isStack
  · obtain ⟨token, -, rfl⟩ := List.mem_map.mp isToken
    simp [tokenRow, tokenLabel, isHeaderRow]
  · rw [Option.mem_toList, stackRow?] at isStack
    split at isStack
    · cases isStack
    · obtain rfl := Option.some.inj isStack
      simp [isHeaderRow]

theorem lacks_of_mem_rows {first : Nat} {runs : List LineRun} {row : String}
    (member : row ∈ style.rows language first runs) : Lacks '\n' row := by
  induction runs generalizing first with
  | nil => cases member
  | cons run runs ih =>
      rw [rows, List.mem_cons, List.mem_append, bodyRows, List.mem_append, List.mem_map,
        Option.mem_toList] at member
      rcases member with rfl | (⟨token, -, rfl⟩ | isStack) | isOther
      · exact readable.lacks_headerRow (.inr rfl) first
      · exact (readable.lacks_tokenLabel (.inr rfl) token).append
          (.quoted (by decide +kernel) _)
      · exact readable.lacks_stackRow (.inr rfl) isStack
      · exact ih isOther

/-- The pieces of a dump between line feeds. -/
theorem splitAtLineFeeds_dump (text : String) :
    splitAtLineFeeds (style.dump language text).toList =
      (style.rows language 1 (language.runDocument text)).map String.toList ++ [[]] := by
  rw [dump_eq_join]
  exact splitAtLineFeeds_join_rows fun row member => readable.lacks_of_mem_rows member

/-- The headers among the rows are numbered one after the other. -/
theorem filter_isHeaderRow_rows (first : Nat) (runs : List LineRun) :
    ((style.rows language first runs).map String.toList).filter isHeaderRow =
      (List.range runs.length).map fun index =>
        (style.headerRow (first + index)).toList := by
  induction runs generalizing first with
  | nil => rfl
  | cons run runs ih =>
      have noneInBody :
          ((style.bodyRows language run).map String.toList).filter isHeaderRow = [] := by
        refine List.filter_eq_nil_iff.mpr fun row member => ?_
        obtain ⟨row, isRow, rfl⟩ := List.mem_map.mp member
        exact Bool.eq_false_iff.mp (isHeaderRow_of_mem_bodyRows isRow)
      rw [rows, List.map_cons,
        List.filter_cons_of_pos (readable.isHeaderRow_headerRow first), List.map_append,
        List.filter_append, noneInBody, ih, List.length_cons, List.range_succ_eq_map,
        List.map_cons, List.map_map]
      simp [Function.comp_def, Nat.add_assoc, Nat.add_comm 1]

/-! #### Reading lines back -/

/-- The quoted texts in the rows for a line are those of its tokens. -/
theorem filterMap_quotedPart?_bodyRows (run : LineRun) :
    ((style.bodyRows language run).map String.toList).filterMap quotedPart? =
      ((run.lexed.mergedIf style.merge).texts run.line).map fun text =>
        (quoted text).toList := by
  have ofToken (token : Token) :
      quotedPart? (style.tokenRow language run.line token).toList =
        some (quoted (token.text run.line)).toList := by
    have noQuote : Lacks '"' (style.tokenLabel language token) :=
      readable.lacks_tokenLabel (.inl rfl) token
    have passes : ∀ char ∈ (style.tokenLabel language token).toList,
        (char != '"') = true :=
      fun char member => bne_iff_ne.mpr fun isQuote => noQuote (isQuote ▸ member)
    rw [tokenRow, String.toList_append, toList_quoted, quotedPart?, if_pos (by simp),
      List.dropWhile_append_of_pos passes, List.dropWhile_cons_of_neg (by simp)]
  have ofStack :
      ((style.stackRow? language (run.lexed.mergedIf style.merge).endStack).toList.map
      String.toList).filterMap quotedPart? = [] := by
    refine List.filterMap_eq_nil_iff.mpr fun row member => ?_
    obtain ⟨row, isRow, rfl⟩ := List.mem_map.mp member
    exact if_neg (readable.lacks_stackRow (.inl rfl) (Option.mem_toList.mp isRow))
  rw [bodyRows, List.map_append, List.filterMap_append, ofStack, List.append_nil,
    List.map_map, List.filterMap_map, LexedLine.texts, List.map_map,
    ← List.filterMap_eq_map]
  exact List.filterMap_congr fun token _ => ofToken token

/-- The rows for two lines are different if the lines are, whatever stacks they start
with. -/
theorem line_eq_of_bodyRows_eq {stack otherStack : ActiveStates} {line other : String}
    (same : style.bodyRows language (language.runLine stack line) =
      style.bodyRows language (language.runLine otherStack other)) : line = other := by
  have join_texts (stack : ActiveStates) (line : String) :
      String.join (((language.lexLine stack line).mergedIf style.merge).texts line) =
        line := by
    have tiles : Tiles 0 line.toList (language.lexLine stack line).tokens :=
      Scanner.tiles_steps language (Scanner.start line stack)
    exact (LexedLine.tiles_mergedIf tiles style.merge).covers.join_texts
  have quoted_eq :=
    congrArg (fun rows => (rows.map String.toList).filterMap quotedPart?) same
  simp only [readable.filterMap_quotedPart?_bodyRows] at quoted_eq
  have isInjective : Function.Injective fun text => (quoted text).toList :=
    fun _ _ same => quoted_injective (String.toList_inj.mp same)
  have texts_eq := List.map_injective_iff.mpr isInjective quoted_eq
  calc
    line = String.join (((language.lexLine stack line).mergedIf style.merge).texts
      line) := (join_texts stack line).symm
    _ = String.join
      (((language.lexLine otherStack other).mergedIf style.merge).texts other) :=
      congrArg String.join texts_eq
    _ = other := join_texts otherStack other

/-- The rows for a line end where the next header stands. -/
theorem takeWhile_bodyRows_append (run : LineRun) (first : Nat) (runs : List LineRun) :
    (style.bodyRows language run ++ style.rows language first runs).takeWhile
      (fun row => !isHeaderRow row.toList) = style.bodyRows language run := by
  have atHeader : (style.rows language first runs).takeWhile
      (fun row => !isHeaderRow row.toList) = [] := by
    cases runs with
    | nil => rfl
    | cons run runs =>
        exact List.takeWhile_cons_of_neg (by simp [readable.isHeaderRow_headerRow])
  rw [List.takeWhile_append_of_pos
    fun row member => by simp [isHeaderRow_of_mem_bodyRows member], atHeader,
    List.append_nil]

/-- The rows of two documents are different if their lines are. -/
theorem lines_eq_of_rows_eq {first : Nat} {stack otherStack : ActiveStates}
    {lines others : List String}
    (same : style.rows language first (language.runLines stack lines) =
      style.rows language first (language.runLines otherStack others)) :
    lines =
        others := by
  induction lines generalizing first stack otherStack others with
  | nil =>
      cases others with
      | nil => rfl
      | cons other others => cases same
  | cons line lines ih =>
      cases others with
      | nil => cases same
      | cons other others =>
          have after_eq := (List.cons.inj same).2
          have body_eq :=
            congrArg (List.takeWhile fun row => !isHeaderRow row.toList) after_eq
          rw [readable.takeWhile_bodyRows_append,
            readable.takeWhile_bodyRows_append] at body_eq
          rw [body_eq] at after_eq
          rw [readable.line_eq_of_bodyRows_eq body_eq,
            ih (List.append_cancel_left after_eq)]

/-- Dumps of documents with different lines are different. -/
theorem documentLines_eq_of_dump_eq {first second : String}
    (same : style.dump language first = style.dump language second) :
    documentLines first = documentLines second := by
  have pieces_eq := congrArg (fun dump => splitAtLineFeeds dump.toList) same
  simp only [readable.splitAtLineFeeds_dump] at pieces_eq
  have isInjective : Function.Injective String.toList :=
    fun _ _ same => String.toList_inj.mp same
  exact readable.lines_eq_of_rows_eq
    (List.map_injective_iff.mpr isInjective (List.append_cancel_right pieces_eq))

/-- The headers of a dump: one for each line of the document, numbered from one on. -/
theorem filter_isHeaderRow_dump (text : String) :
    (splitAtLineFeeds (style.dump language text).toList).filter isHeaderRow =
      (List.range (documentLines text).length).map fun index =>
        (style.headerRow (index + 1)).toList := by
  have lines_eq : (language.runDocument text).map LineRun.line = documentLines text :=
    Language.map_line_runLines
  rw [readable.splitAtLineFeeds_dump, List.filter_append,
    readable.filter_isHeaderRow_rows, ← lines_eq, List.length_map]
  simp [isHeaderRow, Nat.add_comm 1]

end IsReadable

end DumpStyle

namespace PowerQuery

/-- Every dump of Power Query documents can be read back. -/
theorem isReadable (colored showSpans merge : Bool) :
    DumpStyle.IsReadable { palette := .ofChoice colored, showSpans, merge } language where
  className mark isMark := by
    rcases isMark with rfl | rfl <;>
      exact Language.lacks_className compile_grammar (by decide +kernel)
        (by decide +kernel)
  stateName mark isMark := by
    rcases isMark with rfl | rfl <;>
      exact Language.lacks_stateName compile_grammar (by decide +kernel)
  sequences mark isMark := by
    have areLacking : ∀ sequence ∈ (Palette.ofChoice colored).sequences,
        Text.Lacks mark sequence := by
      rcases isMark with rfl | rfl <;> cases colored <;> decide
    exact areLacking
  dim := by
    have notBlank : (Palette.ofChoice colored).dim.toList.head? ≠ some ' ' := by
      cases colored <;> decide
    exact notBlank

/-- The dump of a document has one header for each line of the document, in order and
numbered from one on, and no other row looks like a header.  Documents with the same dump
have the same lines, and so the same tokens, classes and stacks at the ends of lines. -/
theorem documentLines_determined_by_dump (colored showSpans merge : Bool) :
    let style : DumpStyle := { palette := .ofChoice colored, showSpans, merge }
    (∀ text, (Text.splitAtLineFeeds (style.dump language text).toList).filter
      DumpStyle.isHeaderRow =
      (List.range (Text.documentLines text).length).map fun index =>
        (style.palette.dimmed ("L" ++ toString (index + 1))).toList) ∧
    ∀ first second, style.dump language first = style.dump language second →
      Text.documentLines first = Text.documentLines second ∧
        language.lexDocument first = language.lexDocument second := by
  intro style
  have readable : style.IsReadable language := isReadable colored showSpans merge
  refine ⟨readable.filter_isHeaderRow_dump, fun first second same => ?_⟩
  have lines_eq := readable.documentLines_eq_of_dump_eq same
  refine ⟨lines_eq, ?_⟩
  rw [language.lexDocument_eq_lexLines first,
    language.lexDocument_eq_lexLines second, lines_eq]

theorem documentLines_determined_by_dump_carriageReturn :
    let style : DumpStyle := { showSpans := true }
    style.dump language "(\r\n)" = style.dump language "(\n)" ∧
      Text.documentLines "(\r\n)" = Text.documentLines "(\n)" := by
  intro style
  have same : style.dump language "(\r\n)" = style.dump language "(\n)" := by
    decide +kernel
  exact ⟨same, ((documentLines_determined_by_dump false true false).2 _ _ same).1⟩

end PowerQuery

end LineLexer
