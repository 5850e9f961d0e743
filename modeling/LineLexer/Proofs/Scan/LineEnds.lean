import LineLexer.Catalog.PowerQuery
import LineLexer.Proofs.Scan.Lines
import LineLexer.Proofs.Text.Lines

/-!
# Documents and their lines

A document is written line by line, with an end of either style after every line but the
last.  Its lines can be read back whatever the ends are, as long as no line holds a line
feed or ends with a carriage return.  At every line feed a document can be cut in two: it
has the lines of the two parts, and those of the second part are scanned from the stack
that the first part leaves.
-/

namespace LineLexer

namespace Text

/-- What can stand between two lines of a document. -/
inductive LineEnd where
  | lineFeed
  | returnLineFeed
  deriving DecidableEq, Repr

def LineEnd.text : LineEnd → String
  | lineFeed => "\n"
  | returnLineFeed => "\r\n"

/-- The document with some lines, each with its end, and a last line without one. -/
def written (ended : List (String × LineEnd)) (last : String) : String :=
  ended.foldr (fun line text => line.1 ++ line.2.text ++ text) last

theorem written_cons (line : String) (lineEnd : LineEnd) (ended : List (String × LineEnd))
    (last : String) :
    written ((line, lineEnd) :: ended) last =
      line ++ lineEnd.text ++ written ended last :=
  rfl

theorem documentLines_append_lineFeed (first second : String) :
    documentLines (first ++ "\n" ++ second) =
      documentLines first ++ documentLines second := by
  have pieces : splitAtLineFeeds (first ++ "\n" ++ second).toList =
      splitAtLineFeeds first.toList ++ splitAtLineFeeds second.toList := by
    rw [String.toList_append, String.toList_append, List.append_assoc,
      splitAtLineFeeds_append]
    change joinRows _ ([] :: splitAtLineFeeds second.toList) = _
    exact joinRows_nil_cons (splitAtLineFeeds_ne_nil first.toList)
  rw [documentLines, pieces, List.map_append]
  rfl

theorem documentLines_ne_nil (text : String) : documentLines text ≠ [] := by
  rw [documentLines, ne_eq, List.map_eq_nil_iff]
  exact splitAtLineFeeds_ne_nil text.toList

theorem documentLines_of_isPlain {line : String} (isPlain : IsPlain line.toList) :
    documentLines line = [line] := by
  rw [documentLines, splitAtLineFeeds_of_not_mem isPlain.noLineFeed, List.map_singleton,
    dropFinalReturn_eq_self isPlain.noFinalReturn, String.ofList_toList]

theorem documentLines_append_return {line : String} (isPlain : IsPlain line.toList) :
    documentLines (line ++ "\r") = [line] := by
  have noLineFeed : '\n' ∉ (line ++ "\r").toList := by
    rw [String.toList_append, List.mem_append, not_or]
    exact ⟨isPlain.noLineFeed, by decide⟩
  rw [documentLines, splitAtLineFeeds_of_not_mem noLineFeed, List.map_singleton,
    String.toList_append, dropFinalReturn_append_of_ne (by decide)]
  simp [dropFinalReturn]

/-- A written document has the lines that it was written with. -/
theorem documentLines_written {ended : List (String × LineEnd)} {last : String}
    (arePlain : ∀ line ∈ ended.map Prod.fst ++ [last], IsPlain line.toList) :
    documentLines (written ended last) = ended.map Prod.fst ++ [last] := by
  induction ended with
  | nil => exact documentLines_of_isPlain (arePlain last (by simp))
  | cons first ended ih =>
      obtain ⟨line, lineEnd⟩ := first
      rw [List.map_cons, List.cons_append, List.forall_mem_cons] at arePlain
      obtain ⟨isPlain, othersPlain⟩ := arePlain
      rw [written_cons, List.map_cons, List.cons_append, ← ih othersPlain]
      cases lineEnd with
      | lineFeed =>
          rw [LineEnd.text, documentLines_append_lineFeed,
            documentLines_of_isPlain isPlain, List.singleton_append]
      | returnLineFeed =>
          -- The carriage return is left to the first part of the cut.
          have cut : line ++ LineEnd.returnLineFeed.text = line ++ "\r" ++ "\n" := by
            rw [String.append_assoc]
            rfl
          rw [cut, documentLines_append_lineFeed, documentLines_append_return isPlain,
            List.singleton_append]

end Text

namespace Language

variable {language : Language}

theorem runLine_mem_runDocument {line : String} (isPlain : Text.IsPlain line.toList) :
    language.runLine language.initialStack line ∈ language.runDocument line := by
  rw [runDocument, Text.documentLines_of_isPlain isPlain]
  exact List.mem_singleton_self _

theorem lexDocument_ne_nil (text : String) : language.lexDocument text ≠ [] := by
  intro isEmpty
  have length_eq := congrArg List.length isEmpty
  rw [lexDocument_eq_lexLines, length_lexLines, List.length_nil,
    List.length_eq_zero_iff] at length_eq
  exact Text.documentLines_ne_nil text length_eq

/-- A document is scanned as the list of its lines, whichever ends separate them; and
where it is cut at a line feed, the lines of the second part are scanned from the stack
that the last line of the first part leaves. -/
theorem lexDocument_decomposes (language : Language) :
    (∀ (ended : List (String × Text.LineEnd)) (last : String),
      (∀ line ∈ ended.map Prod.fst ++ [last], Text.IsPlain line.toList) →
        Text.documentLines (Text.written ended last) = ended.map Prod.fst ++ [last] ∧
          ∀ others : List (String × Text.LineEnd),
            others.map Prod.fst = ended.map Prod.fst →
            language.lexDocument (Text.written others last) =
              language.lexDocument (Text.written ended last)) ∧
      ∀ first second : String,
        Text.documentLines (first ++ "\n" ++ second) =
            Text.documentLines first ++ Text.documentLines second ∧
          ∃ lastLine, (language.lexDocument first).getLast? = some lastLine ∧
            language.lexDocument (first ++ "\n" ++ second) =
              language.lexDocument first ++
                language.lexLines lastLine.endStack (Text.documentLines second) := by
  refine ⟨fun ended last arePlain => ⟨Text.documentLines_written arePlain, ?_⟩,
    fun first second => ?_⟩
  · intro others sameLines
    rw [← sameLines] at arePlain
    rw [lexDocument_eq_lexLines, lexDocument_eq_lexLines,
      Text.documentLines_written arePlain,
      Text.documentLines_written (sameLines ▸ arePlain), sameLines]
  · refine ⟨Text.documentLines_append_lineFeed first second, ?_⟩
    obtain ⟨lastLine, isLast⟩ : ∃ lastLine, (language.lexDocument first).getLast? =
        some lastLine :=
      ⟨_, List.getLast?_eq_some_getLast (lexDocument_ne_nil first)⟩
    have stack_eq : stackAfterLines language.initialStack (language.lexDocument first) =
        lastLine.endStack := by
      rw [stackAfterLines, isLast]
      rfl
    refine ⟨lastLine, isLast, ?_⟩
    rw [lexDocument_eq_lexLines, Text.documentLines_append_lineFeed, lexLines_append,
      ← lexDocument_eq_lexLines, stack_eq]

/-- A Power Query comment over three lines is the same document with line ends of either
style. -/
theorem powerQuery_lexDocument_mixedEnds :
    let ended : List (String × Text.LineEnd) :=
      [("a /* b", .returnLineFeed), ("", .lineFeed), ("\rc */", .returnLineFeed)]
    let others : List (String × Text.LineEnd) :=
      [("a /* b", .lineFeed), ("", .returnLineFeed), ("\rc */", .lineFeed)]
    (∀ line ∈ ended.map Prod.fst ++ ["d"], Text.IsPlain line.toList) ∧
      Text.documentLines (Text.written ended "d") = ["a /* b", "", "\rc */", "d"] ∧
        others.map Prod.fst = ended.map Prod.fst ∧
          PowerQuery.language.lexDocument (Text.written others "d") =
            PowerQuery.language.lexDocument (Text.written ended "d") := by
  intro ended others
  have arePlain : ∀ line ∈ ended.map Prod.fst ++ ["d"], Text.IsPlain line.toList := by
    have evaluated : ∀ line ∈ ["a /* b", "", "\rc */", "d"],
        '\n' ∉ line.toList ∧ line.toList.getLast? ≠ some '\r' := by
      decide
    exact fun line member => ⟨(evaluated line member).1, (evaluated line member).2⟩
  obtain ⟨lines_eq, sameLexed⟩ :=
    (lexDocument_decomposes PowerQuery.language).1 ended "d" arePlain
  exact ⟨arePlain, lines_eq, rfl, sameLexed others rfl⟩

end Language

end LineLexer
