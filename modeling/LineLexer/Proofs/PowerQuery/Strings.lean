import LineLexer.Proofs.PowerQuery.States

/-!
# Strings of Power Query

A text is put into a string by doubling its quotes and writing quotes around it.  Whatever
the text is, also over several lines, the tokens of the string give it back: the two
quotes around it are the first and the last token, a doubled quote is a token of its own
class, and every other character is a token.  So the string ends at its last quote and
nowhere before.
-/

namespace LineLexer.PowerQuery

open Grammar Text

/-- A character as it stands in a string. -/
def doubled (char : Char) : List Char :=
  if char = '"' then ['"', '"'] else [char]

/-- The string of a text. -/
def stringLiteral (text : String) : String :=
  String.ofList ('"' :: (text.toList.flatMap doubled ++ ['"']))

/-- The text that a token inside of a string stands for, by its class and its own text. -/
def unescaped (token : String × String) : String :=
  if token.1 = "string.escape.pq" then "\"" else token.2

/-- The text that the tokens of a string stand for: all but the first and the last of
them, with one quote for each doubled one, and with line feeds between the lines. -/
def stringText (tokens : List (List (String × String))) : String :=
  "\n".intercalate (((tokens.modifyHead List.tail).modifyLast List.dropLast).map
    fun line =>
    String.join (line.map unescaped))

/-! ### Doubled quotes and lines -/

theorem doubled_of_ne {char : Char} (notQuote : char ≠ '"') : doubled char = [char] :=
  if_neg notQuote

theorem noLineFeed_doubled {char : Char} (noLineFeed : char ≠ '\n') :
    '\n' ∉ doubled char := by
  by_cases isQuote : char = '"'
  · subst isQuote
    decide
  · rw [doubled_of_ne isQuote, List.mem_singleton]
    exact Ne.symm noLineFeed

/-- Doubling quotes does not change how a text is cut at line feeds. -/
theorem splitAtLineFeeds_flatMap_doubled (text : List Char) :
    splitAtLineFeeds (text.flatMap doubled) =
      (splitAtLineFeeds text).map (·.flatMap doubled) := by
  induction text with
  | nil => rfl
  | cons char rest ih =>
      obtain ⟨piece, pieces, pieces_eq⟩ :=
        List.exists_cons_of_ne_nil (splitAtLineFeeds_ne_nil rest)
      rw [List.flatMap_cons, splitAtLineFeeds_append, ih]
      by_cases isLineFeed : char = '\n'
      · subst isLineFeed
        rw [splitAtLineFeeds, if_pos rfl, pieces_eq]
        rfl
      · rw [splitAtLineFeeds_of_not_mem (noLineFeed_doubled isLineFeed),
          splitAtLineFeeds_cons_of_ne isLineFeed, pieces_eq]
        rfl

/-- Nor does it change which carriage returns end a line. -/
theorem dropFinalReturn_flatMap_doubled (text : List Char) :
    dropFinalReturn (text.flatMap doubled) = (dropFinalReturn text).flatMap doubled := by
  rcases List.eq_nil_or_concat text with rfl | ⟨front, last, rfl⟩
  · rfl
  · have last_ne : doubled last ≠ [] := by
      unfold doubled
      split <;> exact List.cons_ne_nil _ _
    rw [List.concat_eq_append, List.flatMap_append, List.flatMap_singleton,
      dropFinalReturn_append_of_ne last_ne,
      dropFinalReturn_append_of_ne (List.cons_ne_nil last []), List.flatMap_append]
    congr 1
    by_cases isReturn : last = '\r'
    · subst isReturn
      rfl
    · have kept : (doubled last).getLast? ≠ some '\r' := by
        by_cases isQuote : last = '"'
        · subst isQuote
          decide
        · simpa [doubled_of_ne isQuote] using isReturn
      rw [dropFinalReturn_eq_self kept, dropFinalReturn_eq_self (by simpa using isReturn),
        List.flatMap_singleton]

theorem endedRows_map_doubled (rows : List (List Char)) :
    endedRows (rows.map (·.flatMap doubled)) =
      (endedRows rows).map (·.flatMap doubled) := by
  induction rows with
  | nil => rfl
  | cons row rows ih =>
      cases rows with
      | nil => rfl
      | cons next rows =>
          rw [List.map_cons, endedRows_cons (by simp), ih,
            dropFinalReturn_flatMap_doubled, endedRows]
          rfl

/-! ### Taking a string -/

/-- The token of a quote that opens or closes a string. -/
def quotePiece : Piece :=
  ⟨language.classIndexOf "string", ['"']⟩

/-- The token of a character inside of a string. -/
def stringPiece (char : Char) : Piece :=
  ⟨language.classIndexOf (if char = '"' then "string.escape" else "string"), doubled char⟩

theorem spelled_map_stringPiece (part : List Char) :
    Piece.spelled (part.map stringPiece) = part.flatMap doubled := by
  rw [Piece.spelled, List.flatMap_map]
  rfl

section Taking

variable {stack : ActiveStates} {char : Char} {rest : List Char}

theorem takesPieces_opening (isRoot : stack.top = rootState) :
    TakesPieces language stack [quotePiece] rest (stack.push stringState) :=
  takesPieces_of_selects isCompiled ['"']
    (isPosition_root.trans (congrArg some isRoot.symm))
    isEntries_root selects_root_string (.push isPosition_string)

theorem takesPieces_closing (notEscape : rest.head? ≠ some '"') :
    TakesPieces language (stack.push stringState) [quotePiece] rest stack :=
  takesPieces_of_selects isCompiled ['"'] isPosition_string isEntries_string
    (selects_string_closing notEscape) .pop

theorem takesPieces_inside (noLineFeed : char ≠ '\n') :
    TakesPieces language (stack.push stringState) [stringPiece char] rest
      (stack.push stringState) := by
  by_cases isQuote : char = '"'
  · subst isQuote
    exact takesPieces_of_selects isCompiled ['"', '"'] isPosition_string isEntries_string
      selects_string_escape .none
  · rw [stringPiece, if_neg isQuote, doubled_of_ne isQuote]
    exact takesPieces_of_selects isCompiled [char] isPosition_string isEntries_string
      (selects_string_char noLineFeed isQuote) .none

/-- Inside of a string all characters of a line are taken, whatever follows them. -/
theorem takesPieces_part {part : List Char} (noLineFeed : '\n' ∉ part) :
    TakesPieces language (stack.push stringState) (part.map stringPiece) rest
      (stack.push stringState) := by
  refine takesPieces_map fun front char back parts => takesPieces_inside ?_
  rintro rfl
  exact noLineFeed (parts ▸ List.mem_append_right front List.mem_cons_self)

theorem encloses_string {rows : List (List Char)} (nonempty : rows ≠ [])
    (noLineFeeds : ∀ row ∈ rows, '\n' ∉ row) (notEscape : rest.head? ≠ some '"') :
    Encloses language (stack.push stringState) stack quotePiece rest
      (rows.map (·.map stringPiece)) := by
  refine encloses_of_takes (by simpa using nonempty) (fun pieces member => ?_)
    (takesPieces_closing notEscape)
  obtain ⟨row, isRow, rfl⟩ := List.mem_map.mp member
  exact ⟨takesPieces_part (noLineFeeds row isRow),
    takesPieces_part (noLineFeeds row isRow)⟩

end Taking

/-! ### The tokens of a string -/

/-- The rows of the text of a string. -/
def stringParts (text : String) : List (List Piece) :=
  (endedRows (splitAtLineFeeds text.toList)).map (·.map stringPiece)

theorem isPlain_quote : IsPlain quotePiece.chars :=
  ⟨by decide, by decide⟩

theorem stringParts_eq (text : String) :
    endedRows (splitAtLineFeeds (text.toList.flatMap doubled)) =
      (stringParts text).map Piece.spelled := by
  rw [splitAtLineFeeds_flatMap_doubled, endedRows_map_doubled, stringParts, List.map_map]
  exact List.map_congr_left fun row _ => (spelled_map_stringPiece row).symm

theorem not_mem_of_mem_endedRows {text row : List Char}
    (member : row ∈ endedRows (splitAtLineFeeds text)) : '\n' ∉ row := by
  obtain ⟨piece, isPiece, isPrefix⟩ := exists_isPrefix_of_mem_endedRows member
  exact fun isLineFeed => not_mem_of_mem_splitAtLineFeeds isPiece
    (isPrefix.subset isLineFeed)

theorem encloses_stringParts (stack : ActiveStates) (text : String) :
    Encloses language (stack.push stringState) stack quotePiece [] (stringParts text) :=
  encloses_string (endedRows_ne_nil (splitAtLineFeeds_ne_nil _))
    (fun _ => not_mem_of_mem_endedRows) (by simp)

theorem takesPieces_initial (rest : List Char) :
    TakesPieces language language.initialStack [quotePiece] rest
      (language.initialStack.push stringState) :=
  takesPieces_opening top_initialStack

theorem stringLiteral_eq (text : String) :
    stringLiteral text =
      String.ofList (quotePiece.chars ++
        (text.toList.flatMap doubled ++ quotePiece.chars)) := by
  rfl

theorem lexDocument_stringLiteral (text : String) :
    language.lexDocument (stringLiteral text) =
      lexedRows (language.initialStack.push stringState) language.initialStack
        (regionRows quotePiece quotePiece (stringParts text)) := by
  rw [stringLiteral_eq]
  exact lexDocument_region isPlain_quote isPlain_quote (List.cons_ne_nil _ _)
    (stringParts_eq text) takesPieces_initial (encloses_stringParts _ text)

theorem documentLines_stringLiteral (text : String) :
    documentLines (stringLiteral text) =
      (regionRows quotePiece quotePiece (stringParts text)).map fun pieces =>
        String.ofList (Piece.spelled pieces) := by
  rw [stringLiteral_eq]
  exact documentLines_region isPlain_quote isPlain_quote (List.cons_ne_nil _ _)
    (stringParts_eq text)

theorem documentTokens_stringLiteral (text : String) :
    language.documentTokens (stringLiteral text) =
      (regionRows quotePiece quotePiece (stringParts text)).map fun pieces =>
        pieces.map (Piece.namedText language) := by
  rw [stringLiteral_eq]
  exact documentTokens_region isPlain_quote isPlain_quote (List.cons_ne_nil _ _)
    (stringParts_eq text) takesPieces_initial (encloses_stringParts _ text)

theorem namedText_quotePiece : quotePiece.namedText language = ("string.pq", "\"") := by
  rw [Piece.namedText, quotePiece, className_string]

theorem namedText_stringPiece (char : Char) :
    (stringPiece char).namedText language =
      if char = '"' then ("string.escape.pq", "\"\"")
      else ("string.pq", String.singleton char) := by
  rw [Piece.namedText, stringPiece]
  by_cases isQuote : char = '"'
  · subst isQuote
    rw [if_pos rfl, if_pos rfl, className_escape]
    rfl
  · rw [if_neg isQuote, if_neg isQuote, className_string, doubled_of_ne isQuote,
      String.singleton_eq_ofList]

theorem unescaped_stringPiece (char : Char) :
    unescaped ((stringPiece char).namedText language) = String.singleton char := by
  rw [namedText_stringPiece, unescaped]
  by_cases isQuote : char = '"'
  · subst isQuote
    rfl
  · rw [if_neg isQuote, if_neg (show ¬ "string.pq" = "string.escape.pq" by decide)]

/-- All tokens of a string in one row: a quote, one token for each character of the text,
and a quote. -/
theorem flatten_documentTokens (text : String) :
    (language.documentTokens (stringLiteral text)).flatten =
      ("string.pq", "\"") ::
        ((endedRows (splitAtLineFeeds text.toList)).flatten.map
          (Piece.namedText language ∘ stringPiece)) ++ [("string.pq", "\"")] := by
  have pieces_eq : (stringParts text).flatten =
      (endedRows (splitAtLineFeeds text.toList)).flatten.map stringPiece :=
    List.map_flatten.symm
  rw [documentTokens_stringLiteral, ← List.map_flatten, regionRows, flatten_joinRows,
    flatten_joinRows, pieces_eq, List.flatten_singleton, List.map_append, List.map_append,
    List.map_map, List.map_singleton, namedText_quotePiece]
  rfl

theorem countP_escape (text : String) :
    (language.documentTokens (stringLiteral text)).flatten.countP
      (·.1 == "string.escape.pq") = text.toList.count '"' := by
  have isEscape : ((fun token : String × String => token.1 == "string.escape.pq") ∘
      (Piece.namedText language ∘ stringPiece)) = (· == '"') := by
    funext char
    rw [Function.comp_apply, Function.comp_apply, namedText_stringPiece]
    by_cases isQuote : char = '"'
    · simp [isQuote]
    · simp [isQuote]
  calc
    _ = (endedRows (splitAtLineFeeds text.toList)).flatten.count '"' := by
      rw [flatten_documentTokens, List.countP_append, List.countP_cons,
        List.countP_map, isEscape]
      rfl
    _ = text.toList.count '"' := by
      rw [count_flatten_endedRows (by decide), flatten_splitAtLineFeeds,
        List.count_filter (by decide)]

/-- The tokens of a string stand for its text, if no carriage return of the text is lost
at the end of a line. -/
theorem stringText_documentTokens {text : String} (noReturn : '\r' ∉ text.toList) :
    stringText (language.documentTokens (stringLiteral text)) = text := by
  have rows_eq : endedRows (splitAtLineFeeds text.toList) =
      splitAtLineFeeds text.toList := by
    refine endedRows_eq_self fun row isRow isReturn => noReturn ?_
    have inside : '\r' ∈ (splitAtLineFeeds text.toList).flatten :=
      List.mem_flatten.mpr ⟨row, isRow, isReturn⟩
    rw [flatten_splitAtLineFeeds] at inside
    exact (List.mem_filter.mp inside).1
  have parts_ne : (stringParts text).map (List.map (Piece.namedText language)) ≠ [] := by
    simpa using (encloses_stringParts language.initialStack text).ne_nil
  have inner :
      ((language.documentTokens (stringLiteral text)).modifyHead List.tail).modifyLast
      List.dropLast = (stringParts text).map (List.map (Piece.namedText language)) := by
    rw [documentTokens_stringLiteral, regionRows,
      map_joinRows (List.map (Piece.namedText language)) (fun _ _ => List.map_append),
      map_joinRows (List.map (Piece.namedText language)) (fun _ _ => List.map_append)]
    simp only [List.map_cons, List.map_nil]
    rw [modifyHead_tail_joinRows (joinRows_ne_nil parts_ne),
      modifyLast_dropLast_joinRows parts_ne]
  have lines_eq : ((stringParts text).map (List.map (Piece.namedText language))).map
      (fun line => String.join (line.map unescaped)) =
        (splitAtLineFeeds text.toList).map String.ofList := by
    have each : (unescaped ∘ Piece.namedText language) ∘ stringPiece =
        String.singleton := by
      funext char
      rw [Function.comp_apply, Function.comp_apply, unescaped_stringPiece]
    rw [stringParts, rows_eq, List.map_map, List.map_map]
    refine List.map_congr_left fun row _ => ?_
    rw [Function.comp_apply, Function.comp_apply, List.map_map, List.map_map, each,
      ← String.toList_inj, String.toList_join, List.flatMap_map]
    simp
  have same : String.toList ∘ String.ofList = id := funext fun _ => String.toList_ofList
  rw [stringText, inner, lines_eq, ← String.toList_inj, String.toList_intercalate,
    List.map_map, same, List.map_id]
  exact intercalate_splitAtLineFeeds text.toList

/-- In a line a string is followed by what starts a line of its own, unless a further
quote follows. -/
theorem lexLine_stringLiteral_append {stack : ActiveStates} {text after : String}
    (isRoot : stack.top = rootState) (noLineFeed : '\n' ∉ text.toList)
    (noQuote : after.toList.head? ≠ some '"') :
    language.lexLine stack (stringLiteral text ++ after) =
      (language.lexLine stack (stringLiteral text)).followedBy
        (language.lexLine stack after) := by
  have takes {rest : List Char} (notEscape : rest.head? ≠ some '"') :
      TakesPieces language stack
        ([quotePiece] ++ (text.toList.map stringPiece ++ [quotePiece])) rest stack :=
    (takesPieces_opening isRoot).append
      ((takesPieces_part noLineFeed).append (takesPieces_closing notEscape))
  have spelled_eq :
      Piece.spelled ([quotePiece] ++ (text.toList.map stringPiece ++ [quotePiece])) =
      (stringLiteral text).toList := by
    simp [spelled_map_stringPiece, stringLiteral, quotePiece]
  have withAfter := (takes noQuote).lexLine
  have takesAlone : TakesPieces language stack
      ([quotePiece] ++ (text.toList.map stringPiece ++ [quotePiece])) [] stack :=
        takes (by simp)
  have alone := takesAlone.lexLine
  rw [spelled_eq, String.ofList_append, String.ofList_toList,
    String.ofList_toList] at withAfter
  rw [spelled_eq, List.append_nil, String.ofList_toList, String.ofList_nil,
    lexLine_empty] at alone
  rw [withAfter, alone]
  simp [LexedLine.followedBy]

/-- A text that is put into a string is given back by the tokens of the string.  They are
all of one of the two classes of strings; those of the one class are as many as the text
has quotes; all lines but the last end inside of the string and the last one outside of
it; and without carriage returns the text is that for which the tokens between the first
and the last one stand.  What follows a string in a line, other than a quote, is scanned
as a line of its own. -/
theorem stringLiteral_roundTrips (text : String) :
    (∀ line ∈ language.documentTokens (stringLiteral text), ∀ token ∈ line,
        token.1 = "string.pq" ∨ token.1 = "string.escape.pq") ∧
      (language.documentTokens (stringLiteral text)).flatten.countP
        (·.1 == "string.escape.pq") = text.toList.count '"' ∧
      (language.lexDocument (stringLiteral text)).map
          (fun line => language.stackNames line.endStack) =
        List.replicate ((documentLines (stringLiteral text)).length - 1)
          ["root", "string"] ++ [["root"]] ∧
      ('\r' ∉ text.toList →
        stringText (language.documentTokens (stringLiteral text)) = text) ∧
      ∀ (stack : ActiveStates) (after : String), stack.top = language.start →
        '\n' ∉ text.toList → after.toList.head? ≠ some '"' →
          language.lexLine stack (stringLiteral text ++ after) =
            (language.lexLine stack (stringLiteral text)).followedBy
              (language.lexLine stack after) := by
  refine ⟨?_, countP_escape text, ?_, stringText_documentTokens, ?_⟩
  · intro line isLine token isToken
    have member := List.mem_flatten.mpr ⟨line, isLine, isToken⟩
    rw [flatten_documentTokens, List.mem_append, List.mem_cons, List.mem_map,
      List.mem_singleton] at member
    rcases member with (rfl | ⟨char, -, rfl⟩) | rfl
    · exact Or.inl rfl
    · rw [Function.comp_apply, namedText_stringPiece]
      split
      · exact Or.inr rfl
      · exact Or.inl rfl
    · exact Or.inl rfl
  · have length_eq : (documentLines (stringLiteral text)).length =
        (regionRows quotePiece quotePiece (stringParts text)).length := by
      rw [documentLines_stringLiteral, List.length_map]
    rw [length_eq, lexDocument_stringLiteral,
      map_stackNames_lexedRows language regionRows_ne_nil,
      stackNames_push isPosition_string, stackNames_initialStack]
    rfl
  · intro stack after isRoot noLineFeed noQuote
    exact lexLine_stringLiteral_append (isRoot.trans start_eq) noLineFeed noQuote

/-- A text of two lines with quotes next to each other is given back, and what follows a
string is scanned as a line of its own. -/
theorem twoLines_roundTrip :
    '\r' ∉ "a\"\"\nb\"".toList ∧
      stringText (language.documentTokens (stringLiteral "a\"\"\nb\"")) = "a\"\"\nb\"" ∧
      language.lexLine language.initialStack (stringLiteral "a\"" ++ " & b") =
        (language.lexLine language.initialStack (stringLiteral "a\"")).followedBy
          (language.lexLine language.initialStack " & b") := by
  refine ⟨by decide, (stringLiteral_roundTrips "a\"\"\nb\"").2.2.2.1 (by decide), ?_⟩
  exact (stringLiteral_roundTrips "a\"").2.2.2.2 language.initialStack " & b"
    (Language.top_initialStack language) (by decide) (by decide)

end LineLexer.PowerQuery
