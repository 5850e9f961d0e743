import LineLexer.Proofs.PowerQuery.States

/-!
# Comments of Power Query

A comment that begins with a slash and a star ends at the first star and slash after that,
also where the star stands next to that of the beginning or where further stars stand
before the slash, and on whatever line it is.  Every character in between is a token, so
that the only way out of a comment is its end; what follows in the line is scanned as a
line of its own.  A comment that begins with two slashes is one token up to the end of its
line.
-/

namespace LineLexer.PowerQuery

open Grammar Text

/-- The characters that end a comment. -/
def closingChars : List Char :=
  ['*', '/']

def commentPiece (chars : List Char) : Piece :=
  ⟨language.classIndexOf "comment", chars⟩

/-- The tokens of the characters inside of a comment. -/
def commentPieces (part : List Char) : List Piece :=
  part.map fun char => commentPiece [char]

theorem spelled_commentPieces (part : List Char) :
    Piece.spelled (commentPieces part) = part := by
  simp [commentPieces, commentPiece, Piece.spelled, List.flatMap_map]

/-! ### Where a comment ends -/

/-- No comment ends within `part` if `rest` follows it, not even on the border between the
two. -/
def StaysIn (part rest : List Char) : Prop :=
  ∀ front char back, part = front ++ char :: back →
    closingChars.isPrefixOf (char :: (back ++ rest)) = false

theorem StaysIn.of_append {part others rest : List Char}
    (stays : StaysIn (part ++ others) rest) : StaysIn part (others ++ rest) := by
  intro front char back parts
  have whole := stays front char (back ++ others)
    (by rw [parts, List.append_assoc, List.cons_append])
  rwa [List.append_assoc] at whole

theorem staysIn_of_absent {part rest : List Char} (absent : ¬ closingChars <:+: part)
    (noSlash : rest.head? ≠ some '/') : StaysIn part rest := by
  intro front char back parts
  rw [Bool.eq_false_iff, ne_eq, List.isPrefixOf_iff_prefix]
  rintro ⟨after, closes⟩
  obtain ⟨rfl, rest_eq⟩ := List.cons.inj closes
  cases back with
  | nil =>
      rw [List.nil_append] at rest_eq
      rw [← rest_eq] at noSlash
      exact noSlash rfl
  | cons next back =>
      obtain ⟨rfl, -⟩ := List.cons.inj rest_eq
      exact absent ⟨front, back, by rw [parts]; simp [closingChars]⟩

theorem exists_first_closing {text : List Char} (contains : closingChars <:+: text) :
    ∃ front after, text = front ++ (closingChars ++ after) ∧
    ¬ closingChars <:+: front := by
  induction text with
  | nil => exact absurd (List.infix_nil.mp contains) (by decide)
  | cons char text ih =>
      by_cases atStart : closingChars <+: char :: text
      · obtain ⟨after, closes⟩ := atStart
        exact ⟨[], after, closes.symm,
          fun inEmpty => absurd (List.infix_nil.mp inEmpty) (by decide)⟩
      · have later : closingChars <:+: text :=
          (List.infix_cons_iff.mp contains).resolve_left atStart
        obtain ⟨front, after, rfl, absent⟩ := ih later
        refine ⟨char :: front, after, rfl, fun inFront => ?_⟩
        rcases List.infix_cons_iff.mp inFront with isPrefix | inside
        · exact atStart (isPrefix.trans (List.prefix_append (char :: front) _))
        · exact absent inside

/-! ### Taking a comment -/

section Taking

variable {stack : ActiveStates} {rest : List Char}

theorem takesPieces_commentOpening (isRoot : stack.top = rootState) :
    TakesPieces language stack [commentPiece ['/', '*']] rest (stack.push commentState) :=
  takesPieces_of_selects isCompiled ['/', '*']
    (isPosition_root.trans (congrArg some isRoot.symm)) isEntries_root
    selects_root_comment (.push isPosition_comment)

theorem takesPieces_commentClosing :
    TakesPieces language (stack.push commentState)
      [commentPiece closingChars] rest stack :=
  takesPieces_of_selects isCompiled ['*', '/'] isPosition_comment isEntries_comment
    selects_comment_closing .pop

theorem takesPieces_comment {part : List Char} (noLineFeed : '\n' ∉ part)
    (stays : StaysIn part rest) :
    TakesPieces language (stack.push commentState) (commentPieces part) rest
      (stack.push commentState) := by
  refine takesPieces_map fun front char back parts => ?_
  have isOther : char ≠ '\n' := by
    rintro rfl
    exact noLineFeed (parts ▸ List.mem_append_right front List.mem_cons_self)
  have spelled_back := spelled_commentPieces back
  rw [commentPieces] at spelled_back
  rw [spelled_back]
  exact takesPieces_of_selects isCompiled [char] isPosition_comment isEntries_comment
    (selects_comment_char isOther (stays front char back parts)) .none

theorem takesPieces_lineComment {text : List Char} (isRoot : stack.top = rootState)
    (noLineFeed : '\n' ∉ text) :
    TakesPieces language stack [commentPiece ('/' :: '/' :: text)] [] stack := by
  have selects := selects_root_lineComment noLineFeed
  rw [← List.append_nil ('/' :: '/' :: text)] at selects
  exact takesPieces_of_selects isCompiled ('/' :: '/' :: text)
    (isPosition_root.trans (congrArg some isRoot.symm)) isEntries_root selects .none

end Taking

/-! ### The tokens of a comment -/

def commentParts (body : List Char) : List (List Piece) :=
  (endedRows (splitAtLineFeeds body)).map commentPieces

theorem commentParts_eq (body : List Char) :
    endedRows (splitAtLineFeeds body) = (commentParts body).map Piece.spelled := by
  have same : Piece.spelled ∘ commentPieces = id := funext spelled_commentPieces
  rw [commentParts, List.map_map, same, List.map_id]

theorem encloses_commentParts (stack : ActiveStates) {body : List Char}
    (absent : ¬ closingChars <:+: body) (after : List Char) :
    Encloses language (stack.push commentState) stack (commentPiece closingChars) after
      (commentParts body) := by
  refine encloses_of_takes ?_ (fun pieces member => ?_) takesPieces_commentClosing
  · simpa [commentParts] using endedRows_ne_nil (splitAtLineFeeds_ne_nil body)
  · obtain ⟨row, isRow, rfl⟩ := List.mem_map.mp member
    obtain ⟨piece, isPiece, isPrefix⟩ := exists_isPrefix_of_mem_endedRows isRow
    have noLineFeed : '\n' ∉ row := fun isLineFeed =>
      not_mem_of_mem_splitAtLineFeeds isPiece (isPrefix.subset isLineFeed)
    have inRow : ¬ closingChars <:+: row := fun closes =>
      absent (closes.trans
        (isPrefix.isInfix.trans (isInfix_of_mem_splitAtLineFeeds isPiece)))
    exact ⟨takesPieces_comment noLineFeed (staysIn_of_absent inRow (by simp)),
      takesPieces_comment noLineFeed
        (staysIn_of_absent inRow (by simp [Piece.spelled, commentPiece, closingChars]))⟩

section Documents

variable {body : String}

def openingPiece : Piece :=
  commentPiece ['/', '*']

def closingPiece : Piece :=
  commentPiece closingChars

theorem isPlain_openingPiece : IsPlain openingPiece.chars :=
  ⟨by decide, by decide⟩

theorem isPlain_closingPiece : IsPlain closingPiece.chars :=
  ⟨by decide, by decide⟩

theorem blockComment_eq (body : String) :
    "/*" ++ body ++ "*/" =
      String.ofList (openingPiece.chars ++ (body.toList ++ closingPiece.chars)) := by
  have opening_eq : "/*".toList = openingPiece.chars := by rfl
  have closing_eq : "*/".toList = closingPiece.chars := by rfl
  rw [← String.toList_inj, String.toList_append, String.toList_append, opening_eq,
    closing_eq, String.toList_ofList, List.append_assoc]

theorem takesPieces_initial_comment (rest : List Char) :
    TakesPieces language language.initialStack [openingPiece] rest
      (language.initialStack.push commentState) :=
  takesPieces_commentOpening top_initialStack

theorem lexDocument_blockComment (absent : ¬ closingChars <:+: body.toList) :
    language.lexDocument ("/*" ++ body ++ "*/") =
      lexedRows (language.initialStack.push commentState) language.initialStack
        (regionRows openingPiece closingPiece (commentParts body.toList)) := by
  rw [blockComment_eq]
  exact lexDocument_region isPlain_openingPiece isPlain_closingPiece
    (List.cons_ne_nil _ _)
    (commentParts_eq body.toList) takesPieces_initial_comment
    (encloses_commentParts _ absent [])

/-- What follows a comment is scanned as a document of its own, of which the first line
goes on with the last line of the comment. -/
theorem lexDocument_blockComment_append (absent : ¬ closingChars <:+: body.toList)
    (after : String) :
    language.lexDocument ("/*" ++ body ++ "*/" ++ after) =
      joinLines (language.lexDocument ("/*" ++ body ++ "*/"))
        (language.lexDocument after) := by
  have document_eq : "/*" ++ body ++ "*/" ++ after =
      String.ofList
        (openingPiece.chars ++
          (body.toList ++ (closingPiece.chars ++ after.toList))) := by
    rw [blockComment_eq, ← String.toList_inj, String.toList_append, String.toList_ofList,
      String.toList_ofList, List.append_assoc, List.append_assoc]
  have encloses (first : List Char) (others : List (List Char))
      (_ : (splitAtLineFeeds after.toList).map dropFinalReturn = first :: others) :
      Encloses language (language.initialStack.push commentState) language.initialStack
        closingPiece first (commentParts body.toList) :=
    encloses_commentParts _ absent first
  have lexed := lexDocument_region_append isPlain_openingPiece isPlain_closingPiece
    (List.cons_ne_nil _ _) (commentParts_eq body.toList)
    takesPieces_initial_comment encloses
  rw [document_eq, lexed, lexDocument_blockComment absent, String.ofList_toList]

/-- All lines of a comment but the last one end inside of it, and the last one ends
outside of it. -/
theorem stackNames_blockComment (absent : ¬ closingChars <:+: body.toList) :
    (language.lexDocument ("/*" ++ body ++ "*/")).map
      (fun line => language.stackNames line.endStack) =
      List.replicate ((documentLines ("/*" ++ body ++ "*/")).length - 1)
        ["root", "comment"] ++ [["root"]] := by
  have length_eq : (documentLines ("/*" ++ body ++ "*/")).length =
      (regionRows openingPiece closingPiece (commentParts body.toList)).length := by
    rw [blockComment_eq, documentLines_region isPlain_openingPiece isPlain_closingPiece
      (List.cons_ne_nil _ _) (commentParts_eq body.toList), List.length_map]
  rw [length_eq, lexDocument_blockComment absent,
    map_stackNames_lexedRows language regionRows_ne_nil,
    stackNames_push isPosition_comment, stackNames_initialStack]
  rfl

theorem namedText_commentPiece (chars : List Char) :
    (commentPiece chars).namedText language = ("comment.pq", String.ofList chars) := by
  rw [Piece.namedText, commentPiece, className_comment]

theorem className_of_mem_blockComment (absent : ¬ closingChars <:+: body.toList)
    {line : List (String × String)} {token : String × String}
    (isLine : line ∈ language.documentTokens ("/*" ++ body ++ "*/"))
    (isToken : token ∈ line) : token.1 = "comment.pq" := by
  have tokens_eq := documentTokens_region isPlain_openingPiece isPlain_closingPiece
    (List.cons_ne_nil _ _) (commentParts_eq body.toList) takesPieces_initial_comment
    (encloses_commentParts _ absent [])
  rw [← blockComment_eq] at tokens_eq
  have member := List.mem_flatten.mpr ⟨line, isLine, isToken⟩
  rw [tokens_eq, ← List.map_flatten, regionRows, flatten_joinRows,
    flatten_joinRows] at member
  obtain ⟨piece, isPiece, rfl⟩ := List.mem_map.mp member
  have ofComment : ∃ chars, piece = commentPiece chars := by
    rcases List.mem_append.mp isPiece with isOpening | isPiece
    · exact ⟨_, List.mem_singleton.mp isOpening⟩
    rcases List.mem_append.mp isPiece with isInner | isClosing
    · obtain ⟨pieces, isRow, isPiece⟩ := List.mem_flatten.mp isInner
      obtain ⟨row, -, rfl⟩ := List.mem_map.mp isRow
      obtain ⟨char, -, rfl⟩ := List.mem_map.mp isPiece
      exact ⟨[char], rfl⟩
    · exact ⟨_, List.mem_singleton.mp isClosing⟩
  obtain ⟨chars, rfl⟩ := ofComment
  rw [namedText_commentPiece]

end Documents

section Lines

variable {outer : ActiveStates} {line : String}

theorem lexLine_inside (noLineFeed : '\n' ∉ line.toList)
    (absent : ¬ closingChars <:+: line.toList) :
    language.lexLine (outer.push commentState) line =
      ⟨Piece.row 0 (commentPieces line.toList), outer.push commentState⟩ := by
  have takes : TakesPieces language (outer.push commentState)
      (commentPieces line.toList) [] (outer.push commentState) :=
    takesPieces_comment noLineFeed (staysIn_of_absent absent (by simp))
  have lexed := takes.lexLine
  rw [spelled_commentPieces, List.append_nil, String.ofList_toList, String.ofList_nil,
    lexLine_empty]
    at lexed
  simpa [LexedLine.followedBy] using lexed

/-- Up to the first end of a comment the characters are tokens, and the end itself is
one. -/
theorem takesPieces_toClosing {front : List Char} (noLineFeed : '\n' ∉ front)
    (absent : ¬ closingChars <:+: front) (after : List Char) (outer : ActiveStates) :
    TakesPieces language (outer.push commentState)
      (commentPieces front ++ [closingPiece]) after outer :=
  (takesPieces_comment noLineFeed (staysIn_of_absent absent
    (by simp [closingPiece, commentPiece, Piece.spelled, closingChars]))).append
      takesPieces_commentClosing

theorem spelled_toClosing (front : List Char) :
    Piece.spelled (commentPieces front ++ [closingPiece]) = front ++ closingChars := by
  rw [Piece.spelled_append, spelled_commentPieces]
  simp [closingPiece, commentPiece]

/-- What follows the first end of a comment in its line is scanned as a line of its
own. -/
theorem lexLine_closing {front : List Char} (noLineFeed : '\n' ∉ front)
    (absent : ¬ closingChars <:+: front) (after : List Char) :
    language.lexLine (outer.push commentState)
      (String.ofList (front ++ closingChars ++ after)) =
      LexedLine.followedBy ⟨Piece.row 0 (commentPieces front ++ [closingPiece]), outer⟩
        (language.lexLine outer (String.ofList after)) := by
  have lexed := (takesPieces_toClosing noLineFeed absent after outer).lexLine
  rwa [spelled_toClosing] at lexed

/-- The stack stays inside of the comment as long as tokens before its end are asked
for. -/
theorem stack_afterCalls_of_le {front : List Char} (noLineFeed : '\n' ∉ front)
    (absent : ¬ closingChars <:+: front) (after : List Char) {count : Nat}
    (beforeEnd : count ≤ front.length) :
    ((Scanner.start (String.ofList (front ++ closingChars ++ after))
      (outer.push commentState)).afterCalls language count).stack =
        outer.push commentState := by
  have stays : StaysIn (front.take count)
      (front.drop count ++ (closingChars ++ after)) := by
    refine StaysIn.of_append ?_
    rw [List.take_append_drop]
    exact staysIn_of_absent absent (by simp [closingChars])
  have takesPieces : TakesPieces language (outer.push commentState)
      (commentPieces (front.take count)) (front.drop count ++ (closingChars ++ after))
      (outer.push commentState) :=
    takesPieces_comment (fun isLineFeed =>
      noLineFeed (List.mem_of_mem_take isLineFeed)) stays
  have takes := takesPieces 0
  rw [spelled_commentPieces, ← List.append_assoc, List.take_append_drop] at takes
  have isPlace := takes.afterCalls_eq
  rw [Piece.length_row, commentPieces, List.length_map, List.length_take,
    Nat.min_eq_left beforeEnd] at isPlace
  rw [Scanner.start, String.toList_ofList, List.append_assoc, isPlace]

theorem stack_afterCalls_closing {front : List Char} (noLineFeed : '\n' ∉ front)
    (absent : ¬ closingChars <:+: front) (after : List Char) :
    ((Scanner.start (String.ofList (front ++ closingChars ++ after))
      (outer.push commentState)).afterCalls language (front.length + 1)).stack =
        outer := by
  have takes := takesPieces_toClosing noLineFeed absent after outer 0
  have isPlace := takes.afterCalls_eq
  rw [spelled_toClosing, Piece.length_row, List.length_append, commentPieces,
    List.length_map] at isPlace
  rw [Scanner.start, String.toList_ofList]
  exact congrArg Scanner.stack isPlace

theorem spelled_lineComment (text : String) :
    Piece.spelled [commentPiece ('/' :: '/' :: text.toList)] = ("//" ++ text).toList := by
  simp [commentPiece]

/-- A comment that begins with two slashes is a single token. -/
theorem lexLine_lineComment {stack : ActiveStates} {text : String}
    (isRoot : stack.top = rootState) (noLineFeed : '\n' ∉ text.toList) :
    language.lexLine stack ("//" ++ text) =
      ⟨Piece.row 0 [commentPiece ('/' :: '/' :: text.toList)], stack⟩ := by
  have lexed := (takesPieces_lineComment isRoot noLineFeed).lexLine
  rw [spelled_lineComment, List.append_nil, String.ofList_toList, String.ofList_nil,
    lexLine_empty] at lexed
  simpa [LexedLine.followedBy] using lexed

end Lines

def commentToken (char : Char) : String × String :=
  ("comment.pq", String.singleton char)

theorem map_namedText_commentPieces (part : List Char) :
    (commentPieces part).map (Piece.namedText language) = part.map commentToken := by
  rw [commentPieces, List.map_map]
  refine List.map_congr_left fun char _ => ?_
  rw [Function.comp_apply, namedText_commentPiece, commentToken,
    String.singleton_eq_ofList]

/-- How a line is scanned inside of a comment, with the states `outer` outside of it:
without the end of a comment it has one token for each character and stays inside; and
with one it is inside up to its first one, which leaves the comment, and what follows is
scanned as a line of its own. -/
structure ScansComment (outer : ActiveStates) (line : String) : Prop where
  inside : ¬ closingChars <:+: line.toList →
    (language.lexLine (outer.push commentState) line).namedTexts language line =
        line.toList.map commentToken ∧
      (language.lexLine (outer.push commentState) line).endStack = outer.push commentState
  closing : closingChars <:+: line.toList →
    ∃ front after : String, line = front ++ "*/" ++ after ∧
    ¬ closingChars <:+: front.toList ∧
      (language.lexLine (outer.push commentState) (front ++ "*/")).namedTexts language
        (front ++ "*/") = front.toList.map commentToken ++ [("comment.pq", "*/")] ∧
      language.lexLine (outer.push commentState) line =
        (language.lexLine (outer.push commentState) (front ++ "*/")).followedBy
          (language.lexLine outer after) ∧
      (∀ count ≤ front.toList.length,
        ((Scanner.start line (outer.push commentState)).afterCalls language count).stack =
          outer.push commentState) ∧
      ((Scanner.start line (outer.push commentState)).afterCalls language
        (front.toList.length + 1)).stack = outer

theorem scansComment {outer : ActiveStates} {line : String}
    (noLineFeed : '\n' ∉ line.toList) : ScansComment outer line where
  inside absent := by
    have named := namedTexts_row language (outer.push commentState)
      (commentPieces line.toList)
    rw [spelled_commentPieces, String.ofList_toList, map_namedText_commentPieces] at named
    rw [lexLine_inside noLineFeed absent]
    exact ⟨named, rfl⟩
  closing contains := by
    obtain ⟨front, after, line_eq, absent⟩ := exists_first_closing contains
    have noLineFeedFront : '\n' ∉ front := fun isLineFeed =>
      noLineFeed (line_eq ▸ List.mem_append_left _ isLineFeed)
    have end_eq : String.ofList front ++ "*/" =
        String.ofList (front ++ closingChars) := by
      rw [String.ofList_append]
      rfl
    have lines_eq : line = String.ofList (front ++ closingChars ++ after) := by
      rw [List.append_assoc, ← line_eq, String.ofList_toList]
    have alone : language.lexLine (outer.push commentState)
        (String.ofList (front ++ closingChars)) =
        ⟨Piece.row 0 (commentPieces front ++ [closingPiece]), outer⟩ := by
      have lexed := @lexLine_closing outer front noLineFeedFront absent []
      rw [List.append_nil, String.ofList_nil, lexLine_empty] at lexed
      simpa [LexedLine.followedBy] using lexed
    refine ⟨String.ofList front, String.ofList after, ?_, ?_, ?_, ?_, ?_, ?_⟩
    · rw [end_eq, ← String.ofList_append, ← lines_eq]
    · rwa [String.toList_ofList]
    · have named := namedTexts_row language outer (commentPieces front ++ [closingPiece])
      rw [spelled_toClosing, List.map_append, map_namedText_commentPieces,
        List.map_singleton, closingPiece, namedText_commentPiece] at named
      rw [end_eq, alone, String.toList_ofList]
      exact named
    · rw [end_eq, alone, lines_eq]
      exact lexLine_closing noLineFeedFront absent after
    · intro count beforeEnd
      rw [String.toList_ofList] at beforeEnd
      rw [lines_eq]
      exact stack_afterCalls_of_le noLineFeedFront absent after beforeEnd
    · rw [lines_eq, String.toList_ofList]
      exact stack_afterCalls_closing noLineFeedFront absent after

/-- Comments are delimited exactly.  A comment that begins with a slash and a star has
tokens of the class of comments only and ends at its last line and not before, whatever
its text is, and what follows it is scanned as a document of its own; a line inside of a
comment leaves it at the first end of a comment and at no other place; and a comment that
begins with two slashes is a single token. -/
theorem comments_delimited :
    (∀ body : String, ¬ closingChars <:+: body.toList →
      (∀ line ∈ language.documentTokens ("/*" ++ body ++ "*/"), ∀ token ∈ line,
          token.1 = "comment.pq") ∧
        (language.lexDocument ("/*" ++ body ++ "*/")).map
            (fun line => language.stackNames line.endStack) =
          List.replicate ((documentLines ("/*" ++ body ++ "*/")).length - 1)
            ["root", "comment"] ++ [["root"]] ∧
        ∀ after : String, language.lexDocument ("/*" ++ body ++ "*/" ++ after) =
          joinLines (language.lexDocument ("/*" ++ body ++ "*/"))
            (language.lexDocument after)) ∧
      language.stackNames (language.initialStack.push commentState) =
        ["root", "comment"] ∧
      (∀ (outer : ActiveStates) (line : String), '\n' ∉ line.toList →
        ScansComment outer line) ∧
      ∀ (stack : ActiveStates) (text : String), stack.top = language.start →
        '\n' ∉ text.toList →
        (language.lexLine stack ("//" ++ text)).namedTexts language ("//" ++ text) =
            [("comment.pq", "//" ++ text)] ∧
          (language.lexLine stack ("//" ++ text)).endStack = stack := by
  refine ⟨fun body absent => ?_, ?_, fun outer line => scansComment, ?_⟩
  · exact ⟨fun line isLine token isToken =>
      className_of_mem_blockComment absent isLine isToken, stackNames_blockComment absent,
      lexDocument_blockComment_append absent⟩
  · rw [stackNames_push isPosition_comment, stackNames_initialStack]
    rfl
  · intro stack text isRoot noLineFeed
    have text_eq : String.ofList ('/' :: '/' :: text.toList) = "//" ++ text := by
      rw [← String.toList_inj]
      simp
    have named := namedTexts_row language stack [commentPiece ('/' :: '/' :: text.toList)]
    rw [List.map_singleton, namedText_commentPiece, spelled_lineComment,
      String.ofList_toList, text_eq] at named
    rw [lexLine_lineComment (isRoot.trans start_eq) noLineFeed]
    exact ⟨named, rfl⟩

/-- A slash after the beginning of a comment and stars before its end belong to its text;
in a line inside of a comment the first end is the one that counts; and two slashes are a
comment of their own. -/
theorem comments_delimited_starsAndSlashes :
    (¬ closingChars <:+: "/\n**".toList ∧
        language.lexDocument ("/*" ++ "/\n**" ++ "*/" ++ "*/") =
          joinLines (language.lexDocument ("/*" ++ "/\n**" ++ "*/"))
            (language.lexDocument "*/")) ∧
      ('\n' ∉ "a/**/ */".toList ∧ ScansComment language.initialStack "a/**/ */") ∧
      (language.lexLine language.initialStack ("//" ++ "*/ \"")).endStack =
        language.initialStack := by
  obtain ⟨documents, -, lines, lineComments⟩ := comments_delimited
  have absent : ¬ closingChars <:+: "/\n**".toList := by decide
  refine ⟨⟨absent, (documents _ absent).2.2 "*/"⟩, ⟨by decide, lines _ _ (by decide)⟩, ?_⟩
  exact (lineComments _ _ (Language.top_initialStack language) (by decide)).2

end LineLexer.PowerQuery
