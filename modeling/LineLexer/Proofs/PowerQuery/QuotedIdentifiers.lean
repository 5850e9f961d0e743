import LineLexer.Proofs.PowerQuery.Fallback
import LineLexer.Proofs.PowerQuery.Strings

/-!
# Quoted identifiers of Power Query

Behind a `#` a text between quotes is a part of an identifier if it has only characters
that may stand in one.  Otherwise no rule takes the `#`, and the quotes with the text
between them are a string.  Either way what follows the second quote is scanned as a line
of its own.
-/

namespace LineLexer.PowerQuery

open Pattern Grammar

/-- Whether a text between quotes is a part of an identifier. -/
def isQuotable (text : List Char) : Bool :=
  !text.isEmpty && text.all isQuotedChar

/-- The base names of the classes and the texts of the tokens for `#` with a text in
quotes behind it. -/
def quotedTokens (text : String) : List (String × String) :=
  if isQuotable text.toList then [("identifier.quote", "#\"" ++ text ++ "\"")]
  else
    [("", "#"), ("string", "\"")] ++
      text.toList.map (fun char => ("string", String.singleton char)) ++
      [("string", "\"")]

/-- The base name of the class and the text of a piece. -/
def baseText (piece : Piece) : String × String :=
  (language.baseName piece.classIndex, String.ofList piece.chars)

theorem baseText_mk (index : ClassIndex) (chars : List Char) :
    baseText ⟨index, chars⟩ = (language.baseName index, String.ofList chars) :=
  rfl

section Quotes

variable {stack : ActiveStates} {text other rest otherRest : List Char}

theorem isQuotable_iff : isQuotable text = true ↔
    text ≠ [] ∧ ∀ char ∈ text, isQuotedChar char = true := by
  simp [isQuotable]

theorem noQuote_of_isQuotable (isQuotable : isQuotable text = true) : '"' ∉ text := by
  intro isQuote
  exact absurd ((isQuotable_iff.mp isQuotable).2 '"' isQuote) (by decide)

/-- The first quote of a text determines what stands before it. -/
theorem quote_unique (noQuote : '"' ∉ text) (noOther : '"' ∉ other)
    (same : text ++ '"' :: rest = other ++ '"' :: otherRest) : text = other := by
  have before_eq {front back : List Char} (none : '"' ∉ front) :
      (front ++ '"' :: back).takeWhile (· != '"') = front := by
    have keeps : ∀ char ∈ front, (char != '"') = true := fun char member =>
      bne_iff_ne.mpr fun isQuote => none (isQuote ▸ member)
    rw [List.takeWhile_append_of_pos keeps, List.takeWhile_cons, bne_self_eq_false,
      if_neg Bool.false_ne_true, List.append_nil]
  have fronts_eq := congrArg (List.takeWhile (· != '"')) same
  rwa [before_eq noQuote, before_eq noOther] at fronts_eq

theorem matchLength?_quoted (isQuotable : isQuotable text = true) :
    quotedPattern.matchLength? ('#' :: '"' :: (text ++ ['"']) ++ rest) =
      some ('#' :: '"' :: (text ++ ['"'])).length := by
  obtain ⟨nonempty, areQuoted⟩ := isQuotable_iff.mp isQuotable
  refine matchLength?_eq_some_of_takes (by decide)
    (takes_quoted_iff.mpr ⟨text, rfl, nonempty, areQuoted⟩) ?_
  intro taken behind same isTaken
  obtain ⟨inner, rfl, isInner⟩ := takes_quoted_iff.mp isTaken
  have noQuote : '"' ∉ inner := noQuote_of_isQuotable (isQuotable_iff.mpr isInner)
  obtain rfl : text = inner :=
    quote_unique (noQuote_of_isQuotable isQuotable) noQuote (by simpa using same)
  rfl

theorem takesPieces_quoted (isRoot : stack.top = rootState)
    (isQuotable : isQuotable text = true) :
    TakesPieces language stack
    [⟨language.classIndexOf "identifier.quote", '#' :: '"' :: (text ++ ['"'])⟩] rest
      stack := by
  obtain ⟨name, entries, isTop, isEntries, selects⟩ := isRoot ▸ tries_rootPatterns
  have selects := selects ('#' :: '"' :: (text ++ ['"']) ++ rest)
  rw [rootPatterns, List.findSome?_cons, matchOf?,
    matchLength?_quoted isQuotable] at selects
  exact takesPieces_of_selects isCompiled _ isTop isEntries selects .none

/-- Where the text is no part of an identifier, no rule takes the `#`. -/
theorem unclassified_hash (noQuote : '"' ∉ text) (notQuotable : isQuotable text = false) :
    Unclassified '#' ('"' :: (text ++ '"' :: rest)) where
  notName := by decide
  notBlank := by decide
  notPunctuation := by decide
  dot isDot := absurd isDot (by decide)
  hash _ := by
    refine ⟨?_, fun startsWord => startsWord.1 rfl⟩
    rintro ⟨inner, behind, same, isInner⟩
    have noOther : '"' ∉ inner := noQuote_of_isQuotable (isQuotable_iff.mpr isInner)
    obtain rfl : text = inner := quote_unique noQuote noOther (List.cons.inj same).2
    exact Bool.false_ne_true (notQuotable.symm.trans (isQuotable_iff.mpr isInner))

theorem takesPieces_hash (isRoot : stack.top = rootState)
    (unclassified : Unclassified '#' rest) :
    TakesPieces language stack [⟨language.defaultClass, ['#']⟩] rest stack := by
  obtain ⟨name, entries, isTop, isEntries, selects⟩ := isRoot ▸ tries_rootPatterns
  have passed : rootPatterns.findSome? (matchOf? ('#' :: rest)) = none := by
    refine List.findSome?_eq_none_iff.mpr fun rule member => ?_
    rw [matchOf?, Option.map_eq_none_iff]
    cases matched : rule.1.matchLength? ('#' :: rest) with
    | none => rfl
    | some count =>
        exact absurd unclassified (isTaken_iff.mp ⟨rule, member, count, matched⟩)
  exact takesPieces_of_selects_none isCompiled isTop isEntries
    (passed ▸ selects ('#' :: rest))

/-- The pieces of `#` and a string behind it. -/
def hashPieces (text : List Char) : List Piece :=
  ⟨language.defaultClass, ['#']⟩ :: quotePiece :: (text.map stringPiece ++ [quotePiece])

theorem spelled_hashPieces (noQuote : '"' ∉ text) :
    Piece.spelled (hashPieces text) = '#' :: '"' :: (text ++ ['"']) := by
  have undoubled : text.flatMap doubled = text := by
    calc
      text.flatMap doubled = text.flatMap fun char => [char] :=
        List.flatMap_congr fun char member => doubled_of_ne fun isQuote =>
          noQuote (isQuote ▸ member)
      _ = text := List.flatMap_singleton' text
  rw [hashPieces, Piece.spelled_cons, Piece.spelled_cons, Piece.spelled_append,
    spelled_map_stringPiece, undoubled, Piece.spelled_cons, Piece.spelled_nil]
  rfl

theorem takesPieces_hashPieces (isRoot : stack.top = rootState) (noQuote : '"' ∉ text)
    (noLineFeed : '\n' ∉ text) (notQuotable : isQuotable text = false)
    (notEscape : rest.head? ≠ some '"') :
    TakesPieces language stack (hashPieces text) rest stack := by
  have behind_eq :
      Piece.spelled (quotePiece :: (text.map stringPiece ++ [quotePiece])) ++ rest =
      '"' :: (text ++ '"' :: rest) := by
    have spelled_eq : Piece.spelled
        (quotePiece :: (text.map stringPiece ++ [quotePiece])) = '"' :: (text ++ ['"']) :=
      (List.cons.inj (spelled_hashPieces noQuote)).2
    rw [spelled_eq, List.cons_append, List.append_assoc, List.singleton_append]
  have takesString : TakesPieces language stack
      ([quotePiece] ++ (text.map stringPiece ++ [quotePiece])) rest stack :=
    (takesPieces_opening isRoot).append
      ((takesPieces_part noLineFeed).append (takesPieces_closing notEscape))
  exact (takesPieces_hash isRoot
    (behind_eq ▸ unclassified_hash noQuote notQuotable)).append takesString

theorem map_baseText_hashPieces (noQuote : '"' ∉ text) :
    (hashPieces text).map baseText =
      [("", "#"), ("string", "\"")] ++
        text.map (fun char => ("string", String.singleton char)) ++
        [("string", "\"")] := by
  have default_eq : language.baseName language.defaultClass = "" :=
    isCompiled.baseName_eq isCompiled.defaultClass
  have string_eq : language.baseName (language.classIndexOf "string") = "string" :=
    baseName_classIndexOf mem_classBases.2.1
  have inner_eq : (text.map stringPiece).map baseText =
      text.map fun char => ("string", String.singleton char) := by
    rw [List.map_map]
    refine List.map_congr_left fun char member => ?_
    have notQuote : char ≠ '"' := fun isQuote => noQuote (isQuote ▸ member)
    rw [Function.comp_apply, stringPiece, baseText_mk, if_neg notQuote, string_eq,
      doubled_of_ne notQuote, String.singleton_eq_ofList]
  rw [hashPieces, List.map_cons, List.map_cons, List.map_append, inner_eq,
    List.map_singleton, quotePiece, baseText_mk, baseText_mk, default_eq, string_eq]
  rfl

end Quotes

/-- A text in quotes behind a `#` is one token with the `#` if it is not empty and has
only characters that may stand in an identifier.  Otherwise the `#` is a token without a
class name, and each of the quotes and of the characters between them is a token of a
string.  The stack behind the second quote is that before the `#`, and what follows is
scanned as a line of its own. -/
theorem quoted_after_hash (stack : ActiveStates) (text rest : String)
    (isRoot : stack.top = language.start) (noQuote : '"' ∉ text.toList)
    (noLineFeed : '\n' ∉ text.toList) (notEscape : rest.toList.head? ≠ some '"') :
    ∃ pieces : List Piece, pieces.map baseText = quotedTokens text ∧
      language.lexLine stack ("#\"" ++ text ++ "\"" ++ rest) =
        LexedLine.followedBy ⟨Piece.row 0 pieces, stack⟩ (language.lexLine stack rest) ∧
      (Scanner.start ("#\"" ++ text ++ "\"" ++ rest) stack).afterCalls language
        pieces.length = ⟨("#\"" ++ text ++ "\"").utf8ByteSize, rest.toList, stack⟩ := by
  have isRoot : stack.top = rootState := isRoot.trans start_eq
  obtain ⟨pieces, areNamed, spelled_eq, takes⟩ : ∃ pieces : List Piece,
      pieces.map baseText = quotedTokens text ∧
      Piece.spelled pieces = '#' :: '"' :: (text.toList ++ ['"']) ∧
        TakesPieces language stack pieces rest.toList stack := by
    rw [quotedTokens]
    cases quotable : isQuotable text.toList with
    | true =>
        have isBase : "identifier.quote" ∈ grammar.classBases := by decide +kernel
        have text_eq : String.ofList ('#' :: '"' :: (text.toList ++ ['"'])) =
            "#\"" ++ text ++ "\"" := by
          rw [← String.toList_inj]
          simp
        refine ⟨_, ?_, ?_, takesPieces_quoted isRoot quotable⟩
        · rw [List.map_singleton, baseText_mk, baseName_classIndexOf isBase, text_eq,
            if_pos rfl]
        · rw [Piece.spelled_cons, Piece.spelled_nil, List.append_nil]
    | false =>
        exact ⟨hashPieces text.toList, map_baseText_hashPieces noQuote,
          spelled_hashPieces noQuote,
          takesPieces_hashPieces isRoot noQuote noLineFeed quotable notEscape⟩
  have line_eq : ("#\"" ++ text ++ "\"").toList = Piece.spelled pieces := by
    rw [spelled_eq]
    simp
  refine ⟨pieces, areNamed, ?_, ?_⟩
  · have lexed := takes.lexLine
    rwa [← line_eq, String.ofList_append, String.ofList_toList,
      String.ofList_toList] at lexed
  · have place_eq := (takes 0).afterCalls_eq
    rw [← line_eq, ← String.toList_append, Text.byteLength_toList, Nat.zero_add,
      Piece.length_row] at place_eq
    exact place_eq

/-- With a hyphen between the quotes the `#` is a token of its own, without it the whole
is an identifier. -/
theorem quoted_after_hash_hyphen :
    (∃ pieces : List Piece, pieces.map baseText = [("identifier.quote", "#\"a b\"")] ∧
        language.lexLine language.initialStack ("#\"" ++ "a b" ++ "\"" ++ "[x]") =
          LexedLine.followedBy ⟨Piece.row 0 pieces, language.initialStack⟩
            (language.lexLine language.initialStack "[x]")) ∧
      ∃ pieces : List Piece, pieces.map baseText =
        [("", "#"), ("string", "\""), ("string", "a"), ("string", "-"),
          ("string", "b"), ("string", "\"")] ∧
        language.lexLine language.initialStack ("#\"" ++ "a-b" ++ "\"" ++ "[x]") =
          LexedLine.followedBy ⟨Piece.row 0 pieces, language.initialStack⟩
            (language.lexLine language.initialStack "[x]") := by
  have isRoot := language.top_initialStack
  obtain ⟨identifier, isIdentifier, identifierLexed, -⟩ :=
    quoted_after_hash language.initialStack "a b" "[x]" isRoot (by decide) (by decide)
      (by decide)
  obtain ⟨others, areOthers, othersLexed, -⟩ :=
    quoted_after_hash language.initialStack "a-b" "[x]" isRoot (by decide) (by decide)
      (by decide)
  exact ⟨⟨identifier, isIdentifier.trans (by decide), identifierLexed⟩,
    others, areOthers.trans (by decide), othersLexed⟩

end LineLexer.PowerQuery
