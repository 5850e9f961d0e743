import LineLexer.Text.Lines
import Mathlib.Data.List.ModifyLast

/-!
# Lines of texts that are put together

Where one text follows another, the last line of the first goes on with the first line of
the second.  With this way of joining two lists of rows, the lines of a document that is
put together from parts are the lines of the parts joined; only the carriage return that
ends a line needs care, since a part does not know whether its last line ends where the
part does.
-/

namespace LineLexer.Text

variable {α β : Type}

/-- Two lists of rows, where the last row of the first list goes on with the first row of
the second one. -/
def joinRows : List (List α) → List (List α) → List (List α)
  | [], second => second
  | [last], [] => [last]
  | [last], first :: second => (last ++ first) :: second
  | row :: next :: rows, second => row :: joinRows (next :: rows) second

theorem joinRows_cons {row : List α} {rows second : List (List α)} (more : rows ≠ []) :
    joinRows (row :: rows) second = row :: joinRows rows second := by
  obtain ⟨next, others, rfl⟩ := List.exists_cons_of_ne_nil more
  rfl

theorem joinRows_ne_nil {first second : List (List α)} (nonempty : first ≠ []) :
    joinRows first second ≠ [] := by
  match first, second with
  | [], _ => exact absurd rfl nonempty
  | [_], [] => exact List.cons_ne_nil _ _
  | [_], _ :: _ => exact List.cons_ne_nil _ _
  | _ :: _ :: _, _ => exact List.cons_ne_nil _ _

theorem joinRows_cons_head {item : α} {row : List α} {rows second : List (List α)} :
    joinRows ((item :: row) :: rows) second =
      (joinRows (row :: rows) second).modifyHead (item :: ·) := by
  match rows, second with
  | [], [] => rfl
  | [], _ :: _ => rfl
  | _ :: _, _ => rfl

theorem joinRows_singleton_append {front row : List α} {rows : List (List α)} :
    joinRows [front] (row :: rows) = (front ++ row) :: rows :=
  rfl

theorem joinRows_empty {rows : List (List α)} (nonempty : rows ≠ []) :
    joinRows [[]] rows = rows := by
  obtain ⟨first, others, rfl⟩ := List.exists_cons_of_ne_nil nonempty
  rfl

theorem joinRows_nil_cons {rows others : List (List α)} (nonempty : rows ≠ []) :
    joinRows rows ([] :: others) = rows ++ others := by
  induction rows with
  | nil => exact absurd rfl nonempty
  | cons row rows ih =>
      by_cases more : rows = []
      · subst more
        rw [joinRows_singleton_append, List.append_nil, List.singleton_append]
      · rw [joinRows_cons more, ih more, List.cons_append]

/-- An item before the first row is taken off again by dropping the first item. -/
theorem modifyHead_tail_joinRows {item : α} {rows : List (List α)}
    (nonempty : rows ≠ []) :
    (joinRows [[item]] rows).modifyHead List.tail = rows := by
  obtain ⟨first, others, rfl⟩ := List.exists_cons_of_ne_nil nonempty
  rfl

/-- An item after the last row is taken off again by dropping the last item. -/
theorem modifyLast_dropLast_joinRows {item : α} {rows : List (List α)}
    (nonempty : rows ≠ []) :
    (joinRows rows [[item]]).modifyLast List.dropLast = rows := by
  induction rows with
  | nil => exact absurd rfl nonempty
  | cons row rows ih =>
      by_cases more : rows = []
      · subst more
        exact (List.modifyLast_concat List.dropLast (row ++ [item]) []).trans (by simp)
      · rw [joinRows_cons more, ← List.singleton_append,
          List.modifyLast_append_of_right_ne_nil _ _ _ (joinRows_ne_nil more), ih more,
          List.singleton_append]

theorem flatten_joinRows (first second : List (List α)) :
    (joinRows first second).flatten = first.flatten ++ second.flatten := by
  induction first with
  | nil => rfl
  | cons row rows ih =>
      match rows, second with
      | [], [] => simp [joinRows]
      | [], _ :: _ => simp [joinRows]
      | next :: rows, _ =>
          rw [joinRows, List.flatten_cons, ih, ← List.append_assoc]
          rfl

theorem map_joinRows (change : List α → List β)
    (change_append : ∀ front back, change (front ++ back) = change front ++ change back)
    (first second : List (List α)) :
    (joinRows first second).map change =
      joinRows (first.map change) (second.map change) := by
  induction first with
  | nil => rfl
  | cons row rows ih =>
      match rows, second with
      | [], [] => rfl
      | [], _ :: _ => simp [joinRows, change_append]
      | _ :: _, _ => exact congrArg _ ih

/-! ### Pieces between line feeds -/

theorem splitAtLineFeeds_ne_nil (text : List Char) : splitAtLineFeeds text ≠ [] := by
  cases text with
  | nil => exact List.cons_ne_nil _ _
  | cons char rest =>
      rw [splitAtLineFeeds]
      split
      · exact List.cons_ne_nil _ _
      · split <;> exact List.cons_ne_nil _ _

theorem splitAtLineFeeds_cons_of_ne {char : Char} (other : char ≠ '\n')
    (rest : List Char) :
    splitAtLineFeeds (char :: rest) = (splitAtLineFeeds rest).modifyHead (char :: ·) := by
  obtain ⟨piece, pieces, pieces_eq⟩ :=
    List.exists_cons_of_ne_nil (splitAtLineFeeds_ne_nil rest)
  rw [splitAtLineFeeds, if_neg other, pieces_eq]
  rfl

theorem splitAtLineFeeds_append (first second : List Char) :
    splitAtLineFeeds (first ++ second) =
      joinRows (splitAtLineFeeds first) (splitAtLineFeeds second) := by
  induction first with
  | nil =>
      obtain ⟨piece, pieces, pieces_eq⟩ :=
        List.exists_cons_of_ne_nil (splitAtLineFeeds_ne_nil second)
      rw [List.nil_append, pieces_eq]
      rfl
  | cons char first ih =>
      by_cases isLineFeed : char = '\n'
      · rw [List.cons_append, splitAtLineFeeds, if_pos isLineFeed, ih, splitAtLineFeeds,
          if_pos isLineFeed, joinRows_cons (splitAtLineFeeds_ne_nil first)]
      · obtain ⟨piece, pieces, pieces_eq⟩ :=
          List.exists_cons_of_ne_nil (splitAtLineFeeds_ne_nil first)
        rw [List.cons_append, splitAtLineFeeds_cons_of_ne isLineFeed, ih,
          splitAtLineFeeds_cons_of_ne isLineFeed, pieces_eq, ← joinRows_cons_head]
        rfl

theorem splitAtLineFeeds_of_not_mem {text : List Char} (absent : '\n' ∉ text) :
    splitAtLineFeeds text = [text] := by
  induction text with
  | nil => rfl
  | cons char rest ih =>
      rw [List.mem_cons, not_or] at absent
      rw [splitAtLineFeeds_cons_of_ne (Ne.symm absent.1), ih absent.2]
      rfl

theorem flatten_splitAtLineFeeds (text : List Char) :
    (splitAtLineFeeds text).flatten = text.filter (· != '\n') := by
  induction text with
  | nil => rfl
  | cons char rest ih =>
      obtain ⟨piece, pieces, pieces_eq⟩ :=
        List.exists_cons_of_ne_nil (splitAtLineFeeds_ne_nil rest)
      by_cases isLineFeed : char = '\n'
      · rw [splitAtLineFeeds, if_pos isLineFeed, List.flatten_cons, ih]
        simp [isLineFeed]
      · rw [splitAtLineFeeds_cons_of_ne isLineFeed,
          List.filter_cons_of_pos (by simpa using isLineFeed), ← ih, pieces_eq]
        rfl

theorem not_mem_of_mem_splitAtLineFeeds {text piece : List Char}
    (member : piece ∈ splitAtLineFeeds text) : '\n' ∉ piece := by
  induction text generalizing piece with
  | nil =>
      obtain rfl := List.mem_singleton.mp member
      exact List.not_mem_nil
  | cons char rest ih =>
      by_cases isLineFeed : char = '\n'
      · rw [splitAtLineFeeds, if_pos isLineFeed] at member
        rcases List.mem_cons.mp member with rfl | member
        · exact List.not_mem_nil
        · exact ih member
      · obtain ⟨first, pieces, pieces_eq⟩ :=
          List.exists_cons_of_ne_nil (splitAtLineFeeds_ne_nil rest)
        rw [splitAtLineFeeds_cons_of_ne isLineFeed, pieces_eq] at member
        rcases List.mem_cons.mp member with rfl | member
        · rw [List.mem_cons, not_or]
          exact ⟨Ne.symm isLineFeed, ih (pieces_eq ▸ List.mem_cons_self)⟩
        · exact ih (pieces_eq ▸ List.mem_cons_of_mem first member)

theorem head_splitAtLineFeeds_isPrefix {text piece : List Char}
    {pieces : List (List Char)}
    (pieces_eq : splitAtLineFeeds text = piece :: pieces) : piece <+: text := by
  induction text generalizing piece pieces with
  | nil =>
      obtain rfl := (List.cons.inj pieces_eq).1
      exact List.prefix_rfl
  | cons char rest ih =>
      by_cases isLineFeed : char = '\n'
      · rw [splitAtLineFeeds, if_pos isLineFeed] at pieces_eq
        obtain rfl := (List.cons.inj pieces_eq).1
        exact List.nil_prefix
      · obtain ⟨first, others, others_eq⟩ :=
          List.exists_cons_of_ne_nil (splitAtLineFeeds_ne_nil rest)
        rw [splitAtLineFeeds_cons_of_ne isLineFeed, others_eq] at pieces_eq
        obtain rfl := (List.cons.inj pieces_eq).1
        exact List.cons_prefix_cons.mpr ⟨rfl, ih others_eq⟩

/-- The pieces are parts of the text. -/
theorem isInfix_of_mem_splitAtLineFeeds {text piece : List Char}
    (member : piece ∈ splitAtLineFeeds text) : piece <:+: text := by
  induction text generalizing piece with
  | nil =>
      obtain rfl := List.mem_singleton.mp member
      exact List.infix_rfl
  | cons char rest ih =>
      obtain ⟨first, others, pieces_eq⟩ :=
        List.exists_cons_of_ne_nil (splitAtLineFeeds_ne_nil (char :: rest))
      rw [pieces_eq] at member
      rcases List.mem_cons.mp member with rfl | isOther
      · exact (head_splitAtLineFeeds_isPrefix pieces_eq).isInfix
      · -- All pieces but the first one are pieces of the rest.
        have inRest : piece ∈ splitAtLineFeeds rest := by
          by_cases isLineFeed : char = '\n'
          · rw [splitAtLineFeeds, if_pos isLineFeed] at pieces_eq
            exact (List.cons.inj pieces_eq).2 ▸ isOther
          · obtain ⟨next, more, more_eq⟩ :=
              List.exists_cons_of_ne_nil (splitAtLineFeeds_ne_nil rest)
            rw [splitAtLineFeeds_cons_of_ne isLineFeed, more_eq] at pieces_eq
            rw [more_eq]
            exact List.mem_cons_of_mem next ((List.cons.inj pieces_eq).2 ▸ isOther)
        exact (ih inRest).trans (List.suffix_cons char rest).isInfix

/-- The pieces with line feeds between them are the text. -/
theorem intercalate_splitAtLineFeeds (text : List Char) :
    ['\n'].intercalate (splitAtLineFeeds text) = text := by
  induction text with
  | nil => rfl
  | cons char rest ih =>
      obtain ⟨piece, pieces, pieces_eq⟩ :=
        List.exists_cons_of_ne_nil (splitAtLineFeeds_ne_nil rest)
      by_cases isLineFeed : char = '\n'
      · rw [splitAtLineFeeds, if_pos isLineFeed, pieces_eq, List.intercalate_cons_cons,
          ← pieces_eq, ih, isLineFeed]
        rfl
      · rw [splitAtLineFeeds_cons_of_ne isLineFeed, pieces_eq]
        rw [pieces_eq] at ih
        cases pieces with
        | nil =>
            rw [List.intercalate_singleton] at ih
            exact (List.intercalate_singleton).trans (congrArg _ ih)
        | cons next pieces =>
            rw [List.intercalate_cons_cons] at ih
            rw [List.modifyHead_cons, List.intercalate_cons_cons, List.cons_append,
              List.cons_append, ih]

/-! ### Carriage returns at the ends of lines -/

theorem dropFinalReturn_append_of_ne {front back : List Char} (nonempty : back ≠ []) :
    dropFinalReturn (front ++ back) = front ++ dropFinalReturn back := by
  induction front with
  | nil => rfl
  | cons char front ih =>
      have more : front ++ back ≠ [] := by simp [nonempty]
      obtain ⟨next, rest, rest_eq⟩ := List.exists_cons_of_ne_nil more
      rw [List.cons_append, List.cons_append, ← ih, rest_eq]
      simp [dropFinalReturn]

theorem dropFinalReturn_eq_self {text : List Char} (keeps : text.getLast? ≠ some '\r') :
    dropFinalReturn text = text := by
  rcases List.eq_nil_or_concat text with rfl | ⟨front, last, rfl⟩
  · rfl
  · have other : last ≠ '\r' := by simpa using keeps
    rw [List.concat_eq_append, dropFinalReturn_append_of_ne (List.cons_ne_nil _ _)]
    simp [dropFinalReturn, other]

theorem dropFinalReturn_append {front back : List Char}
    (ended : back = [] → front.getLast? ≠ some '\r') :
    dropFinalReturn (front ++ back) = front ++ dropFinalReturn back := by
  by_cases isEmpty : back = []
  · rw [isEmpty, List.append_nil, dropFinalReturn_eq_self (ended isEmpty),
      dropFinalReturn, List.append_nil]
  · exact dropFinalReturn_append_of_ne isEmpty

/-- The pieces of a text between line feeds, without the carriage returns at the ends of
those before a line feed. -/
def endedRows : List (List Char) → List (List Char)
  | [] => []
  | [last] => [last]
  | row :: next :: rows => dropFinalReturn row :: endedRows (next :: rows)

theorem endedRows_cons {row : List Char} {rows : List (List Char)} (more : rows ≠ []) :
    endedRows (row :: rows) = dropFinalReturn row :: endedRows rows := by
  obtain ⟨next, others, rfl⟩ := List.exists_cons_of_ne_nil more
  rfl

theorem endedRows_ne_nil {rows : List (List Char)} (nonempty : rows ≠ []) :
    endedRows rows ≠ [] := by
  match rows with
  | [] => exact absurd rfl nonempty
  | [_] => exact List.cons_ne_nil _ _
  | _ :: _ :: _ => exact List.cons_ne_nil _ _

theorem dropFinalReturn_isPrefix (text : List Char) : dropFinalReturn text <+: text := by
  rcases List.eq_nil_or_concat text with rfl | ⟨front, last, rfl⟩
  · exact List.prefix_rfl
  · rw [List.concat_eq_append, dropFinalReturn_append_of_ne (List.cons_ne_nil _ _)]
    rw [List.prefix_append_right_inj]
    by_cases isReturn : last = '\r'
    · subst isReturn
      exact List.nil_prefix
    · simp [dropFinalReturn, isReturn]

theorem count_dropFinalReturn {char : Char} (other : char ≠ '\r') (text : List Char) :
    (dropFinalReturn text).count char = text.count char := by
  rcases List.eq_nil_or_concat text with rfl | ⟨front, last, rfl⟩
  · rfl
  · rw [List.concat_eq_append, dropFinalReturn_append_of_ne (List.cons_ne_nil _ _),
      List.count_append, List.count_append]
    by_cases isReturn : last = '\r'
    · subst isReturn
      simp [dropFinalReturn, Ne.symm other]
    · simp [dropFinalReturn, isReturn]

/-- No other character is lost at the ends of lines. -/
theorem count_flatten_endedRows {char : Char} (other : char ≠ '\r')
    (rows : List (List Char)) :
    (endedRows rows).flatten.count char = rows.flatten.count char := by
  induction rows with
  | nil => rfl
  | cons row rows ih =>
      cases rows with
      | nil => rfl
      | cons next rows =>
          rw [endedRows, List.flatten_cons, List.count_append, ih,
            count_dropFinalReturn other, ← List.count_append, ← List.flatten_cons]

/-- Without its carriage return a row is still a part of a piece of the text. -/
theorem exists_isPrefix_of_mem_endedRows {rows : List (List Char)} {row : List Char}
    (member : row ∈ endedRows rows) : ∃ piece ∈ rows, row <+: piece := by
  induction rows with
  | nil => exact absurd member List.not_mem_nil
  | cons first rows ih =>
      cases rows with
      | nil => exact ⟨row, member, List.prefix_rfl⟩
      | cons next rows =>
          rcases List.mem_cons.mp member with rfl | member
          · exact ⟨first, List.mem_cons_self, dropFinalReturn_isPrefix first⟩
          · obtain ⟨piece, isPiece, isPrefix⟩ := ih member
            exact ⟨piece, List.mem_cons_of_mem first isPiece, isPrefix⟩

/-- In a text without carriage returns none has to be dropped. -/
theorem endedRows_eq_self {rows : List (List Char)} (absent : ∀ row ∈ rows, '\r' ∉ row) :
    endedRows rows = rows := by
  induction rows with
  | nil => rfl
  | cons row rows ih =>
      cases rows with
      | nil => rfl
      | cons next rows =>
          rw [endedRows, ih fun other member =>
            absent other (List.mem_cons_of_mem row member), dropFinalReturn_eq_self]
          exact fun isLast => absent row List.mem_cons_self (List.mem_of_getLast? isLast)

/-- Dropping carriage returns from joined rows is dropping them from each part, if none
stands where the parts meet. -/
theorem map_dropFinalReturn_joinRows {rows others : List (List Char)} {first : List Char}
    (ended : first = [] → (rows.getLast?.bind List.getLast?) ≠ some '\r') :
    (joinRows rows (first :: others)).map dropFinalReturn =
      joinRows (endedRows rows) ((first :: others).map dropFinalReturn) := by
  induction rows with
  | nil => rfl
  | cons row rows ih =>
      cases rows with
      | nil =>
          rw [joinRows, List.map_cons, dropFinalReturn_append (by simpa using ended)]
          rfl
      | cons next rows =>
          rw [joinRows_cons (List.cons_ne_nil next rows), List.map_cons,
            ih (by simpa [List.getLast?_cons] using ended), endedRows]
          rw [joinRows_cons]
          cases rows <;> simp [endedRows]

theorem documentLines_ofList (text : List Char) :
    documentLines (String.ofList text) =
      ((splitAtLineFeeds text).map dropFinalReturn).map String.ofList := by
  rw [documentLines, String.toList_ofList, List.map_map]
  rfl

theorem noLineFeed_of_mem_documentLines {text line : String}
    (member : line ∈ documentLines text) : '\n' ∉ line.toList := by
  rw [← String.ofList_toList (s := text), documentLines_ofList, List.map_map] at member
  obtain ⟨piece, isPiece, rfl⟩ := List.mem_map.mp member
  rw [Function.comp_apply, String.toList_ofList]
  exact fun isLineFeed =>
    not_mem_of_mem_splitAtLineFeeds isPiece
      ((dropFinalReturn_isPrefix piece).subset isLineFeed)

/-- A text without line feeds that does not end with a carriage return, as delimiters
are. -/
structure IsPlain (text : List Char) : Prop where
  noLineFeed : '\n' ∉ text
  noFinalReturn : text.getLast? ≠ some '\r'

theorem IsPlain.map_dropFinalReturn_append {front : List Char} (isPlain : IsPlain front)
    (text : List Char) :
    (splitAtLineFeeds (front ++ text)).map dropFinalReturn =
      joinRows [front] ((splitAtLineFeeds text).map dropFinalReturn) := by
  obtain ⟨piece, pieces, pieces_eq⟩ :=
    List.exists_cons_of_ne_nil (splitAtLineFeeds_ne_nil text)
  rw [splitAtLineFeeds_append, splitAtLineFeeds_of_not_mem isPlain.noLineFeed, pieces_eq,
    joinRows_singleton_append, List.map_cons, dropFinalReturn_append fun _ =>
      isPlain.noFinalReturn]
  rfl

/-- The lines of a document in which a text stands between two delimiters are the lines of
the text, with the delimiters on the first and on the last of them, and on the last one
the first line of what follows. -/
theorem map_dropFinalReturn_enclosed {opening closing : List Char}
    (isOpening : IsPlain opening) (isClosing : IsPlain closing) (nonempty : closing ≠ [])
    (body after : List Char) :
    (splitAtLineFeeds (opening ++ (body ++ (closing ++ after)))).map dropFinalReturn =
      joinRows [opening] (joinRows (endedRows (splitAtLineFeeds body))
        (joinRows [closing] ((splitAtLineFeeds after).map dropFinalReturn))) := by
  have closes : splitAtLineFeeds (closing ++ after) =
      joinRows [closing] (splitAtLineFeeds after) := by
    rw [splitAtLineFeeds_append, splitAtLineFeeds_of_not_mem isClosing.noLineFeed]
  obtain ⟨piece, pieces, pieces_eq⟩ :=
    List.exists_cons_of_ne_nil (splitAtLineFeeds_ne_nil after)
  rw [isOpening.map_dropFinalReturn_append, splitAtLineFeeds_append, closes, pieces_eq,
    joinRows_singleton_append, map_dropFinalReturn_joinRows (by simp [nonempty]),
    ← joinRows_singleton_append, ← pieces_eq, ← closes,
    isClosing.map_dropFinalReturn_append]

end LineLexer.Text
