import LineLexer.Proofs.Scan.Steps
import Mathlib.Data.List.Chain

/-!
# Tokens tile their line

The tokens of a line leave no gap and do not overlap, whatever the rules of the language
are.  The invariant of the scan is that the tokens from a place on cut what follows the
cursor into pieces that are not empty; a tiling of the whole line in this sense gives
every fact about offsets, boundaries and texts.
-/

namespace LineLexer

/-- The tokens cut the characters from the byte offset `offset` on into consecutive pieces
that are not empty. -/
inductive Tiles : (offset : Nat) → List Char → List Token → Prop where
  | nil (offset : Nat) : Tiles offset [] []
  | cons {token : Token} {offset : Nat} {piece rest : List Char} {tokens : List Token}
      (nonempty : piece ≠ []) (start_eq : token.start = offset)
      (stop_eq : token.stop = offset + Text.byteLength piece)
      (tail : Tiles token.stop rest tokens) :
      Tiles offset (piece ++ rest) (token :: tokens)

/-- The tokens of a place tile what follows the cursor. -/
theorem Scanner.tiles_steps (language : Language) (scanner : Scanner) :
    Tiles scanner.offset scanner.rest ((scanner.steps language).map Step.token) := by
  induction scanner using Scanner.induction_on_steps language with
  | atEnd scanner noStep =>
      rw [Scanner.steps_of_step?_eq_none noStep, Scanner.step?_eq_none_iff.mp noStep]
      exact .nil scanner.offset
  | atStep scanner step isStep ih =>
      obtain ⟨count, positive, inside, advance, start_eq, stop_eq⟩ :=
        Scanner.step_advances isStep
      have next_offset : step.next.offset =
          scanner.offset + Text.byteLength (scanner.rest.take count) := by
        rw [advance]
        rfl
      have next_rest : step.next.rest = scanner.rest.drop count := by
        rw [advance]
        rfl
      rw [Scanner.steps_of_step?_eq_some isStep, List.map_cons,
        ← List.take_append_drop count scanner.rest]
      refine .cons ?_ start_eq ?_ ?_
      · intro isEmpty
        have := List.length_take_of_le inside
        rw [isEmpty, List.length_nil] at this
        omega
      · rw [stop_eq, next_offset]
      · rw [stop_eq, ← next_rest]
        exact ih

namespace Tiles

variable {offset : Nat} {chars : List Char} {tokens : List Token}

/-- A tiling starts where the characters start. -/
theorem head_start (tiles : Tiles offset chars tokens) {token : Token}
    (isFirst : tokens.head? = some token) : token.start = offset := by
  cases tiles with
  | nil => simp at isFirst
  | cons nonempty start_eq =>
      obtain rfl := Option.some.inj isFirst
      exact start_eq

theorem isChain (tiles : Tiles offset chars tokens) :
    tokens.IsChain fun first second => second.start = first.stop := by
  induction tiles with
  | nil => exact .nil
  | cons nonempty start_eq stop_eq tail ih =>
      rw [List.isChain_cons]
      exact ⟨fun second isSecond => tail.head_start isSecond, ih⟩

theorem nil_iff (tiles : Tiles offset chars tokens) : tokens = [] ↔ chars = [] := by
  cases tiles with
  | nil => simp
  | cons nonempty => simp [nonempty]

theorem length_le (tiles : Tiles offset chars tokens) : tokens.length ≤ chars.length := by
  induction tiles with
  | nil => simp
  | cons nonempty start_eq stop_eq tail ih =>
      have := List.length_pos_iff.mpr nonempty
      simp only [List.length_cons, List.length_append]
      omega

/-- The last token ends where the characters end. -/
theorem getLast_stop (tiles : Tiles offset chars tokens) {token : Token}
    (isLast : tokens.getLast? = some token) :
    token.stop = offset + Text.byteLength chars := by
  induction tiles with
  | nil => simp at isLast
  | cons nonempty start_eq stop_eq tail ih =>
      rw [Text.byteLength_append, ← Nat.add_assoc, ← stop_eq]
      cases tail with
      | nil =>
          obtain rfl := Option.some.inj isLast
          rfl
      | cons =>
          rw [List.getLast?_cons_cons] at isLast
          exact ih isLast

/-- Each token stands for a piece of the characters that is not empty, with other pieces
on its two sides. -/
theorem piece_of_mem (tiles : Tiles offset chars tokens) {token : Token}
    (member : token ∈ tokens) :
    ∃ front piece back, chars = front ++ (piece ++ back) ∧ piece ≠ [] ∧
      token.start = offset + Text.byteLength front ∧
      token.stop = token.start + Text.byteLength piece := by
  induction tiles with
  | nil => simp at member
  | @cons first offset piece rest tokens nonempty start_eq stop_eq tail ih =>
      rcases List.mem_cons.mp member with rfl | member
      · exact ⟨[], piece, rest, rfl, nonempty, by simpa [Text.byteLength] using start_eq,
          by rw [stop_eq, start_eq]⟩
      · obtain ⟨front, inner, back, rfl, innerNonempty, start_eq', stop_eq'⟩ := ih member
        refine ⟨piece ++ front, inner, back, by simp, innerNonempty, ?_, stop_eq'⟩
        rw [start_eq', stop_eq, Text.byteLength_append, Nat.add_assoc]

/-- Where the characters are the end of a line, the texts of the tokens make up this
end. -/
theorem flatMap_text (tiles : Tiles offset chars tokens) {line : String}
    {before : List Char} (parts : line.toList = before ++ chars)
    (offset_eq : offset = Text.byteLength before) :
    tokens.flatMap (fun token => (token.text line).toList) = chars := by
  induction tiles generalizing before with
  | nil => rfl
  | @cons first offset piece rest tokens nonempty start_eq stop_eq tail ih =>
      have text_eq : first.text line = String.ofList piece := by
        rw [Token.text, stop_eq, start_eq, offset_eq]
        exact Text.slice_eq_of_toList_eq parts
      rw [List.flatMap_cons, text_eq, String.toList_ofList,
        ih (List.append_assoc before piece rest ▸ parts)
          (by rw [stop_eq, offset_eq, Text.byteLength_append])]

end Tiles

/-- What it means for a lexed line to cover the text of the line exactly. -/
structure LexedLine.Covers (lexed : LexedLine) (line : String) : Prop where
  first_start : ∀ token, lexed.tokens.head? = some token → token.start = 0
  consecutive : lexed.tokens.IsChain fun first second => second.start = first.stop
  start_lt_stop : ∀ token ∈ lexed.tokens, token.start < token.stop
  start_isValid : ∀ token ∈ lexed.tokens, (String.Pos.Raw.mk token.start).IsValid line
  stop_isValid : ∀ token ∈ lexed.tokens, (String.Pos.Raw.mk token.stop).IsValid line
  last_stop : ∀ token, lexed.tokens.getLast? = some token → token.stop = line.utf8ByteSize
  join_texts : String.join (lexed.texts line) = line
  tokens_eq_nil_iff : lexed.tokens = [] ↔ line = ""
  length_tokens_le : lexed.tokens.length ≤ line.length

/-- A line whose tokens tile its characters is covered exactly. -/
theorem Tiles.covers {lexed : LexedLine} {line : String}
    (tiles : Tiles 0 line.toList lexed.tokens) : lexed.Covers line where
  first_start _ isFirst := tiles.head_start isFirst
  consecutive := tiles.isChain
  start_lt_stop token member := by
    obtain ⟨front, piece, back, -, nonempty, -, stop_eq⟩ := tiles.piece_of_mem member
    have := Text.byteLength_pos nonempty
    omega
  start_isValid token member := by
    obtain ⟨front, piece, back, parts, -, start_eq, -⟩ := tiles.piece_of_mem member
    rw [start_eq, Nat.zero_add]
    exact Text.isValid_of_toList_eq parts
  stop_isValid token member := by
    obtain ⟨front, piece, back, parts, -, start_eq, stop_eq⟩ := tiles.piece_of_mem member
    rw [stop_eq, start_eq, Nat.zero_add, ← Text.byteLength_append]
    rw [← List.append_assoc] at parts
    exact Text.isValid_of_toList_eq parts
  last_stop token isLast := by
    rw [tiles.getLast_stop isLast, Nat.zero_add, Text.byteLength_toList]
  join_texts := by
    rw [← String.toList_inj, String.toList_join, LexedLine.texts, List.flatMap_map]
    exact tiles.flatMap_text (List.nil_append line.toList).symm rfl
  tokens_eq_nil_iff := by
    rw [tiles.nil_iff, String.toList_eq_nil_iff]
  length_tokens_le := by
    rw [← String.length_toList]
    exact tiles.length_le

/-- The tokens of every line cover the line exactly, in every language and from every
stack. -/
theorem covers_lexLine (language : Language) (stack : ActiveStates) (line : String) :
    (language.lexLine stack line).Covers line :=
  Tiles.covers (Scanner.tiles_steps language (Scanner.start line stack))

end LineLexer
