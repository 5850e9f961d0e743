import LineLexer.Text.Quoted
import Mathlib.Data.List.Basic

/-!
# Quoted texts are visible and can be read back

Whatever a text holds, every character of its quoted form shows.  So a quoted text lies on
one line and holds no sequence that a terminal would act on.  The first character of a
text can be told from the quoted form, whatever follows, so that different texts have
different quoted forms.
-/

namespace LineLexer.Text

/-! ### Hexadecimal digits -/

theorem hexDigits_eq_ite (code : Nat) :
    hexDigits code =
      if code < 16 then [code.digitChar] else hexDigits (code / 16) ++
        [(code % 16).digitChar] :=
  Nat.toDigits_eq_if (by decide)

theorem exists_of_mem_hexDigits {code : Nat} {char : Char}
    (member : char ∈ hexDigits code) : ∃ digit < 16, char = digit.digitChar := by
  induction code using Nat.strongRecOn with
  | ind code ih =>
      rw [hexDigits_eq_ite] at member
      split at member
      · rename_i isDigit
        exact ⟨code, isDigit, List.mem_singleton.mp member⟩
      · rcases List.mem_append.mp member with isHigher | isLast
        · exact ih (code / 16) (by omega) isHigher
        · exact ⟨code % 16, by omega, List.mem_singleton.mp isLast⟩

def hexValue (digit : Char) : Nat :=
  if digit.isDigit then digit.toNat - '0'.toNat else digit.toNat - 'a'.toNat + 10

theorem hexValue_digitChar {digit : Nat} (isDigit : digit < 16) :
    hexValue digit.digitChar = digit := by
  decide +revert

/-- The number that is written with some hexadecimal digits. -/
def ofHexDigits (digits : List Char) : Nat :=
  digits.foldl (fun value digit => value * 16 + hexValue digit) 0

theorem ofHexDigits_hexDigits (code : Nat) : ofHexDigits (hexDigits code) = code := by
  induction code using Nat.strongRecOn with
  | ind code ih =>
      rw [hexDigits_eq_ite]
      split
      · rename_i isDigit
        exact (Nat.zero_add _).trans (hexValue_digitChar isDigit)
      · have shorter := ih (code / 16) (by omega)
        rw [ofHexDigits] at shorter ⊢
        rw [List.foldl_append, shorter, List.foldl_cons, List.foldl_nil,
          hexValue_digitChar (by omega)]
        omega

/-! ### The forms of a character -/

/-- The characters with a short escape, each with the letter that stands for it after a
backslash. -/
def shortEscapes : List (Char × Char) :=
  [('\x00', '0'), ('\t', 't'), ('\r', 'r'), ('\n', 'n'), ('"', '"'), ('\\', '\\')]

/-- A character between quotes is written with a short escape, as itself, or by its
code. -/
theorem quotedChar_cases (char : Char) :
    (∃ letter, (char, letter) ∈ shortEscapes ∧ quotedChar char = ['\\', letter]) ∨
      (char ≠ '\\' ∧ isVisible char = true ∧ quotedChar char = [char]) ∨
      quotedChar char = '\\' :: 'u' :: '\x7b' :: (hexDigits char.toNat ++ ['\x7d']) := by
  unfold quotedChar
  split_ifs with isNull isTab isReturn isNewline isQuote isBackslash isShown
  case pos => exact Or.inl ⟨'0', by rw [isNull]; decide, rfl⟩
  case pos => exact Or.inl ⟨'t', by rw [isTab]; decide, rfl⟩
  case pos => exact Or.inl ⟨'r', by rw [isReturn]; decide, rfl⟩
  case pos => exact Or.inl ⟨'n', by rw [isNewline]; decide, rfl⟩
  case pos => exact Or.inl ⟨'"', by rw [isQuote]; decide, rfl⟩
  case pos => exact Or.inl ⟨'\\', by rw [isBackslash]; decide, rfl⟩
  case pos => exact Or.inr (Or.inl ⟨isBackslash, isShown, rfl⟩)
  case neg => exact Or.inr (Or.inr rfl)

/-! ### What shows -/

/-- The characters that escapes are written with. -/
def escapeChars : List Char :=
  ['\\', '"', 'u', '\x7b', '\x7d'] ++ shortEscapes.map Prod.snd ++
    (List.range 16).map Nat.digitChar

theorem isVisible_of_mem_escapeChars {char : Char} (member : char ∈ escapeChars) :
    isVisible char = true := by
  have areVisible : escapeChars.all isVisible = true := by decide +kernel
  exact List.all_eq_true.mp areVisible char member

theorem isVisible_of_mem_quotedChar {char shown : Char}
    (member : shown ∈ quotedChar char) :
    isVisible shown = true := by
  rcases quotedChar_cases char with ⟨letter, isEscape, isWritten⟩ | ⟨-, isShown,
    isWritten⟩ | isWritten
  · have isLetter : letter ∈ shortEscapes.map Prod.snd := List.mem_map_of_mem isEscape
    rw [isWritten] at member
    rcases List.mem_pair.mp member with rfl | rfl
    · exact isVisible_of_mem_escapeChars (by decide)
    · exact isVisible_of_mem_escapeChars
        (List.mem_append_left _ (List.mem_append_right _ isLetter))
  · rw [isWritten] at member
    exact List.mem_singleton.mp member ▸ isShown
  · refine isVisible_of_mem_escapeChars ?_
    simp only [isWritten, List.mem_cons, List.mem_append, List.not_mem_nil,
      or_false] at member
    rcases member with rfl | rfl | rfl | isDigit | rfl
    · decide
    · decide
    · decide
    · obtain ⟨digit, isLess, rfl⟩ := exists_of_mem_hexDigits isDigit
      exact List.mem_append_right _ (List.mem_map_of_mem (List.mem_range.mpr isLess))
    · decide

theorem toList_quoted (text : String) :
    (quoted text).toList = '"' :: (text.toList.flatMap quotedChar ++ ['"']) := by
  rw [quoted, String.toList_ofList, List.cons_append]

/-- All characters of a quoted text show. -/
theorem isVisible_of_mem_quoted {text : String} {shown : Char}
    (member : shown ∈ (quoted text).toList) : isVisible shown = true := by
  have ofQuote : isVisible '"' = true := isVisible_of_mem_escapeChars (by decide)
  simp only [toList_quoted, List.mem_cons, List.mem_append, List.mem_flatMap,
    List.not_mem_nil, or_false] at member
  rcases member with rfl | ⟨char, -, isWritten⟩ | rfl
  · exact ofQuote
  · exact isVisible_of_mem_quotedChar isWritten
  · exact ofQuote

theorem not_mem_quoted {hidden : Char} (isHidden : isVisible hidden = false)
    (text : String) : hidden ∉ (quoted text).toList :=
  fun member => Bool.false_ne_true (isHidden.symm.trans (isVisible_of_mem_quoted member))

/-! ### Reading back -/

/-- The character whose written form stands at the start of a text. -/
def readQuotedChar : List Char → Option Char
  | '\\' :: 'u' :: '\x7b' :: rest =>
      some (Char.ofNat (ofHexDigits (rest.takeWhile (· != '\x7d'))))
  | '\\' :: letter :: _ => (shortEscapes.find? (·.2 == letter)).map Prod.fst
  | char :: _ => some char
  | [] => none

theorem readQuotedChar_quotedChar_append (char : Char) (rest : List Char) :
    readQuotedChar (quotedChar char ++ rest) = some char := by
  rcases quotedChar_cases char with ⟨letter, isEscape, isWritten⟩ | ⟨notBackslash, -,
    isWritten⟩ | isWritten
  · have readBack : ∀ escape ∈ shortEscapes, escape.2 ≠ 'u' ∧
        (shortEscapes.find? (·.2 == escape.2)).map Prod.fst = some escape.1 := by
      decide
    obtain ⟨notCode, isRead⟩ := readBack (char, letter) isEscape
    rw [isWritten, List.cons_append, List.cons_append, List.nil_append,
      readQuotedChar.eq_def]
    split
    · rename_i isCode
      exact absurd (List.cons.inj (List.cons.inj isCode).2).1 notCode
    · rename_i isLetter
      obtain ⟨rfl, -⟩ := List.cons.inj (List.cons.inj isLetter).2
      exact isRead
    · rename_i noEscape isShape
      obtain ⟨rfl, rfl⟩ := List.cons.inj isShape
      exact absurd rfl (noEscape letter rest rfl)
    · rename_i isEmpty
      cases isEmpty
  · rw [isWritten, List.singleton_append, readQuotedChar.eq_def]
    split <;> simp_all
  · have digits_eq : (hexDigits char.toNat ++ '\x7d' :: rest).takeWhile (· != '\x7d') =
        hexDigits char.toNat := by
      have ofDigits : ∀ digit < 16, (Nat.digitChar digit != '\x7d') = true := by decide
      rw [List.takeWhile_append_of_pos fun digit member => ?_]
      · simp
      · obtain ⟨value, isDigit, rfl⟩ := exists_of_mem_hexDigits member
        exact ofDigits value isDigit
    rw [isWritten, List.cons_append, List.cons_append, List.cons_append,
      List.append_assoc, List.singleton_append, readQuotedChar, digits_eq,
      ofHexDigits_hexDigits, Char.ofNat_toNat]

theorem flatMap_quotedChar_injective : Function.Injective (List.flatMap quotedChar) := by
  intro first second same
  induction first generalizing second with
  | nil =>
      cases second with
      | nil => rfl
      | cons other second =>
          have read := congrArg readQuotedChar same
          rw [List.flatMap_cons, readQuotedChar_quotedChar_append] at read
          cases read
  | cons char first ih =>
      have read := congrArg readQuotedChar same
      cases second with
      | nil =>
          rw [List.flatMap_cons, readQuotedChar_quotedChar_append] at read
          cases read
      | cons other second =>
          rw [List.flatMap_cons, List.flatMap_cons, readQuotedChar_quotedChar_append,
            readQuotedChar_quotedChar_append] at read
          obtain rfl := Option.some.inj read
          rw [List.flatMap_cons, List.flatMap_cons] at same
          rw [ih (List.append_cancel_left same)]

/-- Different texts have different quoted forms. -/
theorem quoted_injective : Function.Injective quoted := by
  intro first second same
  have chars_eq := congrArg String.toList same
  rw [toList_quoted, toList_quoted, List.cons.injEq] at chars_eq
  exact String.toList_inj.mp
    (flatMap_quotedChar_injective (List.append_cancel_right chars_eq.2))

end LineLexer.Text
