import LineLexer.Json
import Mathlib.Data.List.Basic
import Std.Data.String.ToNat

/-!
# JSON text is read in one way

Both written forms of a value determine it.  The two forms differ in their blanks alone,
so they are treated as one text with a layout.  A value can be told from the text it
begins, and with it the place where it ends; only for a number does this depend on what
follows, since more digits would continue it.
-/

namespace LineLexer.Json

/-! ### Texts -/

/-- One character of an escaped text, with what follows it. -/
def readChar : List Char → Option (Char × List Char)
  | '\\' :: 'b' :: rest => some ('\x08', rest)
  | '\\' :: 'f' :: rest => some ('\x0c', rest)
  | '\\' :: 'n' :: rest => some ('\n', rest)
  | '\\' :: 'r' :: rest => some ('\r', rest)
  | '\\' :: 't' :: rest => some ('\t', rest)
  | '\\' :: 'u' :: '0' :: '0' :: high :: low :: rest =>
      ((List.range 32).find? fun code => hexDigit (code / 16) = high ∧
        hexDigit (code % 16) = low).map
        fun code => (Char.ofNat code, rest)
  | '\\' :: char :: rest => some (char, rest)
  | char :: rest => some (char, rest)
  | [] => none

theorem find?_hexDigits {code : Nat} (isControl : code < 32) :
    ((List.range 32).find? fun other =>
      hexDigit (other / 16) = hexDigit (code / 16) ∧
        hexDigit (other % 16) = hexDigit (code % 16)) = some code := by
  decide +revert +kernel

theorem readChar_escapedChar_append (char : Char) (rest : List Char) :
    readChar (escapedChar char ++ rest) = some (char, rest) := by
  unfold escapedChar
  split_ifs with isQuote isBackslash isBackspace isFormFeed isNewline isReturn
    isTab isControl
  case pos => subst isQuote; rfl
  case pos => subst isBackslash; rfl
  case pos => subst isBackspace; rfl
  case pos => subst isFormFeed; rfl
  case pos => subst isNewline; rfl
  case pos => subst isReturn; rfl
  case pos => subst isTab; rfl
  case pos =>
    simp only [List.cons_append, List.nil_append, readChar, find?_hexDigits isControl,
      Option.map_some, Char.ofNat_toNat]
  case neg =>
    rw [List.singleton_append, readChar.eq_def]
    split <;> simp_all

theorem escapedChar_append_inj {first second : Char} {rest others : List Char}
    (same : escapedChar first ++ rest = escapedChar second ++ others) :
    first = second ∧ rest = others := by
  have read := congrArg readChar same
  rw [readChar_escapedChar_append, readChar_escapedChar_append] at read
  exact Prod.mk.inj (Option.some.inj read)

theorem escapedChar_append_ne_quote (char : Char) (rest others : List Char) :
    escapedChar char ++ rest ≠ '"' :: others := by
  unfold escapedChar
  split_ifs <;> simp_all

/-- A text ends at its first quote that is not escaped. -/
theorem flatMap_escapedChar_append_inj {first second rest others : List Char}
    (same : first.flatMap escapedChar ++ '"' :: rest =
      second.flatMap escapedChar ++ '"' :: others) :
    first = second ∧ rest = others := by
  induction first generalizing second with
  | nil =>
      cases second with
      | nil => exact ⟨rfl, (List.cons.inj same).2⟩
      | cons char second =>
          -- The quote that ends the one text would have to begin a character of the
          -- other.
          rw [List.flatMap_cons, List.append_assoc] at same
          exact absurd same.symm (escapedChar_append_ne_quote _ _ _)
  | cons char first ih =>
      cases second with
      | nil =>
          rw [List.flatMap_cons, List.append_assoc] at same
          exact absurd same (escapedChar_append_ne_quote _ _ _)
      | cons other second =>
          rw [List.flatMap_cons, List.flatMap_cons, List.append_assoc,
            List.append_assoc] at same
          obtain ⟨rfl, others_eq⟩ := escapedChar_append_inj same
          obtain ⟨rfl, rest_eq⟩ := ih others_eq
          exact ⟨rfl, rest_eq⟩

theorem toList_escaped (text : String) :
    (escaped text).toList = '"' :: (text.toList.flatMap escapedChar ++ ['"']) := by
  rw [escaped, String.toList_ofList, List.cons_append]

theorem escaped_append_inj {first second : String} {rest others : List Char}
    (same : (escaped first).toList ++ rest = (escaped second).toList ++ others) :
    first = second ∧ rest = others := by
  simp only [toList_escaped, List.cons_append, List.append_assoc, List.nil_append,
    List.cons.injEq, true_and] at same
  obtain ⟨chars_eq, rest_eq⟩ := flatMap_escapedChar_append_inj same
  exact ⟨String.toList_inj.mp chars_eq, rest_eq⟩

/-! ### Numbers -/

/-- What follows a value does not continue the digits of a number. -/
def EndsDigits (rest : List Char) : Prop :=
  ∀ char ∈ rest.head?, char.isDigit = false

theorem isDigit_of_mem_toString {value : Nat} {char : Char}
    (member : char ∈ (toString value).toList) : char.isDigit = true := by
  rw [Nat.toString_eq_ofList_toDigits, String.toList_ofList] at member
  exact Nat.isDigit_of_mem_toDigits (by decide) (by decide) member

theorem takeWhile_isDigit_toString {value : Nat} {rest : List Char}
    (ends : EndsDigits rest) :
    ((toString value).toList ++ rest).takeWhile Char.isDigit =
      (toString value).toList := by
  rw [List.takeWhile_append_of_pos fun char member => isDigit_of_mem_toString member]
  cases rest with
  | nil => simp
  | cons char rest => simp [ends char rfl]

theorem toString_append_inj {first second : Nat} {rest others : List Char}
    (ends : EndsDigits rest) (otherEnds : EndsDigits others)
    (same : (toString first).toList ++ rest = (toString second).toList ++ others) :
    first = second ∧ rest = others := by
  have digits_eq := congrArg (List.takeWhile Char.isDigit) same
  rw [takeWhile_isDigit_toString ends, takeWhile_isDigit_toString otherEnds] at digits_eq
  rw [digits_eq] at same
  exact ⟨Nat.repr_injective (String.toList_inj.mp digits_eq),
    List.append_cancel_left same⟩

/-! ### Items between brackets -/

/-- The text of the value can be told from any text that begins with a value, and so can
the place where it ends. -/
def IsReadable {α : Type} (text : α → List Char) (value : α) : Prop :=
  ∀ other rest others, EndsDigits rest → EndsDigits others →
    text value ++ rest = text other ++ others → value = other ∧ rest = others

def IsBlank (char : Char) : Prop :=
  char = '\n' ∨ char = ' '

def Closes (char : Char) : Prop :=
  char = ']' ∨ char = '\x7d'

/-- Written items with a comma and blanks before each, and what follows them. -/
def furtherItems (before rest : List Char) : List (List Char) → List Char
  | [] => rest
  | item :: items => ',' :: (before ++ (item ++ furtherItems before rest items))

/-- Written items between brackets, with blanks before each item and before the closing
bracket. -/
def enclosed (opening closing : Char) (before after : List Char) :
    List (List Char) → List Char
  | [] => [opening, closing]
  | item :: items =>
      opening :: (before ++ (item ++ furtherItems before (after ++ [closing]) items))

theorem furtherItems_append (before rest others : List Char) (items : List (List Char)) :
    furtherItems before rest items ++ others =
      furtherItems before (rest ++ others) items := by
  induction items with
  | nil => rfl
  | cons item items ih =>
      rw [furtherItems, furtherItems, List.cons_append, List.append_assoc,
        List.append_assoc, ih]

theorem enclosed_nil_append (opening closing : Char) (before after rest : List Char) :
    enclosed opening closing before after [] ++ rest = opening :: closing :: rest :=
  rfl

theorem enclosed_cons_append (opening closing : Char) (before after rest item : List Char)
    (items : List (List Char)) :
    enclosed opening closing before after (item :: items) ++ rest =
      opening :: (before ++
        (item ++ furtherItems before (after ++ closing :: rest) items)) := by
  rw [enclosed, List.cons_append, List.append_assoc, List.append_assoc,
    furtherItems_append, List.append_assoc, List.singleton_append]

section Enclosed

variable {α : Type} {text : α → List Char} {closing : Char} {before after : List Char}

/-- After the last item stand blanks and the closing bracket, which neither continue it
nor begin another. -/
theorem head?_closing (isBlank : ∀ char ∈ after, IsBlank char) (closes : Closes closing)
    (rest : List Char) {char : Char} (isHead : char ∈ (after ++ closing :: rest).head?) :
    char ≠ ',' ∧ char.isDigit = false := by
  cases after with
  | nil =>
      cases isHead
      rcases closes with rfl | rfl <;> decide
  | cons first after =>
      cases isHead
      rcases isBlank char List.mem_cons_self with rfl | rfl <;> decide

theorem endsDigits_furtherItems (isBlank : ∀ char ∈ after, IsBlank char)
    (closes : Closes closing) (rest : List Char) (items : List (List Char)) :
    EndsDigits (furtherItems before (after ++ closing :: rest) items) := by
  cases items with
  | nil => exact fun char isHead => (head?_closing isBlank closes rest isHead).2
  | cons item items =>
      rintro _ ⟨⟩
      rfl

theorem item_append_inj (isBlank : ∀ char ∈ after, IsBlank char) (closes : Closes closing)
    {item other : α} {rest others : List Char} {items otherItems : List (List Char)}
    (readable : IsReadable text item)
    (same : text item ++ furtherItems before (after ++ closing :: rest) items =
      text other ++ furtherItems before (after ++ closing :: others) otherItems) :
    item = other ∧ furtherItems before (after ++ closing :: rest) items =
      furtherItems before (after ++ closing :: others) otherItems :=
  readable other _ _ (endsDigits_furtherItems isBlank closes rest items)
    (endsDigits_furtherItems isBlank closes others otherItems) same

theorem furtherItems_inj (isBlank : ∀ char ∈ after, IsBlank char)
    (closes : Closes closing) {first second : List α} {rest others : List Char}
    (readable : ∀ item ∈ first, IsReadable text item)
    (same : furtherItems before (after ++ closing :: rest) (first.map text) =
      furtherItems before (after ++ closing :: others) (second.map text)) :
    first = second ∧ rest = others := by
  induction first generalizing second with
  | nil =>
      cases second with
      | nil => exact ⟨rfl, (List.cons.inj (List.append_cancel_left same)).2⟩
      | cons other second =>
          have isHead : ',' ∈ (after ++ closing :: rest).head? := congrArg List.head? same
          exact absurd rfl (head?_closing isBlank closes rest isHead).1
  | cons item first ih =>
      cases second with
      | nil =>
          have isHead : ',' ∈ (after ++ closing :: others).head? :=
            congrArg List.head? same.symm
          exact absurd rfl (head?_closing isBlank closes others isHead).1
      | cons other second =>
          obtain ⟨rfl, others_eq⟩ :=
            item_append_inj isBlank closes (readable item List.mem_cons_self)
              (List.append_cancel_left (List.cons.inj same).2)
          obtain ⟨rfl, rest_eq⟩ :=
            ih (fun inner member => readable inner (List.mem_cons_of_mem _ member))
              others_eq
          exact ⟨rfl, rest_eq⟩

theorem beforeItem_append_ne (isBlank : ∀ char ∈ before, IsBlank char)
    (closes : Closes closing)
    (notClosing : ∀ item rest others, text item ++ rest ≠ closing :: others) (item : α)
    (rest others : List Char) : before ++ (text item ++ rest) ≠ closing :: others := by
  cases before with
  | nil => exact notClosing item rest others
  | cons char before =>
      intro same
      have char_eq := (List.cons.inj same).1
      rcases isBlank char List.mem_cons_self with rfl | rfl <;>
        rcases closes with rfl | rfl <;>
        exact absurd char_eq (by decide)

theorem enclosed_append_inj (beforeIsBlank : ∀ char ∈ before, IsBlank char)
    (isBlank : ∀ char ∈ after, IsBlank char) (closes : Closes closing)
    (notClosing : ∀ item rest others, text item ++ rest ≠ closing :: others)
    {opening : Char} {first second : List α} {rest others : List Char}
    (readable : ∀ item ∈ first, IsReadable text item)
    (same : enclosed opening closing before after (first.map text) ++ rest =
      enclosed opening closing before after (second.map text) ++ others) :
    first = second ∧ rest = others := by
  have notBefore := beforeItem_append_ne beforeIsBlank closes notClosing
  cases first with
  | nil =>
      cases second with
      | nil => exact ⟨rfl, List.append_cancel_left same⟩
      | cons other second =>
          rw [List.map_nil, List.map_cons, enclosed_nil_append,
            enclosed_cons_append] at same
          exact absurd (List.cons.inj same).2.symm (notBefore other _ rest)
  | cons item first =>
      cases second with
      | nil =>
          rw [List.map_nil, List.map_cons, enclosed_nil_append,
            enclosed_cons_append] at same
          exact absurd (List.cons.inj same).2 (notBefore item _ others)
      | cons other second =>
          rw [List.map_cons, List.map_cons, enclosed_cons_append,
            enclosed_cons_append] at same
          obtain ⟨rfl, others_eq⟩ :=
            item_append_inj isBlank closes (readable item List.mem_cons_self)
              (List.append_cancel_left (List.cons.inj same).2)
          obtain ⟨rfl, rest_eq⟩ := furtherItems_inj isBlank closes
            (fun inner member => readable inner (List.mem_cons_of_mem _ member)) others_eq
          exact ⟨rfl, rest_eq⟩

end Enclosed

/-! ### Values -/

/-- The blanks of a written form: what stands before an item of a level and before the
bracket that closes the level, and what stands between a key and its value. -/
structure Layout where
  beforeItem : Nat → List Char
  afterColon : List Char
  isBlank : ∀ level, ∀ char ∈ beforeItem level, IsBlank char

def Layout.compact : Layout where
  beforeItem _ := []
  afterColon := []
  isBlank := by simp

def Layout.pretty : Layout where
  beforeItem level := '\n' :: List.replicate (2 * level) ' '
  afterColon := [' ']
  isBlank _ char member := by
    rcases List.mem_cons.mp member with rfl | member
    · exact .inl rfl
    · exact .inr (List.eq_of_mem_replicate member)

mutual

/-- The text of a value that stands at a level, in the form with the given blanks. -/
def chars (layout : Layout) (level : Nat) : Json → List Char
  | .number value => (toString value).toList
  | .bool true => "true".toList
  | .bool false => "false".toList
  | .text value => (escaped value).toList
  | .list items =>
      enclosed '[' ']' (layout.beforeItem (level + 1)) (layout.beforeItem level)
        (itemChars layout (level + 1) items)
  | .object fields =>
      enclosed '\x7b' '\x7d' (layout.beforeItem (level + 1)) (layout.beforeItem level)
        (fieldChars layout (level + 1) fields)

def itemChars (layout : Layout) (level : Nat) : List Json → List (List Char)
  | [] => []
  | item :: items => item.chars layout level :: itemChars layout level items

def fieldChars (layout : Layout) (level : Nat) : List (String × Json) → List (List Char)
  | [] => []
  | (key, value) :: fields =>
      ((escaped key).toList ++ ':' :: (layout.afterColon ++ value.chars layout level)) ::
        fieldChars layout level fields

end

variable {layout : Layout}

def fieldText (layout : Layout) (level : Nat) (field : String × Json) : List Char :=
  (escaped field.1).toList ++ ':' :: (layout.afterColon ++ field.2.chars layout level)

theorem itemChars_eq_map (level : Nat) (items : List Json) :
    itemChars layout level items = items.map (chars layout level) := by
  induction items with
  | nil => rfl
  | cons item items ih => rw [itemChars, ih, List.map_cons]

theorem fieldChars_eq_map (level : Nat) (fields : List (String × Json)) :
    fieldChars layout level fields = fields.map (fieldText layout level) := by
  induction fields with
  | nil => rfl
  | cons field fields ih => rw [fieldChars, ih, List.map_cons, fieldText]

theorem chars_list (level : Nat) (items : List Json) :
    (Json.list items).chars layout level =
      enclosed '[' ']' (layout.beforeItem (level + 1)) (layout.beforeItem level)
        (items.map (chars layout (level + 1))) := by
  rw [chars, itemChars_eq_map]

theorem chars_object (level : Nat) (fields : List (String × Json)) :
    (Json.object fields).chars layout level =
      enclosed '\x7b' '\x7d' (layout.beforeItem (level + 1)) (layout.beforeItem level)
        (fields.map (fieldText layout (level + 1))) := by
  rw [chars, fieldChars_eq_map]

/-- What the first character of its text tells of a value. -/
inductive Kind where
  | number
  | bool (value : Bool)
  | text
  | list
  | object

def kind : Json → Kind
  | .number _ => .number
  | .bool value => .bool value
  | .text _ => .text
  | .list _ => .list
  | .object _ => .object

/-- The kind of the values whose texts begin with a character. -/
def kindAt? (char : Char) : Option Kind :=
  if char.isDigit then
    some .number
  else
    match char with
    | 't' => some (.bool true)
    | 'f' => some (.bool false)
    | '"' => some .text
    | '[' => some .list
    | '\x7b' => some .object
    | _ => none

theorem exists_head_enclosed (opening closing : Char) (before after : List Char)
    (items : List (List Char)) :
    ∃ rest, enclosed opening closing before after items = opening :: rest := by
  cases items with
  | nil => exact ⟨_, rfl⟩
  | cons item items => exact ⟨_, rfl⟩

theorem exists_head_chars (layout : Layout) (level : Nat) (value : Json) :
    ∃ char rest, value.chars layout level = char :: rest ∧
    kindAt? char = some value.kind := by
  cases value with
  | number value =>
      cases digits : (toString value).toList with
      | nil =>
          rw [Nat.toString_eq_ofList_toDigits, String.toList_ofList] at digits
          exact absurd digits Nat.toDigits_ne_nil
      | cons digit others =>
          have isDigit := isDigit_of_mem_toString (digits ▸ List.mem_cons_self)
          exact ⟨digit, others, digits, if_pos isDigit⟩
  | bool value =>
      cases value with
      | false => exact ⟨'f', _, rfl, rfl⟩
      | true => exact ⟨'t', _, rfl, rfl⟩
  | text value => exact ⟨'"', _, toList_escaped value, rfl⟩
  | list items =>
      obtain ⟨rest, text_eq⟩ := exists_head_enclosed '[' ']' _ _ _
      exact ⟨'[', rest, text_eq, rfl⟩
  | object fields =>
      obtain ⟨rest, text_eq⟩ := exists_head_enclosed '\x7b' '\x7d' _ _ _
      exact ⟨'\x7b', rest, text_eq, rfl⟩

theorem kind_eq_of_append_eq {level : Nat} {first second : Json} {rest others : List Char}
    (same : first.chars layout level ++ rest = second.chars layout level ++ others) :
    first.kind = second.kind := by
  obtain ⟨char, _, first_eq, isFirst⟩ := exists_head_chars layout level first
  obtain ⟨otherChar, _, second_eq, isSecond⟩ := exists_head_chars layout level second
  rw [first_eq, second_eq] at same
  obtain ⟨rfl, -⟩ := List.cons.inj same
  exact Option.some.inj (isFirst.symm.trans isSecond)

theorem chars_append_ne_closing {closing : Char} (closes : Closes closing) (level : Nat)
    (value : Json) (rest others : List Char) :
    value.chars layout level ++ rest ≠ closing :: others := by
  obtain ⟨char, _, value_eq, isKind⟩ := exists_head_chars layout level value
  rw [value_eq]
  intro same
  obtain ⟨rfl, -⟩ := List.cons.inj same
  rcases closes with rfl | rfl <;> cases isKind

theorem fieldText_append_ne_closing {closing : Char} (closes : Closes closing)
    (level : Nat) (field : String × Json) (rest others : List Char) :
    fieldText layout level field ++ rest ≠ closing :: others := by
  rw [fieldText, toList_escaped]
  intro same
  rcases closes with rfl | rfl <;> exact absurd (List.cons.inj same).1 (by decide)

theorem isReadable_fieldText {level : Nat} {field : String × Json}
    (readable : IsReadable (chars layout level) field.2) :
    IsReadable (fieldText layout level) field := by
  intro other rest others ends otherEnds same
  rw [fieldText, fieldText, List.append_assoc, List.append_assoc] at same
  obtain ⟨key_eq, same⟩ := escaped_append_inj same
  rw [List.cons_append, List.cons_append, List.append_assoc, List.append_assoc] at same
  obtain ⟨value_eq, rest_eq⟩ :=
    readable _ _ _ ends otherEnds (List.append_cancel_left (List.cons.inj same).2)
  exact ⟨Prod.ext key_eq value_eq, rest_eq⟩

mutual

theorem isReadable_chars :
    ∀ (value : Json) (level : Nat), IsReadable (chars layout level) value
  | .number value, level => by
      intro other rest others ends otherEnds same
      have kind_eq := kind_eq_of_append_eq same
      cases other with
      | number other =>
          -- Only here it matters what follows: a longer number may begin with the digits
          -- of a shorter one.
          obtain ⟨rfl, rest_eq⟩ := toString_append_inj ends otherEnds same
          exact ⟨rfl, rest_eq⟩
      | _ => cases kind_eq
  | .bool value, level => by
      intro other rest others _ _ same
      have kind_eq := kind_eq_of_append_eq same
      cases other with
      | bool other =>
          cases kind_eq
          exact ⟨rfl, List.append_cancel_left same⟩
      | _ => cases kind_eq
  | .text value, level => by
      intro other rest others _ _ same
      have kind_eq := kind_eq_of_append_eq same
      cases other with
      | text other =>
          obtain ⟨rfl, rest_eq⟩ := escaped_append_inj same
          exact ⟨rfl, rest_eq⟩
      | _ => cases kind_eq
  | .list items, level => by
      intro other rest others _ _ same
      have kind_eq := kind_eq_of_append_eq same
      cases other with
      | list otherItems =>
          rw [chars_list, chars_list] at same
          obtain ⟨rfl, rest_eq⟩ :=
            enclosed_append_inj (layout.isBlank _) (layout.isBlank _) (.inl rfl)
              (chars_append_ne_closing (.inl rfl) (level + 1))
              (isReadable_items items (level + 1)) same
          exact ⟨rfl, rest_eq⟩
      | _ => cases kind_eq
  | .object fields, level => by
      intro other rest others _ _ same
      have kind_eq := kind_eq_of_append_eq same
      cases other with
      | object otherFields =>
          rw [chars_object, chars_object] at same
          obtain ⟨rfl, rest_eq⟩ :=
            enclosed_append_inj (layout.isBlank _) (layout.isBlank _) (.inr rfl)
              (fieldText_append_ne_closing (.inr rfl) (level + 1))
              (isReadable_fields fields (level + 1)) same
          exact ⟨rfl, rest_eq⟩
      | _ => cases kind_eq

theorem isReadable_items : ∀ (items : List Json) (level : Nat),
    ∀ item ∈ items, IsReadable (chars layout level) item
  | [], _ => List.forall_mem_nil _
  | item :: items, level =>
      List.forall_mem_cons.mpr ⟨isReadable_chars item level, isReadable_items items level⟩

theorem isReadable_fields : ∀ (fields : List (String × Json)) (level : Nat),
    ∀ field ∈ fields, IsReadable (fieldText layout level) field
  | [], _ => List.forall_mem_nil _
  | (_, value) :: fields, level =>
      List.forall_mem_cons.mpr
        ⟨isReadable_fieldText (isReadable_chars value level),
          isReadable_fields fields level⟩

end

theorem chars_injective (layout : Layout) (level : Nat) :
    Function.Injective (chars layout level) := by
  intro first second same
  have readable : IsReadable (chars layout level) first := isReadable_chars first level
  have endsDigits : EndsDigits [] :=
    fun char isHead => absurd isHead (Option.not_mem_none char)
  exact (readable second [] [] endsDigits endsDigits (by rw [same])).1

/-! ### The two forms -/

theorem intercalate_append (before item rest : List Char) (items : List (List Char)) :
    List.intercalate (',' :: before) (item :: items) ++ rest =
      item ++ furtherItems before rest items := by
  induction items generalizing item with
  | nil => rw [List.intercalate_singleton, furtherItems]
  | cons next items ih =>
      rw [List.intercalate_cons_cons, List.append_assoc, List.append_assoc, ih,
        furtherItems, List.cons_append]

theorem enclosed_cons_eq_intercalate (opening closing : Char)
    (before after item : List Char) (items : List (List Char)) :
    enclosed opening closing before after (item :: items) =
      opening :: (before ++
        (List.intercalate (',' :: before) (item :: items) ++ (after ++ [closing]))) := by
  rw [enclosed, intercalate_append]

theorem toList_intercalate_enclosed (opening closing : Char) (items : List String) :
    (String.singleton opening ++ ",".intercalate items ++
      String.singleton closing).toList =
      enclosed opening closing [] [] (items.map String.toList) := by
  cases items with
  | nil => simp [enclosed]
  | cons item items => simp [enclosed_cons_eq_intercalate, String.toList_intercalate]

theorem toList_bracketed (opening closing : Char) (level : Nat) (items : List String) :
    (bracketed (String.singleton opening) (String.singleton closing) level items).toList =
      enclosed opening closing (Layout.pretty.beforeItem (level + 1))
        (Layout.pretty.beforeItem level) (items.map String.toList) := by
  cases items with
  | nil => simp [bracketed, enclosed]
  | cons item items =>
      simp [bracketed, enclosed_cons_eq_intercalate, String.toList_intercalate,
        Layout.pretty, indentation]

mutual

theorem toList_compact :
    ∀ (value : Json) (level : Nat), value.compact.toList = value.chars .compact level
  | .number _, _ => rfl
  | .bool true, _ => rfl
  | .bool false, _ => rfl
  | .text _, _ => rfl
  | .list items, level => by
      rw [compact, chars, ← map_compactItems items (level + 1)]
      exact toList_intercalate_enclosed '[' ']' (compactItems items)
  | .object fields, level => by
      rw [compact, chars, ← map_compactFields fields (level + 1)]
      exact toList_intercalate_enclosed '\x7b' '\x7d' (compactFields fields)

theorem map_compactItems : ∀ (items : List Json) (level : Nat),
    (compactItems items).map String.toList = itemChars .compact level items
  | [], _ => rfl
  | item :: items, level => by
      rw [compactItems, itemChars, List.map_cons, toList_compact item level,
        map_compactItems items level]

theorem map_compactFields : ∀ (fields : List (String × Json)) (level : Nat),
    (compactFields fields).map String.toList = fieldChars .compact level fields
  | [], _ => rfl
  | (key, value) :: fields, level => by
      rw [compactFields, fieldChars, List.map_cons, map_compactFields fields level,
        String.toList_append, String.toList_append, toList_compact value level,
        List.append_assoc]
      rfl

end

mutual

theorem toList_prettyAt : ∀ (value : Json) (level : Nat),
    (value.prettyAt level).toList = value.chars .pretty level
  | .number _, _ => rfl
  | .bool true, _ => rfl
  | .bool false, _ => rfl
  | .text _, _ => rfl
  | .list items, level => by
      rw [prettyAt, chars, ← map_prettyItems items (level + 1)]
      exact toList_bracketed '[' ']' level _
  | .object fields, level => by
      rw [prettyAt, chars, ← map_prettyFields fields (level + 1)]
      exact toList_bracketed '\x7b' '\x7d' level _

theorem map_prettyItems : ∀ (items : List Json) (level : Nat),
    (prettyItems level items).map String.toList = itemChars .pretty level items
  | [], _ => rfl
  | item :: items, level => by
      rw [prettyItems, itemChars, List.map_cons, toList_prettyAt item level,
        map_prettyItems items level]

theorem map_prettyFields : ∀ (fields : List (String × Json)) (level : Nat),
    (prettyFields level fields).map String.toList = fieldChars .pretty level fields
  | [], _ => rfl
  | (key, value) :: fields, level => by
      rw [prettyFields, fieldChars, List.map_cons, map_prettyFields fields level,
        String.toList_append, String.toList_append, toList_prettyAt value level,
        List.append_assoc]
      rfl

end

/-- A value can be told from either of its written forms. -/
theorem render_injective (isPretty : Bool) :
    Function.Injective fun value : Json => value.render isPretty := by
  intro first second same
  cases isPretty with
  | false =>
      refine chars_injective .compact 0 ?_
      rw [← toList_compact, ← toList_compact]
      exact congrArg String.toList same
  | true =>
      refine chars_injective .pretty 0 ?_
      rw [← toList_prettyAt, ← toList_prettyAt]
      exact congrArg String.toList same

end LineLexer.Json
