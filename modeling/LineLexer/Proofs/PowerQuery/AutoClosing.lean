import LineLexer.Catalog.BuiltIn
import LineLexer.Proofs.PowerQuery.States
import LineLexer.Proofs.Scan.LineEnds
import LineLexer.Proofs.Scan.Merging
import LineLexer.Proofs.Scan.Nesting

/-!
# Automatic closing in Power Query

When a quote or an opening bracket is typed, an editor adds the closing one, unless the
byte before the cursor is a part of a string, of a comment or of a quoted identifier.  At
the start of a line nothing stands before the cursor, and behind the line it is the last
byte that decides.
-/

namespace LineLexer

section Cursors

variable {length offset byte : Nat} {line : LexedLine} {tokens : List Token}
  {index : ClassIndex}

/-- The class over a byte is that of the token that holds it. -/
theorem Fills.classOver?_eq_some_iff (fills : Fills 0 length tokens) :
    classOver? tokens byte = some index ↔
      ∃ token ∈ tokens, token.covers byte = true ∧ token.classIndex = index := by
  rw [classOver?, Option.map_eq_some_iff]
  constructor
  · rintro ⟨token, isFound, rfl⟩
    exact ⟨token, List.mem_of_find?_eq_some
      isFound, by simpa using List.find?_some isFound, rfl⟩
  · rintro ⟨token, member, covers, rfl⟩
    have isOnly := fills.filter_covers_eq member covers
    exact ⟨token, by rw [← List.head?_filter, isOnly, List.head?_cons], rfl⟩

/-- Before a cursor the class is that of the byte on its left or, behind the line, that of
the last byte. -/
theorem Fills.classBefore?_eq_some_iff (fills : Fills 0 length line.tokens) :
    line.classBefore? offset = some index ↔
      0 < offset ∧ ∃ token ∈ line.tokens, token.covers (min offset length - 1) = true ∧
      token.classIndex = index := by
  cases offset with
  | zero => simp [LexedLine.classBefore?]
  | succ offset =>
      have byte_eq : min (offset + 1) length - 1 = min offset (length - 1) := by omega
      rw [LexedLine.classBefore?, fills.classAt?_eq,
        fills.classOver?_eq_some_iff, byte_eq]
      exact (and_iff_right (Nat.succ_pos offset)).symm

end Cursors

namespace PowerQuery

open Grammar

/-- The texts that are closed automatically, with what closes them. -/
def closingTexts : List (String × String) :=
  [("\"", "\""), ("[", "]"), ("(", ")"), ("\x7b", "\x7d")]

/-- The base names of the classes inside of which nothing is closed. -/
def closedClasses : List String :=
  ["string", "string.escape", "comment", "identifier.quote"]

/-- The byte before the cursor, or the last byte if the cursor is behind the line, lies in
a token of a class inside of which nothing is closed. -/
def IsInside (line : String) (tokens : List Token) (offset : Nat) : Prop :=
  0 < offset ∧ line ≠ "" ∧ ∃ token ∈ tokens,
    token.covers (min offset line.utf8ByteSize - 1) = true ∧
    language.baseName token.classIndex ∈ closedClasses

/-! ### The configuration -/

/-- Of the classes of the language those and their subclasses are exactly the ones
listed. -/
theorem any_isSubclass_iff :
    ∀ base ∈ "" :: grammar.classTable.fullNames.keys,
      unclosedClasses.any (isSubclass base) = true ↔ base ∈ closedClasses := by
  decide +kernel

theorem baseName_mem (index : ClassIndex) :
    language.baseName index ∈ "" :: grammar.classTable.fullNames.keys := by
  have base_eq : language.baseName index =
      (grammar.classTable.fullNames.keys[index]?).getD "" := by
    rw [Language.baseName, isCompiled.classes_eq, ClassNames.baseName?,
      OrderedMap.getElem?_keys]
  rw [base_eq]
  cases isBase : grammar.classTable.fullNames.keys[index]? with
  | none => exact List.mem_cons_self
  | some base => exact List.mem_cons_of_mem _ (List.mem_of_getElem? isBase)

theorem closingPairs_eq :
    configuration.closingPairs = closingTexts.map fun texts =>
      ⟨texts.1, texts.2, unclosedClasses⟩ :=
  rfl

section Closing

variable {opening closing : String} {className : Option String}

theorem closingFor?_eq (opening : String) (className : Option String) :
    configuration.closingFor? opening className =
      (closingTexts.find? (·.1 == opening)).bind fun texts =>
        if className.any fun name => unclosedClasses.any (isSubclass name) then none
        else some texts.2 := by
  have pair_eq : configuration.closingPairs.find? (·.opening == opening) =
      (closingTexts.find? (·.1 == opening)).map fun texts =>
        ⟨texts.1, texts.2, unclosedClasses⟩ := by
    rw [closingPairs_eq, List.find?_map]
    rfl
  rw [EditorConfiguration.closingFor?, pair_eq]
  cases closingTexts.find? (·.1 == opening) with
  | none => rfl
  | some texts => cases className <;> rfl

/-- Nothing is added for a text that is not closed, or where the class forbids it. -/
theorem closingFor?_eq_none_iff :
    configuration.closingFor? opening className = none ↔
      opening ∉ closingTexts.map Prod.fst ∨
        ∃ name, className = some name ∧ unclosedClasses.any (isSubclass name) = true := by
  rw [closingFor?_eq, ← Option.any_eq_true]
  cases isPair : closingTexts.find? (·.1 == opening) with
  | none =>
      have notListed : opening ∉ closingTexts.map Prod.fst := by
        rw [List.mem_map]
        rintro ⟨texts, member, rfl⟩
        simpa using List.find?_eq_none.mp isPair texts member
      simp [notListed]
  | some texts =>
      have isOpening : texts.1 = opening := by simpa using List.find?_some isPair
      have isListed : opening ∈ closingTexts.map Prod.fst :=
        List.mem_map.mpr ⟨texts, List.mem_of_find?_eq_some isPair, isOpening⟩
      simp [isListed]

/-- What is added is the text that closes the typed one. -/
theorem mem_of_closingFor?_eq_some
    (added : configuration.closingFor? opening className = some closing) :
    (opening, closing) ∈ closingTexts := by
  rw [closingFor?_eq, Option.bind_eq_some_iff] at added
  obtain ⟨texts, isPair, added⟩ := added
  obtain rfl : texts.1 = opening := by simpa using List.find?_some isPair
  split at added
  · cases added
  · obtain rfl := Option.some.inj added
    exact List.mem_of_find?_eq_some isPair

/-- The class before a cursor forbids closing exactly if the cursor is inside of a token
of such a class. -/
theorem isInside_iff {line : String} {lexed : LexedLine} {offset : Nat}
    (fills : Fills 0 line.utf8ByteSize lexed.tokens) :
    (∃ name, (lexed.classBefore? offset).map language.baseName = some name ∧
        unclosedClasses.any (isSubclass name) = true) ↔
      IsInside line lexed.tokens offset := by
  constructor
  · rintro ⟨_, isName, forbids⟩
    obtain ⟨index, isIndex, rfl⟩ := Option.map_eq_some_iff.mp isName
    obtain ⟨positive, token, member, covers, rfl⟩ :=
      fills.classBefore?_eq_some_iff.mp isIndex
    refine ⟨positive, ?_, token, member, covers,
      (any_isSubclass_iff _ (baseName_mem _)).mp forbids⟩
    rintro rfl
    have bounds := fills.bounds_of_mem member
    have inside := Token.covers_iff.mp covers
    simp only [String.utf8ByteSize_empty] at bounds
    omega
  · rintro ⟨positive, -, token, member, covers, isClosed⟩
    have isIndex := fills.classBefore?_eq_some_iff.mpr
      ⟨positive, token, member, covers, rfl⟩
    exact ⟨_, Option.map_eq_some_iff.mpr ⟨_, isIndex, rfl⟩,
      (any_isSubclass_iff _ (baseName_mem _)).mpr isClosed⟩

end Closing

theorem closingFor?_powerQuery (opening : String) (lexed : LexedLine) (offset : Nat) :
    BuiltIn.powerQuery.closingFor? opening lexed offset =
      configuration.closingFor? opening
        ((lexed.classBefore? offset).map language.baseName) := by
  rw [BuiltIn.closingFor?, BuiltIn.powerQuery]

/-- In a line of a document nothing is added for a text that is not closed automatically,
nor where the byte before the cursor lies in a string, a comment or a quoted identifier.
Otherwise it is the text that closes the typed one.  Merging the tokens of the line
changes nothing about this. -/
theorem closingFor?_of_mem_runDocument (text : String) :
    ∀ run ∈ language.runDocument text, ∀ opening offset,
      (BuiltIn.powerQuery.closingFor? opening run.lexed offset = none ↔
        opening ∉ closingTexts.map Prod.fst ∨ IsInside run.line run.lexed.tokens offset) ∧
      (∀ closing, BuiltIn.powerQuery.closingFor? opening run.lexed offset = some closing →
        (opening, closing) ∈ closingTexts) ∧
      BuiltIn.powerQuery.closingFor? opening run.lexed.merged offset =
        BuiltIn.powerQuery.closingFor? opening run.lexed offset := by
  intro run member opening offset
  obtain ⟨-, isRun, -⟩ := language.isNested_initialStack.exists_of_mem_runLines member
  have fills : Fills 0 run.line.utf8ByteSize run.lexed.tokens := by
    rw [isRun]
    exact fills_lexLine language run.startStack run.line
  simp only [closingFor?_powerQuery]
  refine ⟨?_, fun closing => mem_of_closingFor?_eq_some, ?_⟩
  · rw [closingFor?_eq_none_iff, isInside_iff fills]
  · rw [(LexedLine.isMergedForm_merged fills).classBefore?_eq]

/-- Before a string that does not end a bracket is closed, and far behind it the bracket
is still inside. -/
theorem closingFor?_of_mem_runDocument_string :
    let run := language.runLine language.initialStack "\""
    run ∈ language.runDocument "\"" ∧
      BuiltIn.powerQuery.closingFor? "(" run.lexed 0 = some ")" ∧
      BuiltIn.powerQuery.closingFor? "(" run.lexed 100 = none ∧
      IsInside run.line run.lexed.tokens 100 := by
  intro run
  have isRun : run ∈ language.runDocument "\"" :=
    language.runLine_mem_runDocument ⟨by decide, by decide⟩
  have evaluated : BuiltIn.powerQuery.closingFor? "(" run.lexed 0 = some ")" ∧
      BuiltIn.powerQuery.closingFor? "(" run.lexed 100 = none := by
    decide +kernel
  obtain ⟨isNone_iff, -, -⟩ := closingFor?_of_mem_runDocument _ run isRun "(" 100
  have isListed : "(" ∈ closingTexts.map Prod.fst := by decide
  exact ⟨isRun, evaluated.1, evaluated.2,
    (isNone_iff.mp evaluated.2).resolve_left (not_not_intro isListed)⟩

end PowerQuery

end LineLexer
