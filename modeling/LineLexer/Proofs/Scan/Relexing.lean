import LineLexer.Catalog.PowerQuery
import LineLexer.Proofs.Scan.Lines

/-!
# Relexing after an edit

Whoever keeps the lexed lines of a document need not scan all of it again after an edit.
The lines before the edit are kept, the inserted lines are scanned, and so are the lines
after them, up to the first place at which the stack is the one that was stored there.
From this place on nothing can have changed, since the stack is all that a line hands on.
-/

namespace LineLexer

/-- The lexed lines of a document after an edit, and how many of the lines after the edit
have been scanned again. -/
structure Relexed where
  lines : List LexedLine
  rescanned : Nat

namespace Language

/-- Scans lines again, each with its stored form, until the stack is the one that was
stored; what is left then is kept as it is stored. -/
def catchUp (language : Language) :
    (stack storedStack : ActiveStates) → List (String × LexedLine) → Relexed
  | _, _, [] => ⟨[], 0⟩
  | stack, storedStack, (line, stored) :: others =>
      if stack = storedStack then ⟨stored :: others.map Prod.snd, 0⟩
      else
        let lexed := language.lexLine stack line
        let rest := language.catchUp lexed.endStack stored.endStack others
        ⟨lexed :: rest.lines, rest.rescanned + 1⟩

/-- The lexed lines of a document in which `removed` lines, after the first `kept` ones,
have been replaced by the lines `inserted`.  The lines `following` come after the edit,
and `stored` are the lexed lines of the document before it. -/
def relex (language : Language) (stored : List LexedLine) (kept removed : Nat)
    (inserted following : List String) : Relexed :=
  let before := stored.take kept
  let stack := stackAfterLines language.initialStack before
  let storedStack := stackAfterLines language.initialStack (stored.take (kept + removed))
  let middle := language.lexLines stack inserted
  let rest :=
    language.catchUp (stackAfterLines stack middle) storedStack
      (following.zip (stored.drop (kept + removed)))
  ⟨before ++ middle ++ rest.lines, rest.rescanned⟩

/-- Catching up gives what scanning all lines would give. -/
theorem lines_catchUp (language : Language) (stack storedStack : ActiveStates)
    (lines : List String) :
    (language.catchUp stack storedStack
        (lines.zip (language.lexLines storedStack lines))).lines =
      language.lexLines stack lines := by
  induction lines generalizing stack storedStack with
  | nil => rfl
  | cons line lines ih =>
      rw [lexLines_cons, List.zip_cons_cons, catchUp]
      split
      · rename_i meet
        -- What is kept has been scanned from the same stack.
        subst meet
        rw [List.map_snd_zip (Nat.le_of_eq length_lexLines), lexLines_cons]
      · exact congrArg (_ :: ·) (ih _ _)

/-- Catching up stops at the first place at which the two stacks are the same. -/
theorem rescanned_catchUp (language : Language) (stack storedStack : ActiveStates)
    (lines : List String) :
    let count := (language.catchUp stack storedStack
      (lines.zip (language.lexLines storedStack lines))).rescanned
    let stackAt (start : ActiveStates) (place : Nat) :=
      stackAfterLines start ((language.lexLines start lines).take place)
    count ≤ lines.length ∧
      (∀ place < count, stackAt stack place ≠ stackAt storedStack place) ∧
        (count < lines.length → stackAt stack count = stackAt storedStack count) := by
  induction lines generalizing stack storedStack with
  | nil => simp [catchUp]
  | cons line lines ih =>
      rw [lexLines_cons, List.zip_cons_cons, catchUp]
      split
      · rename_i meet
        exact ⟨Nat.zero_le _, by simp, fun _ => meet⟩
      · rename_i differ
        obtain ⟨count_le, apart, together⟩ :=
          ih (language.lexLine stack line).endStack
            (language.lexLine storedStack line).endStack
        refine ⟨Nat.succ_le_succ count_le, fun place inside => ?_, fun inside => ?_⟩
        · cases place with
          | zero => exact differ
          | succ place => simpa using apart place (Nat.lt_of_succ_lt_succ inside)
        · simpa using together (Nat.lt_of_succ_lt_succ inside)

section Parts

variable {language : Language} {text : String} {before middle following : List String}

/-- The stack that a document with the first lines `before` and `middle` hands on to the
line after them. -/
def stackAfterParts (language : Language) (before middle : List String) : ActiveStates :=
  stackAfterLines language.initialStack
    (language.lexLines language.initialStack (before ++ middle))

theorem lexDocument_eq_append
    (isText : Text.documentLines text = before ++ middle ++ following) :
    language.lexDocument text =
      language.lexLines language.initialStack (before ++ middle) ++
        language.lexLines (language.stackAfterParts before middle) following := by
  rw [lexDocument_eq_lexLines, isText, lexLines_append]
  rfl

theorem take_lexDocument
    (isText : Text.documentLines text = before ++ middle ++ following) :
    (language.lexDocument text).take (before.length + middle.length) =
      language.lexLines language.initialStack (before ++ middle) := by
  rw [lexDocument_eq_append isText]
  exact List.take_left' (by rw [length_lexLines, List.length_append])

theorem drop_lexDocument
    (isText : Text.documentLines text = before ++ middle ++ following) :
    (language.lexDocument text).drop (before.length + middle.length) =
      language.lexLines (language.stackAfterParts before middle) following := by
  rw [lexDocument_eq_append isText]
  exact List.drop_left' (by rw [length_lexLines, List.length_append])

theorem stackAfterLines_take_lexDocument
    (isText : Text.documentLines text = before ++ middle ++ following) (place : Nat) :
    stackAfterLines language.initialStack
        ((language.lexDocument text).take (before.length + middle.length + place)) =
      stackAfterLines (language.stackAfterParts before middle)
        ((language.lexLines (language.stackAfterParts before middle) following).take
          place) := by
  rw [List.take_add, take_lexDocument isText, drop_lexDocument isText,
    stackAfterLines_append]
  rfl

end Parts

/-- After an edit, relexing gives what lexing the new document gives.  Of the lines after
the edit it scans those up to the first place at which the stack is the one that was
stored there, and no others. -/
theorem relex_eq_lexDocument (language : Language) {oldText newText : String}
    {before removed inserted following : List String}
    (isOld : Text.documentLines oldText = before ++ removed ++ following)
    (isNew : Text.documentLines newText = before ++ inserted ++ following) :
    let relexed :=
      language.relex (language.lexDocument oldText) before.length removed.length
        inserted following
    let oldStack (place : Nat) := stackAfterLines language.initialStack
      ((language.lexDocument oldText).take (before.length + removed.length + place))
    let newStack (place : Nat) := stackAfterLines language.initialStack
      ((language.lexDocument newText).take (before.length + inserted.length + place))
    relexed.lines = language.lexDocument newText ∧ relexed.rescanned ≤ following.length ∧
      (∀ place < relexed.rescanned, newStack place ≠ oldStack place) ∧
        (relexed.rescanned < following.length →
          newStack relexed.rescanned = oldStack relexed.rescanned) := by
  intro relexed oldStack newStack
  have kept : (language.lexDocument oldText).take before.length =
      language.lexLines language.initialStack before := by
    rw [lexDocument_eq_lexLines, isOld, List.append_assoc, take_lexLines_append]
  have edited : language.lexLines language.initialStack before ++
        language.lexLines (stackAfterLines language.initialStack
          (language.lexLines language.initialStack before)) inserted =
      language.lexLines language.initialStack (before ++ inserted) :=
    lexLines_append.symm
  let stored :=
    following.zip (language.lexLines (language.stackAfterParts before removed) following)
  let rest := language.catchUp (language.stackAfterParts before inserted)
    (language.stackAfterParts before removed) stored
  have relexed_eq : relexed =
      ⟨language.lexLines language.initialStack (before ++ inserted) ++ rest.lines,
        rest.rescanned⟩ := by
    simp only [relexed, relex, kept, edited, take_lexDocument isOld,
      drop_lexDocument isOld, ← stackAfterLines_append]
    rfl
  have rescanned := rescanned_catchUp language (language.stackAfterParts before inserted)
    (language.stackAfterParts before removed) following
  simp only [oldStack, newStack, stackAfterLines_take_lexDocument isOld,
    stackAfterLines_take_lexDocument isNew, relexed_eq]
  refine ⟨?_, rescanned⟩
  rw [lexDocument_eq_append isNew]
  exact congrArg _ (lines_catchUp language _ _ following)

/-- When the start of a Power Query comment is replaced by other text, the line that ended
the comment is scanned again, and the lines after it are kept. -/
theorem powerQuery_relex_commentStart :
    let oldText := "a\n/* b\n*/ c\nd"
    let newText := "a\nb\nx\n*/ c\nd"
    let relexed := PowerQuery.language.relex (PowerQuery.language.lexDocument oldText) 1 1
      ["b", "x"] ["*/ c", "d"]
    Text.documentLines oldText = ["a"] ++ ["/* b"] ++ ["*/ c", "d"] ∧
      Text.documentLines newText = ["a"] ++ ["b", "x"] ++ ["*/ c", "d"] ∧
        relexed.lines = PowerQuery.language.lexDocument newText ∧
        relexed.rescanned = 1 := by
  intro oldText newText relexed
  have isOld : Text.documentLines oldText = ["a"] ++ ["/* b"] ++ ["*/ c", "d"] := by
    decide +kernel
  have isNew : Text.documentLines newText = ["a"] ++ ["b", "x"] ++ ["*/ c", "d"] := by
    decide +kernel
  have rescanned : relexed.rescanned = 1 := by decide +kernel
  exact ⟨isOld, isNew, (relex_eq_lexDocument PowerQuery.language isOld isNew).1,
    rescanned⟩

end Language

end LineLexer
