import LineLexer.Proofs.Scan.Steps

/-!
# Cutting a line at a token boundary

A scan sees what follows the cursor and the stack, and nothing else.  So a line can be cut
wherever a token ends: the rest of the line, scanned as a line of its own from the stack
at the cut, gives the remaining tokens, with all offsets counted from the cut.  The place
at the cut is the one that a scan has reached when it has been asked for that many tokens.
-/

namespace LineLexer

/-- The token with both offsets moved on by some bytes. -/
def Token.shift (distance : Nat) (token : Token) : Token :=
  { token with start := distance + token.start, stop := distance + token.stop }

/-- The place with its offset moved on by some bytes. -/
def Scanner.shift (distance : Nat) (scanner : Scanner) : Scanner :=
  { scanner with offset := distance + scanner.offset }

/-- The step with all offsets moved on by some bytes. -/
def Step.shift (distance : Nat) (step : Step) : Step :=
  { step with token := step.token.shift distance, next := step.next.shift distance }

namespace Scanner

theorem advance_shift (distance : Nat) (scanner : Scanner) (count : Nat)
    (stack : ActiveStates) :
    (scanner.shift distance).advance count stack =
      (scanner.advance count stack).shift distance := by
  simp only [advance, shift, Nat.add_assoc]

theorem takeMatch_shift (language : Language) (distance : Nat) (scanner : Scanner)
    (skipped : List Nat) (index : Nat) (rule : Rule) (count : Nat) :
    (scanner.shift distance).takeMatch language skipped index rule count =
      (scanner.takeMatch language skipped index rule count).shift distance := by
  simp only [takeMatch, advance_shift]
  rfl

theorem takeUnmatched_shift (language : Language) (distance : Nat) (scanner : Scanner)
    (skipped : List Nat) :
    (scanner.shift distance).takeUnmatched language skipped =
      (scanner.takeUnmatched language skipped).shift distance := by
  simp only [takeUnmatched, advance_shift]
  rfl

/-- The offset of the cursor has no influence on a step but for the offsets in it. -/
theorem step?_shift (language : Language) (distance : Nat) (scanner : Scanner) :
    (scanner.shift distance).step? language =
      (scanner.step? language).map (Step.shift distance) := by
  have rest_eq : (scanner.shift distance).rest = scanner.rest := rfl
  have stack_eq : (scanner.shift distance).stack = scanner.stack := rfl
  simp only [step?, takeMatch_shift, takeUnmatched_shift, rest_eq, stack_eq]
  split
  · rfl
  · cases (tryRules scanner.rest 0 (language.rules scanner.stack.top)).winner with
    | none => rfl
    | some winner => rfl

theorem steps_shift (language : Language) (distance : Nat) (scanner : Scanner) :
    (scanner.shift distance).steps language =
      (scanner.steps language).map (Step.shift distance) := by
  induction scanner using induction_on_steps language with
  | atEnd scanner noStep =>
      have shifted := step?_shift language distance scanner
      rw [noStep, Option.map_none] at shifted
      rw [steps_of_step?_eq_none noStep, steps_of_step?_eq_none shifted, List.map_nil]
  | atStep scanner step isStep ih =>
      have shifted := step?_shift language distance scanner
      rw [isStep, Option.map_some] at shifted
      rw [steps_of_step?_eq_some isStep, steps_of_step?_eq_some shifted,
        List.map_cons, ← ih]
      rfl

theorem finish_shift (language : Language) (distance : Nat) (scanner : Scanner) :
    (scanner.shift distance).finish language = scanner.finish language := by
  rw [finish, finish, stackAfter, stackAfter, steps_shift, List.getLast?_map]
  cases (scanner.steps language).getLast? <;> rfl

/-- A place of a line: the cursor stands after some of its characters, and the others
follow. -/
def LiesIn (line : String) (scanner : Scanner) : Prop :=
  ∃ front, line.toList = front ++ scanner.rest ∧ scanner.offset = Text.byteLength front

theorem start_liesIn (line : String) (stack : ActiveStates) :
    (start line stack).LiesIn line :=
  ⟨[], rfl, rfl⟩

theorem LiesIn.step {language : Language} {line : String} {scanner : Scanner}
    {step : Step} (liesIn : scanner.LiesIn line)
    (isStep : scanner.step? language = some step) : step.next.LiesIn line := by
  obtain ⟨front, parts, offset_eq⟩ := liesIn
  obtain ⟨count, -, -, advance, -, -⟩ := step_advances isStep
  rw [advance]
  refine ⟨front ++ scanner.rest.take count, ?_, ?_⟩
  · change _ = _ ++ scanner.rest.drop count
    rw [parts, List.append_assoc, List.take_append_drop]
  · rw [Text.byteLength_append, ← offset_eq]
    rfl

/-- The text of a match is what the rule matched. -/
theorem LiesIn.text_takeMatch {line : String} {scanner : Scanner}
    (liesIn : scanner.LiesIn line) (language : Language) (skipped : List Nat)
    (number : Nat) (rule : Rule) (count : Nat) :
    (scanner.takeMatch language skipped number rule count).token.text line =
      String.ofList (scanner.rest.take count) := by
  obtain ⟨front, parts, offset_eq⟩ := liesIn
  rw [← List.take_append_drop count scanner.rest] at parts
  change Text.slice line scanner.offset
    (scanner.offset + Text.byteLength (scanner.rest.take count)) = _
  rw [offset_eq]
  exact Text.slice_eq_of_toList_eq parts

/-- The cursor of a place in a line lies between two characters. -/
theorem LiesIn.isValid {line : String} {scanner : Scanner}
    (liesIn : scanner.LiesIn line) :
    (String.Pos.Raw.mk scanner.offset).IsValid line := by
  obtain ⟨front, parts, offset_eq⟩ := liesIn
  rw [offset_eq]
  exact Text.isValid_of_toList_eq parts

/-- What follows the cursor is the line from its offset on. -/
theorem LiesIn.toList_sliceFrom {line : String} {scanner : Scanner}
    (liesIn : scanner.LiesIn line) :
    (Text.sliceFrom line scanner.offset).toList = scanner.rest := by
  obtain ⟨front, parts, offset_eq⟩ := liesIn
  rw [offset_eq, Text.sliceFrom_eq_of_toList_eq parts, String.toList_ofList]

/-- The end of a line, scanned as a line of its own, is scanned as from its place in the
line. -/
theorem LiesIn.shift_start {line : String} {scanner : Scanner}
    (liesIn : scanner.LiesIn line) :
    (start (Text.sliceFrom line scanner.offset) scanner.stack).shift scanner.offset =
      scanner := by
  rw [start, shift, liesIn.toList_sliceFrom, Nat.add_zero]

theorem next_of_step?_eq_none {language : Language} {scanner : Scanner}
    (noStep : scanner.step? language = none) :
    scanner.next language = (none, scanner) := by
  rw [next, noStep]

theorem next_of_step?_eq_some {language : Language} {scanner : Scanner} {step : Step}
    (isStep : scanner.step? language = some step) :
    scanner.next language = (some step.token, step.next) := by
  rw [next, isStep]

/-- Asking for a token drops the first step of the scan, if there is one. -/
theorem steps_next (language : Language) (scanner : Scanner) :
    (scanner.next language).2.steps language = (scanner.steps language).tail := by
  cases isStep : scanner.step? language with
  | none => rw [next_of_step?_eq_none isStep, steps_of_step?_eq_none isStep,
      List.tail_nil]
  | some step =>
      rw [next_of_step?_eq_some isStep, steps_of_step?_eq_some isStep, List.tail_cons]

theorem token_next (language : Language) (scanner : Scanner) :
    (scanner.next language).1 = ((scanner.steps language).map Step.token).head? := by
  cases isStep : scanner.step? language with
  | none => rw [next_of_step?_eq_none isStep, steps_of_step?_eq_none isStep]; rfl
  | some step => rw [next_of_step?_eq_some isStep, steps_of_step?_eq_some isStep]; rfl

theorem finish_next (language : Language) (scanner : Scanner) :
    (scanner.next language).2.finish language = scanner.finish language := by
  cases isStep : scanner.step? language with
  | none => rw [next_of_step?_eq_none isStep]
  | some step => rw [next_of_step?_eq_some isStep, finish_of_step?_eq_some isStep]

theorem LiesIn.next {language : Language} {line : String} {scanner : Scanner}
    (liesIn : scanner.LiesIn line) : (scanner.next language).2.LiesIn line := by
  cases isStep : scanner.step? language with
  | none => rwa [next_of_step?_eq_none isStep]
  | some step =>
      rw [next_of_step?_eq_some isStep]
      exact liesIn.step isStep

section AfterCalls

variable {language : Language} {scanner : Scanner} {line : String} {count : Nat}

theorem steps_afterCalls :
    (scanner.afterCalls language count).steps language =
      (scanner.steps language).drop count := by
  induction count generalizing scanner with
  | zero => rfl
  | succ count ih => rw [afterCalls, ih, steps_next, List.drop_tail]

theorem finish_afterCalls :
    (scanner.afterCalls language count).finish language = scanner.finish language := by
  induction count generalizing scanner with
  | zero => rfl
  | succ count ih => rw [afterCalls, ih, finish_next]

/-- A scan that has given all its tokens has the stack at the end of the line. -/
theorem stack_afterCalls_length :
    (scanner.afterCalls language (scanner.steps language).length).stack =
      scanner.finish language := by
  rw [← @finish_afterCalls language scanner (scanner.steps language).length, finish,
    steps_afterCalls, List.drop_length, stackAfter_nil]

theorem LiesIn.afterCalls (liesIn : scanner.LiesIn line) :
    (scanner.afterCalls language count).LiesIn line := by
  induction count generalizing scanner with
  | zero => exact liesIn
  | succ count ih => exact ih liesIn.next

/-- Every step is the next one after some calls. -/
theorem exists_afterCalls_of_mem_steps {step : Step}
    (member : step ∈ scanner.steps language) :
    ∃ count, (scanner.afterCalls language count).step? language = some step := by
  induction scanner using induction_on_steps language with
  | atEnd scanner noStep =>
      rw [steps_of_step?_eq_none noStep] at member
      exact absurd member List.not_mem_nil
  | atStep scanner first isStep ih =>
      rw [steps_of_step?_eq_some isStep] at member
      rcases List.mem_cons.mp member with rfl | member
      · exact ⟨0, isStep⟩
      · obtain ⟨count, isLater⟩ := ih member
        refine ⟨count + 1, ?_⟩
        rw [afterCalls, next_of_step?_eq_some isStep, isLater]

/-- Every step of the scan of a line starts at a place in the line. -/
theorem LiesIn.exists_of_mem_steps (liesIn : scanner.LiesIn line) {step : Step}
    (member : step ∈ scanner.steps language) :
    ∃ place : Scanner, place.LiesIn line ∧ place.step? language = some step := by
  obtain ⟨count, isStep⟩ := exists_afterCalls_of_mem_steps member
  exact ⟨_, liesIn.afterCalls, isStep⟩

/-- After some calls the cursor stands where the last of the tokens that they gave
ends. -/
theorem offset_afterCalls :
    (scanner.afterCalls language count).offset =
      ((((scanner.steps language).map Step.token).take count).getLast?.map
        Token.stop).getD scanner.offset := by
  induction count generalizing scanner with
  | zero => rfl
  | succ count ih =>
      rw [afterCalls, ih]
      cases isStep : scanner.step? language with
      | none =>
          rw [next_of_step?_eq_none isStep, steps_of_step?_eq_none isStep, List.map_nil,
            List.take_nil, List.take_nil]
      | some step =>
          obtain ⟨-, -, -, -, -, stop_eq⟩ := step_advances isStep
          rw [next_of_step?_eq_some isStep, steps_of_step?_eq_some isStep, List.map_cons,
            List.take_succ_cons, List.getLast?_cons]
          cases (((step.next.steps language).map Step.token).take count).getLast? with
          | none => simp [stop_eq]
          | some token => rfl

end AfterCalls

end Scanner

/-- A line can be cut after any number of its tokens.  Asking a scan for that many tokens
gives just these tokens, and nothing any more once all have been given; the rest of the
line, scanned from the stack at the cut, gives the remaining tokens with their offsets
counted from the cut; and the stack at the end is the same for the whole line, for its
rest, and for the scan that is finished from the cut. -/
theorem lexLine_resumes (language : Language) (stack : ActiveStates) (line : String)
    (count : Nat) :
    let lexed := language.lexLine stack line
    let place := (Scanner.start line stack).afterCalls language count
    let cut := ((lexed.tokens.take count).getLast?.map Token.stop).getD 0
    let resumed := language.lexLine place.stack (Text.sliceFrom line cut)
    (∀ index, (((Scanner.start line stack).afterCalls language index).next language).1 =
        lexed.tokens[index]?) ∧
      (String.Pos.Raw.mk cut).IsValid line ∧
      lexed.tokens.drop count = resumed.tokens.map (Token.shift cut) ∧
      resumed.endStack = lexed.endStack ∧
      place.finish language = lexed.endStack := by
  intro lexed place cut resumed
  have placeLiesIn : place.LiesIn line := (Scanner.start_liesIn line stack).afterCalls
  have cut_eq : cut = place.offset := Scanner.offset_afterCalls.symm
  have place_eq : (Scanner.start (Text.sliceFrom line cut) place.stack).shift cut =
      place := by
    rw [cut_eq]
    exact placeLiesIn.shift_start
  refine ⟨?_, ?_, ?_, ?_, Scanner.finish_afterCalls⟩
  · intro index
    rw [Scanner.token_next, Scanner.steps_afterCalls, List.map_drop, List.head?_drop]
    rfl
  · rw [cut_eq]
    exact placeLiesIn.isValid
  · calc
      lexed.tokens.drop count =
          ((place.steps language).map Step.token) := by
        rw [Scanner.steps_afterCalls, List.map_drop]
        rfl
      _ = (((Scanner.start (Text.sliceFrom line cut) place.stack).shift cut).steps
        language).map
            Step.token := by
        rw [place_eq]
      _ = resumed.tokens.map (Token.shift cut) := by
        rw [Scanner.steps_shift, Language.tokens_lexLine, List.map_map, List.map_map]
        rfl
  · calc
      resumed.endStack =
          ((Scanner.start (Text.sliceFrom line cut) place.stack).shift cut).finish
            language :=
        (Scanner.finish_shift language cut _).symm
      _ = place.finish language := by rw [place_eq]
      _ = lexed.endStack := Scanner.finish_afterCalls

end LineLexer
