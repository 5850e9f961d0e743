import LineLexer.Proofs.PowerQuery.Patterns
import LineLexer.Proofs.Scan.LineEnds
import LineLexer.Proofs.Scan.Merging

/-!
# Brackets of Power Query

An editor that matches brackets relies on the sides of tokens.  Every bracket outside of
strings and comments is a token of its own with the class of its pair and its side, and
nothing else has a side.  Merging tokens changes nothing about this.
-/

namespace LineLexer.PowerQuery

open Pattern Grammar

/-- The class and the side of a bracket. -/
def bracketKind? : Char → Option (String × Side)
  | '(' => some ("delimiter.parenthesis", .opening)
  | ')' => some ("delimiter.parenthesis", .closing)
  | '[' => some ("delimiter.square", .opening)
  | ']' => some ("delimiter.square", .closing)
  | '\x7b' => some ("delimiter.brackets", .opening)
  | '\x7d' => some ("delimiter.brackets", .closing)
  | _ => none

/-- A token is just the bracket `char` at a byte offset, with its class and its side. -/
def IsBracket (char : Char) (offset : Nat) (token : Token) : Prop :=
  ∃ className side, bracketKind? char = some (className, side) ∧ token.start = offset ∧
    token.stop = offset + char.utf8Size ∧ language.baseName token.classIndex = className ∧
    token.side = some side

def IsText (token : Token) : Prop :=
  language.baseName token.classIndex ∈ ["string", "comment"] ∧ token.side = none

/-- The tokens of a line show its brackets: each one belongs to a single token, which is
the bracket or a part of a string or a comment, and all tokens with a side are
brackets. -/
structure ShowsBrackets (line : String) (tokens : List Token) : Prop where
  covered : ∀ front char back, line.toList = front ++ char :: back →
    (bracketKind? char).isSome →
    ∃ token, tokens.filter (·.covers (Text.byteLength front)) = [token] ∧
      (IsBracket char (Text.byteLength front) token ∨ IsText token)
  only : ∀ token ∈ tokens, token.side.isSome → ∃ front char back,
    line.toList = front ++ char :: back ∧ IsBracket char (Text.byteLength front) token

/-! ### Brackets in a step -/

/-- A token of some characters shows the brackets among them. -/
inductive Shows (chars : List Char) (token : Token) : Prop where
  | bracket {char : Char} {className : String} {side : Side} (isOne : chars = [char])
      (isKind : bracketKind? char = some (className, side))
      (class_eq : language.baseName token.classIndex = className)
      (side_eq : token.side = some side)
  | text (isText : IsText token)
  | other (noBracket : ∀ char ∈ chars, bracketKind? char = none)
      (noSide : token.side = none)

def bracketChars : List Char :=
  ['(', ')', '[', ']', '\x7b', '\x7d']

theorem mem_bracketChars {char : Char} (isBracket : bracketKind? char ≠ none) :
    char ∈ bracketChars := by
  unfold bracketKind? at isBracket
  split at isBracket <;> simp_all [bracketChars]

/-- The rules are of three kinds: for brackets, for parts of strings and comments, and for
texts without brackets. -/
theorem rule_cases :
    ∀ rules ∈ [rootPatterns, commentPatterns, stringPatterns], ∀ rule ∈ rules,
      rule = (one bracketSet, .ofBrackets) ∨ rule.2.emission = .token "string" ∨
        rule.2.emission = .token "comment" ∨
        rule.2.emission ≠ .brackets ∧ bracketChars.any rule.1.admits = false := by
  decide +kernel

/-- In every state some rule matches brackets. -/
theorem exists_rule_of_bracket :
    ∀ rules ∈ [rootPatterns, commentPatterns, stringPatterns], ∃ rule ∈ rules,
      rule.1 = one bracketSet ∨ rule.1 = one dot := by
  decide +kernel

theorem emitted_brackets {char : Char} (isBracket : char ∈ bracketChars) :
    (bracketKind? char).map (fun kind => (kind.1, some kind.2)) =
        some (grammar.emitted .brackets (String.ofList [char])) ∧
      (grammar.emitted .brackets (String.ofList [char])).1 ∈ grammar.classBases := by
  simp only [bracketChars, List.mem_cons, List.not_mem_nil, or_false] at isBracket
  rcases isBracket with rfl | rfl | rfl | rfl | rfl | rfl <;> decide +kernel

/-- Both patterns that match brackets match every one. -/
theorem mem_of_bracket {char : Char} (isBracket : char ∈ bracketChars) :
    bracketSet.mem char = true ∧ dot.mem char = true := by
  simp only [bracketChars, List.mem_cons, List.not_mem_nil, or_false] at isBracket
  rcases isBracket with rfl | rfl | rfl | rfl | rfl | rfl <;> decide

theorem side_emitted {emission : Emission} {text : String}
    (notBrackets : emission ≠ .brackets) : (grammar.emitted emission text).2 = none := by
  cases emission with
  | token className => rfl
  | brackets => exact absurd rfl notBrackets
  | cases arms => rfl

section Steps

variable {scanner : Scanner} {step : Step} {rules : List (Pattern × Action)}

/-- What the match of a rule is emitted as shows the brackets of the match. -/
theorem shows_of_takes {rule : Pattern × Action} {taken rest : List Char} {token : Token}
    (areRules : rules ∈ [rootPatterns, commentPatterns, stringPatterns])
    (member : rule ∈ rules) (isTaken : rule.1.Takes none taken rest)
    (class_eq : token.classIndex =
      language.classIndexOf (grammar.emitted rule.2.emission (String.ofList taken)).1)
    (side_eq : token.side = (grammar.emitted rule.2.emission (String.ofList taken)).2) :
    Shows taken token := by
  obtain ⟨isComment, isString, -⟩ := mem_classBases
  rcases rule_cases rules areRules rule
    member with rfl | isText | isText | ⟨notBrackets, avoids⟩
  · obtain ⟨char, rfl, isMember⟩ := isTaken
    have isEmission : (one bracketSet, Action.ofBrackets).2.emission = .brackets := rfl
    rw [isEmission] at class_eq side_eq
    have inSet : char ∈ bracketChars := by
      simpa [bracketSet, mem_ofRanges, bracketChars, or_comm, or_assoc,
        or_left_comm] using isMember
    obtain ⟨isEmitted, isClass⟩ := emitted_brackets inSet
    obtain ⟨⟨className, side⟩, isKind, kind_eq⟩ := Option.map_eq_some_iff.mp isEmitted
    refine .bracket rfl isKind ?_ ?_
    · rw [class_eq, baseName_classIndexOf isClass, ← kind_eq]
    · rw [side_eq, ← kind_eq]
  · rw [isText] at class_eq side_eq
    exact .text ⟨by simp [class_eq, emitted, baseName_classIndexOf isString], side_eq⟩
  · rw [isText] at class_eq side_eq
    exact .text ⟨by simp [class_eq, emitted, baseName_classIndexOf isComment], side_eq⟩
  · refine .other (fun char inTaken => ?_) (side_eq.trans (side_emitted notBrackets))
    by_contra isBracket
    have isAvoided := List.any_eq_false.mp avoids char (mem_bracketChars isBracket)
    exact isTaken.notMem (Bool.eq_false_iff.mpr isAvoided) inTaken

/-- The token of a step shows the brackets among its characters. -/
theorem shows_step (areRules : rules ∈ [rootPatterns, commentPatterns, stringPatterns])
    (tries : grammar.Tries scanner.stack.top rules)
    (isStep : scanner.step? language = some step) :
    ∃ taken rest, scanner.rest = taken ++ rest ∧ step.token.start = scanner.offset ∧
      step.token.stop = scanner.offset + Text.byteLength taken ∧
      Shows taken step.token := by
  rcases tries.step_cases isCompiled isStep with
    ⟨rule, member, taken, rest, rest_eq, matched, -, token_eq⟩ | ⟨char, rest, rest_eq,
      noMatch, -, -, token_eq⟩
  · obtain ⟨other, behind, same, length_eq, isTaken⟩ :=
      exists_takes_of_matchLength? (patterns_consume rules areRules rule member).1 matched
    obtain ⟨rfl, rfl⟩ := List.append_inj (rest_eq.symm.trans same) length_eq.symm
    refine ⟨taken, rest, rest_eq, by rw [token_eq], by rw [token_eq], ?_⟩
    exact shows_of_takes areRules member isTaken (by rw [token_eq]) (by rw [token_eq])
  · refine ⟨[char], rest, rest_eq, by rw [token_eq], by rw [token_eq]; rfl,
      .other ?_ (by rw [token_eq])⟩
    obtain ⟨rule, member, isRule⟩ := exists_rule_of_bracket rules areRules
    have notMatched := noMatch rule member
    intro other isOther
    obtain rfl := List.mem_singleton.mp isOther
    by_contra isBracket
    obtain ⟨inSet, inDot⟩ := mem_of_bracket (mem_bracketChars isBracket)
    rcases isRule with isRule | isRule
    · simp [isRule, rest_eq, matchLength?_one, inSet] at notMatched
    · simp [isRule, rest_eq, matchLength?_one, inDot] at notMatched

end Steps

/-! ### Brackets in a line -/

/-- A character whose byte lies in a piece of a text belongs to the piece. -/
theorem exists_split_of_inside {front back before piece after : List Char} {char : Char}
    (same : front ++ char :: back = before ++ (piece ++ after))
    (starts : Text.byteLength before ≤ Text.byteLength front)
    (ends : Text.byteLength front < Text.byteLength before + Text.byteLength piece) :
    ∃ inner others, front = before ++ inner ∧ piece = inner ++ char :: others := by
  obtain ⟨inner, rfl⟩ : ∃ inner, front = before ++ inner := by
    rcases List.append_eq_append_iff.mp same with ⟨more, rfl, -⟩ | ⟨more, rfl, -⟩
    · have isEmpty : more = [] := by
        by_contra nonempty
        have := Text.byteLength_pos nonempty
        rw [Text.byteLength_append] at starts
        omega
      exact ⟨[], by simp [isEmpty]⟩
    · exact ⟨more, rfl⟩
  rw [List.append_assoc, List.append_cancel_left_eq] at same
  rw [Text.byteLength_append] at ends
  rcases List.append_eq_append_iff.mp same with ⟨more, rfl, parts⟩ | ⟨more, rfl, -⟩
  · cases more with
    | nil =>
        rw [List.append_nil] at ends
        omega
    | cons next more =>
        obtain ⟨rfl, -⟩ := List.cons.inj parts
        exact ⟨inner, more, rfl, rfl⟩
  · rw [Text.byteLength_append] at ends
    omega

section Lines

variable {bound : Nat} {stack : ActiveStates} {line : String} {token : Token}

/-- Each token of a line shows the brackets among its characters. -/
theorem shows_of_mem (nested : language.IsNested bound stack)
    (member : token ∈ (language.lexLine stack line).tokens) :
    ∃ front taken back, line.toList = front ++ (taken ++ back) ∧
      token.start = Text.byteLength front ∧
      token.stop = Text.byteLength front + Text.byteLength taken ∧ Shows taken token := by
  rw [Language.tokens_lexLine] at member
  obtain ⟨step, isStep, rfl⟩ := List.mem_map.mp member
  obtain ⟨count, isStep⟩ := Scanner.exists_afterCalls_of_mem_steps isStep
  obtain ⟨front, line_eq, offset_eq⟩ : Scanner.LiesIn line _ :=
    (Scanner.start_liesIn line stack).afterCalls
  have nestedPlace :=
    @Language.IsNested.afterCalls language bound (.start line stack) nested count
  obtain ⟨rules, areRules, tries⟩ := exists_tries_of_isNested nestedPlace
  obtain ⟨taken, rest, rest_eq, start_eq, stop_eq, shows⟩ :=
    shows_step areRules tries isStep
  exact ⟨front, taken, rest, by rw [line_eq, rest_eq],
    start_eq.trans offset_eq, by rw [stop_eq, offset_eq], shows⟩

/-- At every moment of the scan of a document all brackets of a line are shown. -/
theorem showsBrackets_lexLine (nested : language.IsNested bound stack) (line : String) :
    ShowsBrackets line (language.lexLine stack line).tokens where
  covered front char back line_eq isBracket := by
    have fills := fills_lexLine language stack line
    have inside : Text.byteLength front < line.utf8ByteSize := by
      rw [← Text.byteLength_toList, line_eq, Text.byteLength_append]
      exact Nat.lt_add_of_pos_right (Text.byteLength_pos (List.cons_ne_nil char back))
    obtain ⟨token, member, covers, isOnly⟩ :=
      fills.exists_filter_covers_eq (Nat.zero_le _) inside
    refine ⟨token, isOnly, ?_⟩
    obtain ⟨before, taken, after, parts, start_eq, stop_eq, shows⟩ :=
      shows_of_mem nested member
    obtain ⟨starts, ends⟩ := Token.covers_iff.mp covers
    obtain ⟨inner, others, front_eq, taken_eq⟩ :=
      exists_split_of_inside (line_eq.symm.trans parts)
        (start_eq ▸ starts) (stop_eq ▸ ends)
    cases shows with
    | text isText => exact .inr isText
    | other noBracket =>
        rw [noBracket char (taken_eq ▸ List.mem_append_right inner List.mem_cons_self)]
          at isBracket
        cases isBracket
    | @bracket other className side isOne isKind class_eq side_eq =>
        obtain ⟨rfl, isLast⟩ : inner = [] ∧ char :: others = [other] := by
          simpa using List.append_eq_singleton_iff.mp (taken_eq.symm.trans isOne)
        obtain rfl := (List.cons.inj isLast).1
        rw [List.append_nil] at front_eq
        subst front_eq isOne
        exact .inl ⟨className, side, isKind, start_eq, by rw [stop_eq]; rfl,
          class_eq, side_eq⟩
  only token member isBracket := by
    obtain ⟨front, taken, back, line_eq, start_eq, stop_eq, shows⟩ :=
      shows_of_mem nested member
    cases shows with
    | text isText =>
        rw [isText.2] at isBracket
        cases isBracket
    | other _ noSide =>
        rw [noSide] at isBracket
        cases isBracket
    | @bracket char className side isOne isKind class_eq side_eq =>
        subst isOne
        refine ⟨front, char, back, line_eq, className, side, isKind, start_eq, ?_,
          class_eq, side_eq⟩
        rw [stop_eq]
        rfl

/-- Merging tokens changes nothing about which brackets are shown. -/
theorem ShowsBrackets.merged {length : Nat} {lexed merged : LexedLine}
    (shows : ShowsBrackets line lexed.tokens) (fills : Fills 0 length lexed.tokens)
    (isMergedForm : lexed.IsMergedForm length merged) :
    ShowsBrackets line merged.tokens where
  covered front char back line_eq isBracket := by
    obtain ⟨token, areCovering, isShown⟩ :=
      shows.covered front char back line_eq isBracket
    obtain ⟨member, covers⟩ :=
      List.mem_filter.mp (areCovering ▸ List.mem_singleton_self token)
    have inside : Text.byteLength front < length := by
      have := (fills.bounds_of_mem member).2
      have := Token.covers_iff.mp covers
      omega
    obtain ⟨other, isOther, coversToo, isOnly⟩ :=
      isMergedForm.fills.exists_filter_covers_eq (Nat.zero_le _) inside
    refine ⟨other, isOnly, ?_⟩
    rcases isShown with ⟨className, side, isKind, start_eq, stop_eq, class_eq,
      side_eq⟩ | ⟨isText, noSide⟩
    · have isSide : token.side.isSome := Option.isSome_of_eq_some side_eq
      have isCovering : token ∈ merged.tokens.filter (·.covers (Text.byteLength front)) :=
        List.mem_filter.mpr ⟨(isMergedForm.mem_iff isSide).mpr member, covers⟩
      obtain rfl : token = other := List.mem_singleton.mp (isOnly ▸ isCovering)
      exact .inl ⟨className, side, isKind, start_eq, stop_eq, class_eq, side_eq⟩
    · have class_eq : other.classIndex = token.classIndex := by
        have sameClass :=
          (forall_classAt?_eq_iff isMergedForm.fills fills).mp isMergedForm.classAt?_eq
            (Text.byteLength front)
        rw [classOver?, classOver?, ← List.head?_filter, ← List.head?_filter, isOnly,
          areCovering] at sameClass
        exact Option.some.inj sameClass
      refine .inr ⟨class_eq ▸ isText, Option.not_isSome_iff_eq_none.mp fun isSide => ?_⟩
      have isCovering : other ∈ lexed.tokens.filter (·.covers (Text.byteLength front)) :=
        List.mem_filter.mpr ⟨(isMergedForm.mem_iff isSide).mp isOther, coversToo⟩
      obtain rfl : other = token := List.mem_singleton.mp (areCovering ▸ isCovering)
      rw [noSide] at isSide
      cases isSide
  only token member isSide :=
    shows.only token ((isMergedForm.mem_iff isSide).mp member) isSide

end Lines

/-- In every document the brackets outside of strings and comments, and nothing else, have
a side, with and without merging. -/
theorem showsBrackets_of_mem_runDocument (text : String) :
    ∀ run ∈ language.runDocument text,
      ShowsBrackets run.line run.lexed.tokens ∧
      ShowsBrackets run.line run.lexed.merged.tokens := by
  intro run member
  obtain ⟨-, isRun, bound, nested⟩ :=
    language.isNested_initialStack.exists_of_mem_runLines member
  have shows : ShowsBrackets run.line run.lexed.tokens := by
    rw [isRun]
    exact showsBrackets_lexLine nested run.line
  have fills : Fills 0 run.line.utf8ByteSize run.lexed.tokens := by
    rw [isRun]
    exact fills_lexLine language run.startStack run.line
  exact ⟨shows, shows.merged fills (LexedLine.isMergedForm_merged fills)⟩

/-- A bracket inside of a string has no side, and those around the string have one. -/
theorem showsBrackets_aroundString :
    let run := language.runLine language.initialStack "(\"[\")"
    run ∈ language.runDocument "(\"[\")" ∧
      run.lexed.merged.tokens.map Token.side = [some .opening, none, some .closing] ∧
        ShowsBrackets run.line run.lexed.tokens ∧
        ShowsBrackets run.line run.lexed.merged.tokens := by
  intro run
  have isRun : run ∈ language.runDocument "(\"[\")" :=
    language.runLine_mem_runDocument ⟨by decide, by decide⟩
  exact ⟨isRun, by decide +kernel, showsBrackets_of_mem_runDocument _ run isRun⟩

end LineLexer.PowerQuery
