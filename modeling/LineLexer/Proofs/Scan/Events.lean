import LineLexer.Proofs.Scan.Resumption
import LineLexer.Proofs.Scan.Tracing

/-!
# What a tracer is told

The events of a line come in a fixed order: the start of the line, then for each token the
rules that were passed over, the token and the change of the stack, and then the end of
the line.  Nothing is told twice and nothing is left out, so that the tokens and all
stacks of a document can be read off its events.
-/

namespace LineLexer

/-- Each of the first `bound` rules matches none of the text, and `skipped` are the
numbers of those that match the empty text. -/
structure PassesOver (rules : List Rule) (text : List Char) (bound : Nat)
    (skipped : List Nat) : Prop where
  sorted : skipped.Pairwise (· < ·)
  mem_iff : ∀ number, number ∈ skipped ↔
    number < bound ∧
      ∃ rule, rules[number]? = some rule ∧ rule.pattern.matchLength? text = some 0
  matches_none : ∀ number < bound, ∀ rule, rules[number]? = some rule →
    ∀ count, rule.pattern.matchLength? text = some count → count = 0

/-- The events for a change of the stack: one, or none where the stack stays as it is. -/
inductive TracesChange : Option StackChange → (before after : ActiveStates) → List Event →
    Prop where
  | none {stack : ActiveStates} : TracesChange none stack stack []
  | push {stack : ActiveStates} {state : StateIndex} :
      TracesChange (some (.push state)) stack (stack.push state)
      [.pushed (stack.push state)]
  | pop {stack rest : ActiveStates} {state : StateIndex}
      (popped : stack.pop? = some (state, rest)) :
      TracesChange (some .pop) stack rest [.popped rest]
  | bare {stack : ActiveStates} (bare : stack.pop? = none) :
      TracesChange (some .pop) stack stack []
  | popAll {stack : ActiveStates} :
      TracesChange (some .popAll) stack stack.popAll [.popped stack.popAll]

namespace Language

/-- The events for a token of the line, where `before` and `after` are the stacks on its
two sides. -/
inductive TracesToken (language : Language) (line : String) (before : ActiveStates)
    (token : Token) : (after : ActiveStates) → List Event → Prop where
  | matched {number count : Nat} {rule : Rule} {skipped : List Nat} {after : ActiveStates}
      {changes : List Event}
      (passesOver : PassesOver (language.rules before.top)
        (Text.sliceFrom line token.start).toList number skipped)
      (isRule : (language.rules before.top)[number]? = some rule)
      (isMatch : rule.pattern.matchLength? (Text.sliceFrom line token.start).toList =
        some count)
      (positive : 0 < count)
      (stop_eq : token.stop = token.start +
        Text.byteLength ((Text.sliceFrom line token.start).toList.take count))
      (tracesChange : TracesChange rule.change before after changes) :
      TracesToken language line before token after
        (skipped.map (.emptyMatch before.top) ++
          .matched before.top number token.classedSpan :: changes)
  | fallback {skipped : List Nat}
      (passesOver : PassesOver (language.rules before.top)
        (Text.sliceFrom line token.start).toList
        (language.rules before.top).length skipped) :
      TracesToken language line before token before
        (skipped.map (.emptyMatch before.top) ++ [.fallback before.top token.classedSpan])

/-- The events for tokens of the line, where `tokenStacks` are the stacks after them. -/
inductive TracesTokens (language : Language) (line : String) :
    (before : ActiveStates) → List Token → (tokenStacks : List ActiveStates) →
    List Event → Prop where
  | nil {stack : ActiveStates} : TracesTokens language line stack [] [] []
  | cons {before after : ActiveStates} {token : Token} {tokens : List Token}
      {tokenStacks : List ActiveStates} {events others : List Event}
      (first : language.TracesToken line before token after events)
      (rest : TracesTokens language line after tokens tokenStacks others) :
      TracesTokens language line before (token :: tokens) (after :: tokenStacks)
      (events ++ others)

end Language

/-- A lexed line with the stack after each of its tokens. -/
structure LineHistory extends LexedLine where
  tokenStacks : List ActiveStates

/-- The events for some lines, the first of which starts with the given stack. -/
inductive Language.TracesLines (language : Language) :
    ActiveStates → List String → List LineHistory → List Event → Prop where
  | nil {stack : ActiveStates} : TracesLines language stack [] [] []
  | cons {stack : ActiveStates} {line : String} {lines : List String}
      {history : LineHistory} {histories : List LineHistory}
      {tokenEvents others : List Event}
      (tokens : language.TracesTokens line stack history.tokens history.tokenStacks
        tokenEvents)
      (isEnd : history.endStack = history.tokenStacks.getLast?.getD stack)
      (rest : TracesLines language history.endStack lines histories others) :
      TracesLines language stack (line :: lines) (history :: histories)
        (.lineStart line stack :: tokenEvents ++ .lineEnd history.endStack :: others)

namespace Language

/-- The history of a line, with the stacks that a scan has after being asked for each of
its tokens. -/
def lineHistory (language : Language) (stack : ActiveStates)
    (line : String) : LineHistory where
  toLexedLine := language.lexLine stack line
  tokenStacks := (List.range (language.lexLine stack line).tokens.length).map fun index =>
    ((Scanner.start line stack).afterCalls language (index + 1)).stack

def lineHistories (language : Language) (stack : ActiveStates) :
    List String → List LineHistory
  | [] => []
  | line :: lines =>
      let history := language.lineHistory stack line
      history :: language.lineHistories history.endStack lines

end Language

theorem tryRules_succ (text : List Char) (index : Nat) (rules : List Rule) :
    tryRules text (index + 1) rules =
      ⟨(tryRules text index rules).skipped.map (· + 1),
        (tryRules text index rules).winner.map fun (number, rule, count) =>
          (number + 1, rule, count)⟩ := by
  induction rules generalizing index with
  | nil => rfl
  | cons rule rules ih =>
      rw [tryRules, tryRules]
      cases rule.pattern.matchLength? text with
      | none => exact ih (index + 1)
      | some count =>
          cases count with
          | zero => simp only [ih (index + 1), List.map_cons]
          | succ count => rfl

namespace PassesOver

variable {rule : Rule} {rules : List Rule} {text : List Char} {bound : Nat}
  {skipped : List Nat}

theorem zero (rules : List Rule) (text : List Char) : PassesOver rules text 0 [] where
  sorted := .nil
  mem_iff := by simp
  matches_none := by simp

theorem cons (passesOver : PassesOver rules text bound skipped)
    (matchesNone : ∀ count, rule.pattern.matchLength? text = some count → count = 0) :
    PassesOver (rule :: rules) text (bound + 1)
      ((if rule.pattern.matchLength? text = some 0 then [0] else []) ++
        skipped.map (· + 1)) where
  sorted := by
    have later : (skipped.map (· + 1)).Pairwise (· < ·) := by
      rw [List.pairwise_map]
      exact passesOver.sorted.imp Nat.succ_lt_succ
    split
    · exact List.pairwise_cons.mpr ⟨by simp, later⟩
    · exact later
  mem_iff number := by
    cases number with
    | zero => split <;> simp_all
    | succ number => split <;> simp [passesOver.mem_iff number]
  matches_none number inside other isRule count isCount := by
    cases number with
    | zero =>
        obtain rfl := Option.some.inj isRule
        exact matchesNone count isCount
    | succ number =>
        have inside : number < bound := Nat.lt_of_succ_lt_succ inside
        exact passesOver.matches_none number inside other isRule count isCount

end PassesOver

/-- Rules are passed over up to the one that wins, or to the last if none does. -/
theorem passesOver_tryRules (text : List Char) (rules : List Rule) :
    PassesOver rules text
      (((tryRules text 0 rules).winner.map Prod.fst).getD rules.length)
      (tryRules text 0 rules).skipped := by
  induction rules with
  | nil => exact .zero [] text
  | cons rule rules ih =>
      -- The rules after the first are tried with numbers that are one higher than in
      -- their own list.
      have bound_eq :
          (((tryRules text 1 rules).winner.map Prod.fst).getD (rules.length + 1)) =
          ((tryRules text 0 rules).winner.map Prod.fst).getD rules.length + 1 := by
        rw [tryRules_succ]
        cases (tryRules text 0 rules).winner <;> rfl
      have skipped_eq : (tryRules text 1 rules).skipped =
          (tryRules text 0 rules).skipped.map (· + 1) := by
        rw [tryRules_succ]
      rw [tryRules, List.length_cons]
      cases isMatch : rule.pattern.matchLength? text with
      | none =>
          have matchesNone (count : Nat)
              (isCount : rule.pattern.matchLength? text = some count) : count = 0 := by
            simp [isMatch] at isCount
          simpa [isMatch, bound_eq, skipped_eq] using ih.cons matchesNone
      | some count =>
          cases count with
          | zero =>
              have matchesNone (count : Nat)
                  (isCount : rule.pattern.matchLength? text = some count) :
                  count = 0 := by
                rw [isMatch] at isCount
                exact (Option.some.inj isCount).symm
              simpa [isMatch, bound_eq, skipped_eq] using ih.cons matchesNone
          | succ count => exact .zero (rule :: rules) text

/-- A change of the stack is told once if it is to be reported. -/
theorem tracesChange_apply (change : Option StackChange) (stack : ActiveStates) :
    TracesChange change stack (StackChange.apply change stack).1
      (match (StackChange.apply change stack).2 with
        | some .pushed => [.pushed (StackChange.apply change stack).1]
        | some .popped => [.popped (StackChange.apply change stack).1]
        | none => []) := by
  match change with
  | none => exact .none
  | some (.push state) => exact .push
  | some .pop =>
      rw [StackChange.apply]
      cases popped : stack.pop? with
      | none => exact .bare popped
      | some left => exact .pop popped
  | some .popAll => exact .popAll

namespace Scanner

variable {language : Language} {line : String} {scanner : Scanner}

theorem tracesToken_of_step (liesIn : scanner.LiesIn line) {step : Step}
    (isStep : scanner.step? language = some step) :
    language.TracesToken line scanner.stack step.token step.next.stack step.events := by
  have rest_eq := liesIn.toList_sliceFrom
  have passesOver := passesOver_tryRules scanner.rest (language.rules scanner.stack.top)
  obtain ⟨-, matched | unmatched⟩ := step_cases isStep
  · obtain ⟨skipped, number, rule, count, tried, rfl⟩ := matched
    have won := congrArg Trial.winner tried
    obtain ⟨-, isRule, isMatch⟩ := tryRules_winner won
    have stop_eq : scanner.offset + Text.byteLength (scanner.rest.take count) =
        scanner.offset +
          Text.byteLength ((Text.sliceFrom line scanner.offset).toList.take count) := by
      rw [rest_eq]
    rw [tried] at passesOver
    rw [← rest_eq] at passesOver isMatch
    rw [Step.events, List.append_assoc]
    exact .matched passesOver isRule isMatch (tryRules_winner_pos won) stop_eq
      (tracesChange_apply rule.change scanner.stack)
  · obtain ⟨skipped, tried, rfl⟩ := unmatched
    rw [tried, ← rest_eq] at passesOver
    rw [Step.events, List.append_assoc]
    exact .fallback passesOver

theorem tracesTokens_steps (language : Language) (liesIn : scanner.LiesIn line) :
    language.TracesTokens line scanner.stack ((scanner.steps language).map Step.token)
      ((scanner.steps language).map fun step => step.next.stack)
      ((scanner.steps language).flatMap Step.events) := by
  induction scanner using induction_on_steps language with
  | atEnd scanner noStep =>
      rw [steps_of_step?_eq_none noStep]
      exact .nil
  | atStep scanner step isStep ih =>
      rw [steps_of_step?_eq_some isStep]
      exact .cons (tracesToken_of_step liesIn isStep) (ih (liesIn.step isStep))

/-- The stacks that a scan has after being asked for each of its tokens are those after
its steps. -/
theorem stacks_afterCalls (language : Language) (scanner : Scanner) :
    (List.range (scanner.steps language).length).map
        (fun index => (scanner.afterCalls language (index + 1)).stack) =
      (scanner.steps language).map fun step => step.next.stack := by
  induction scanner using induction_on_steps language with
  | atEnd scanner noStep => rw [steps_of_step?_eq_none noStep]; rfl
  | atStep scanner step isStep ih =>
      have next_eq : (scanner.next language).2 = step.next := by
        rw [next_of_step?_eq_some isStep]
      rw [steps_of_step?_eq_some isStep, List.length_cons, List.range_succ_eq_map,
        List.map_cons, List.map_cons, List.map_map, ← ih, afterCalls, next_eq]
      refine congrArg _ (List.map_congr_left fun index _ => ?_)
      rw [Function.comp_apply, afterCalls, next_eq]

end Scanner

namespace Language

variable {language : Language} {stack : ActiveStates}

theorem tokenStacks_lineHistory (line : String) :
    (language.lineHistory stack line).tokenStacks =
      ((Scanner.start line stack).steps language).map fun step => step.next.stack := by
  rw [lineHistory, tokens_lexLine, List.length_map, Scanner.stacks_afterCalls]

theorem toLexedLine_lineHistories (lines : List String) :
    (language.lineHistories stack lines).map LineHistory.toLexedLine =
      language.lexLines stack lines := by
  induction lines generalizing stack with
  | nil => rfl
  | cons line lines ih => exact congrArg (language.lexLine stack line :: ·) ih

theorem tracesLines_runLines (language : Language) (stack : ActiveStates)
    (lines : List String) :
    language.TracesLines stack lines (language.lineHistories stack lines)
      ((language.runLines stack lines).flatMap LineRun.events) := by
  induction lines generalizing stack with
  | nil => exact .nil
  | cons line lines ih =>
      have tokens := Scanner.tracesTokens_steps language (Scanner.start_liesIn line stack)
      have isEnd : (language.lexLine stack line).endStack =
          (language.lineHistory stack line).tokenStacks.getLast?.getD stack := by
        rw [tokenStacks_lineHistory, List.getLast?_map, endStack_lexLine, Scanner.finish,
          Scanner.stackAfter]
        cases ((Scanner.start line stack).steps language).getLast? <;> rfl
      rw [← tokenStacks_lineHistory] at tokens
      rw [runLines, List.flatMap_cons, LineRun.events, List.append_assoc]
      exact .cons tokens isEnd (ih (language.lexLine stack line).endStack)

end Language

/-- What is read off events: the current stack, the tokens of the current line with the
stack after each, the last token first, and for each line that has ended its tokens and
its last stack. -/
structure Replay where
  stack : ActiveStates
  tokens : List (ClassedSpan × ActiveStates)
  lines : List (List (ClassedSpan × ActiveStates) × ActiveStates)

namespace Replay

def empty : Replay :=
  ⟨default, [], []⟩

/-- Changes the current stack, which is the one after the last token. -/
def changeStack (replay : Replay) (stack : ActiveStates) : Replay :=
  { replay with
    stack := stack
    tokens :=
      match replay.tokens with
      | [] => []
      | (token, _) :: tokens => (token, stack) :: tokens }

/-- Reads an event.  The stack at the end of a line is not looked at. -/
def add (replay : Replay) : Event → Replay
  | .lineStart _ stack => { replay with stack := stack, tokens := [] }
  | .emptyMatch _ _ => replay
  | .matched _ _ token => { replay with tokens := (token, replay.stack) :: replay.tokens }
  | .fallback _ token => { replay with tokens := (token, replay.stack) :: replay.tokens }
  | .pushed stack => replay.changeStack stack
  | .popped stack => replay.changeStack stack
  | .lineEnd _ =>
      { replay with
        tokens := []
        lines := replay.lines ++ [(replay.tokens.reverse, replay.stack)] }

def addAll (replay : Replay) (events : List Event) : Replay :=
  events.foldl add replay

theorem addAll_append (replay : Replay) (first second : List Event) :
    replay.addAll (first ++ second) = (replay.addAll first).addAll second :=
  List.foldl_append

theorem addAll_emptyMatches (replay : Replay) (state : StateIndex) (skipped : List Nat) :
    replay.addAll (skipped.map (.emptyMatch state)) = replay := by
  induction skipped with
  | nil => rfl
  | cons number skipped ih => exact ih

end Replay

/-- What is to be read off the events of a line. -/
def LineHistory.outline (history : LineHistory) :
    List (ClassedSpan × ActiveStates) × ActiveStates :=
  ((history.tokens.map Token.classedSpan).zip history.tokenStacks, history.endStack)

section Reading

variable {language : Language} {line : String} {before after : ActiveStates}
  {events : List Event} {earlier : List (ClassedSpan × ActiveStates)}
  {ended : List (List (ClassedSpan × ActiveStates) × ActiveStates)}

theorem TracesChange.addAll {change : Option StackChange}
    (traces : TracesChange change before after events) (token : ClassedSpan) :
    Replay.addAll ⟨before, (token, before) :: earlier, ended⟩ events =
      ⟨after, (token, after) :: earlier, ended⟩ := by
  cases traces <;> rfl

namespace Language

theorem TracesToken.addAll {token : Token}
    (traces : language.TracesToken line before token after events) :
    Replay.addAll ⟨before, earlier, ended⟩ events =
      ⟨after, (token.classedSpan, after) :: earlier, ended⟩ := by
  cases traces with
  | matched passesOver isRule isMatch positive stop_eq tracesChange =>
      rw [Replay.addAll_append, Replay.addAll_emptyMatches]
      exact tracesChange.addAll token.classedSpan
  | fallback passesOver =>
      rw [Replay.addAll_append, Replay.addAll_emptyMatches]
      rfl

theorem TracesTokens.addAll {tokens : List Token} {tokenStacks : List ActiveStates}
    (traces : language.TracesTokens line before tokens tokenStacks events) :
    Replay.addAll ⟨before, earlier, ended⟩ events =
      ⟨tokenStacks.getLast?.getD before,
        ((tokens.map Token.classedSpan).zip tokenStacks).reverse ++ earlier, ended⟩ := by
  -- The tokens that were read before lie under those that are read here, with stacks that
  -- no event changes.
  induction traces generalizing earlier with
  | nil => rfl
  | cons first rest ih =>
      rw [Replay.addAll_append, first.addAll, ih, List.getLast?_cons, Option.getD_some,
        List.map_cons, List.zip_cons_cons, List.reverse_cons, List.append_assoc]
      rfl

theorem TracesLines.lines_addAll {lines : List String} {histories : List LineHistory}
    (traces : language.TracesLines before lines histories events) (replay : Replay) :
    (replay.addAll events).lines = replay.lines ++ histories.map LineHistory.outline := by
  induction traces generalizing replay with
  | nil => exact (List.append_nil _).symm
  | @cons stack line lines history histories tokenEvents others tokens isEnd rest ih =>
      have atEnd : replay.addAll (.lineStart line stack :: tokenEvents) =
          ⟨history.endStack, history.outline.1.reverse, replay.lines⟩ := by
        rw [isEnd, ← List.append_nil history.outline.1.reverse]
        exact tokens.addAll
      have pastEnd : Replay.add ⟨history.endStack, history.outline.1.reverse,
          replay.lines⟩ (.lineEnd history.endStack) =
            ⟨history.endStack, [], replay.lines ++ [history.outline]⟩ := by
        rw [Replay.add, List.reverse_reverse]
        rfl
      calc
        (replay.addAll
              (.lineStart line stack :: tokenEvents ++
                .lineEnd history.endStack :: others)).lines =
            (Replay.addAll ⟨history.endStack, [], replay.lines ++ [history.outline]⟩
              others).lines := by
          rw [Replay.addAll_append, atEnd, ← pastEnd]
          rfl
        _ = replay.lines ++ (history :: histories).map LineHistory.outline := by
          rw [ih, List.append_assoc]
          rfl

end Language

end Reading

/-- A tracer changes nothing about the lines of a document, and it hears the events of the
document and no others.  These come in the order described by `TracesLines`, from the
initial stack on, and they are enough to read off them the spans and classes of all tokens
and the stack after each of them. -/
theorem Language.lexDocumentTraced_tells {σ : Type} (language : Language)
    (tracer : Tracer σ) (text : String) (trace : σ) :
    let lines := Text.documentLines text
    let events := language.documentEvents text
    let histories := language.lineHistories language.initialStack lines
    language.lexDocumentTraced tracer text trace =
        (language.lexDocument text, tracer.hearAll language events trace) ∧
      histories.map LineHistory.toLexedLine = language.lexDocument text ∧
      language.TracesLines language.initialStack lines histories events ∧
      (Replay.empty.addAll events).lines = histories.map LineHistory.outline := by
  intro lines events histories
  have events_eq : events =
      (language.runLines language.initialStack lines).flatMap LineRun.events :=
    documentEvents_eq text
  have traces : language.TracesLines language.initialStack lines histories events := by
    rw [events_eq]
    exact tracesLines_runLines language language.initialStack lines
  refine ⟨?_, toLexedLine_lineHistories lines, traces, traces.lines_addAll .empty⟩
  rw [lexDocumentTraced_eq, events_eq]
  rfl

end LineLexer
