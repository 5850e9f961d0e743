import LineLexer.Proofs.Report.TokenDump
import LineLexer.Proofs.Report.TraceLog
import LineLexer.Report.RuleDump

/-!
# Colours only add escape sequences

The reports show texts of two kinds: names and patterns of the grammar, as they are, and
texts of the document, which are quoted.  A quoted text is free of escapes whatever it
holds.  So in a language whose grammar is free of escapes each report is coloured by
escape sequences alone, and no document can add any.
-/

namespace LineLexer

open Text

section Reports

variable {language : Language} (isFree : language.IsEscapeFree)

include isFree

theorem isEscapeFree_stackText (stack : ActiveStates) :
    IsEscapeFree (language.stackText stack) :=
  Language.lacks_stackText isFree.stateName (by decide) stack

/-! ### Token dumps -/

section TokenDump

variable (showSpans merge : Bool)

theorem colors_tokenLine (line : String) (token : Token) :
    Colors (DumpStyle.tokenLine { palette := .ansi, showSpans, merge } language
      line token)
      (DumpStyle.tokenLine { palette := .plain, showSpans, merge } language line
        token) := by
  have ofSpan :
      Colors (if showSpans then Palette.ansi.dimmed (DumpStyle.spanText token) else "")
      (if showSpans then Palette.plain.dimmed (DumpStyle.spanText token) else "") := by
    split
    · exact .dimmed (DumpStyle.lacks_spanText (by decide) (by decide) (by decide) token)
    · exact .nil
  have ofLabel := Colors.classLabel (isFree.className token.classIndex)
  have ofText := Colors.free (IsEscapeFree.quoted (token.text line))
  exact (((((Colors.free (by decide)).append ofSpan).append ofLabel).append
    (.free (by decide))).append ofText).append (.free (by decide))

theorem colors_stackLine (stack : ActiveStates) :
    Colors (DumpStyle.stackLine { palette := .ansi, showSpans, merge } language stack)
      (DumpStyle.stackLine { palette := .plain, showSpans, merge } language stack) := by
  have stackFree : IsEscapeFree ("-> " ++ language.stackText stack) :=
    .append (by decide) (isEscapeFree_stackText isFree stack)
  rw [DumpStyle.stackLine, DumpStyle.stackLine]
  split
  · exact .nil
  · exact ((Colors.free (by decide)).append (.dimmed stackFree)).append
      (.free (by decide))

theorem colors_lineText (number : Nat) (line : String) (lexed : LexedLine) :
    Colors (DumpStyle.lineText { palette := .ansi, showSpans, merge } language number
      line lexed)
      (DumpStyle.lineText { palette := .plain, showSpans, merge } language number line
        lexed) := by
  have headerFree : IsEscapeFree ("L" ++ toString number) :=
    .append (by decide) (IsEscapeFree.toString number)
  have ofTokens := Colors.join_map
    fun token (_ : token ∈ (lexed.mergedIf merge).tokens) =>
    colors_tokenLine isFree showSpans merge line token
  have ofStack := colors_stackLine isFree showSpans merge (lexed.mergedIf merge).endStack
  exact (((Colors.dimmed headerFree).append
    (.free (by decide))).append ofTokens).append ofStack

theorem colors_dump (text : String) :
    Colors (DumpStyle.dump { palette := .ansi, showSpans, merge } language text)
      (DumpStyle.dump { palette := .plain, showSpans, merge } language text) :=
  .join_mapIdx fun index (line, lexed) _ =>
    colors_lineText isFree showSpans merge (index + 1) line lexed

end TokenDump

/-! ### Rule dumps -/

omit isFree in
theorem isEscapeFree_twoDigits (number : Nat) :
    IsEscapeFree (Language.twoDigits number) := by
  rw [Language.twoDigits]
  split
  · exact .append (by decide) (IsEscapeFree.toString number)
  · exact .toString number

theorem colors_ruleLine (state : StateIndex) (index : Nat) {rule : Rule}
    (member : ∃ state, rule ∈ language.rules state) :
    Colors (language.ruleLine .ansi state index rule)
      (language.ruleLine .plain state index rule) := by
  obtain ⟨other, member⟩ := member
  have numberFree : IsEscapeFree ("  " ++ Language.twoDigits index ++ "  ") :=
    (Lacks.append (by decide) (isEscapeFree_twoDigits index)).append (by decide)
  have patternFree : IsEscapeFree ("/" ++ rule.patternText ++ "/") :=
    (Lacks.append (by decide) (isFree.patternText other rule member)).append (by decide)
  have ofAction := Colors.free (isFree.description other rule member)
  have ofOrigin : Colors
      (if rule.origin = state then ""
        else "  " ++ Palette.ansi.dimmed ("; from " ++ language.stateName rule.origin))
      (if rule.origin = state then ""
        else "  " ++ Palette.plain.dimmed
          ("; from " ++ language.stateName rule.origin)) := by
    split
    · exact .nil
    · exact (Colors.free (by decide)).append
        (.dimmed (.append (by decide) (isFree.stateName rule.origin)))
  exact (((((Colors.free numberFree).append (.dimmed patternFree)).append
    (.free (by decide))).append ofAction).append ofOrigin).append (.free (by decide))

theorem colors_stateText (position : Nat) {lexState : LexState}
    (member : lexState ∈ language.states.toList) :
    Colors (language.stateText .ansi position lexState)
      (language.stateText .plain position lexState) := by
  obtain ⟨state, isState⟩ := List.mem_iff_getElem?.mp member
  rw [Array.getElem?_toList] at isState
  have nameFree : IsEscapeFree lexState.name :=
    Language.stateName_of_getElem? isState ▸ isFree.stateName state
  have startFree : IsEscapeFree
      (if StateIndex.ofPosition position = language.start then " (start)" else "") := by
    split <;> decide
  have headerFree : IsEscapeFree ("\n[" ++ lexState.name ++ "]" ++
      (if StateIndex.ofPosition position = language.start then " (start)" else "") ++
        "\n") :=
    (((Lacks.append (by decide) nameFree).append (by decide)).append startFree).append
      (by decide)
  have ofRules := Colors.join_mapIdx fun index rule (isRule : rule ∈ lexState.rules) =>
    colors_ruleLine isFree (StateIndex.ofPosition position) index
      ⟨state, (Language.rules_of_getElem? isState).symm ▸ isRule⟩
  exact (Colors.free headerFree).append ofRules

theorem colors_dumpRules :
    Colors (language.dumpRules .ansi) (language.dumpRules .plain) := by
  have postfixFree := IsEscapeFree.quoted language.classes.postfixText
  have headFree : IsEscapeFree
      ("[language]\n" ++ "name = " ++ language.name ++ "\n" ++ "postfix = " ++
      Text.quoted language.classes.postfixText ++ "\n" ++ "default = ") :=
    ((((((Lacks.append (by decide) (by decide)).append isFree.name).append
      (by decide)).append
      (by decide)).append postfixFree).append (by decide)).append (by decide)
  have ofDefault := Colors.classLabel (isFree.className language.defaultClass)
  have caseFree : IsEscapeFree (if language.ignoreCase then "true" else "false") := by
    split <;> decide
  have ofStates := Colors.join_mapIdx
    fun position lexState (member : lexState ∈ language.states.toList) =>
    colors_stateText isFree position member
  exact ((((((Colors.free headFree).append ofDefault).append (.free (by decide))).append
    (.free (by decide))).append
    (.free caseFree)).append (.free (by decide))).append ofStates

/-! ### Trace logs -/

theorem isEscapeFree_patternText (state : StateIndex) (number : Nat) :
    IsEscapeFree (TraceLog.patternText language state number) := by
  rw [TraceLog.patternText]
  split
  · rename_i rule isRule
    exact (Lacks.append (by decide)
      (isFree.patternText state rule (List.mem_of_getElem? isRule))).append (by decide)
  · decide

theorem colors_tokenText (verbosity : Verbosity) (told : NumberedEvent)
    (token : ClassedSpan) :
    Colors
      (TraceLog.tokenText
        { verbosity, palette := .ansi, lineCount := told.number, line := told.line }
        language token)
      (TraceLog.tokenText
        { verbosity, palette := .plain, lineCount := told.number, line := told.line }
        language token) := by
  have spanFree :
      IsEscapeFree (toString token.start ++ ".." ++ toString token.stop ++ " ") :=
    (((IsEscapeFree.toString _).append (by decide)).append
      (IsEscapeFree.toString _)).append (by decide)
  have textFree := IsEscapeFree.quoted (Text.slice told.line token.start token.stop)
  exact (((((Colors.free spanFree).append .green).append (.free textFree)).append
    .reset).append
    (.free (by decide))).append (.classLabel (isFree.className token.classIndex))

/-- Logs with and without colours tell of the same events, with the same texts. -/
theorem rel_colors_line? (verbosity : Verbosity) (told : NumberedEvent) :
    Option.Rel Colors (told.line? language .ansi verbosity)
      (told.line? language .plain verbosity) := by
  have ofStack (stack : ActiveStates) := isEscapeFree_stackText isFree stack
  have ofRule (state : StateIndex) (number : Nat) :
      Colors (Palette.ansi.dimmed (language.stateName state ++ "#" ++ toString number))
        (Palette.plain.dimmed (language.stateName state ++ "#" ++ toString number)) :=
    .dimmed (((isFree.stateName state).append (by decide)).append
      (IsEscapeFree.toString number))
  have ofToken := colors_tokenText isFree verbosity told
  obtain ⟨number, line, event⟩ := told
  cases event with
  | lineStart start stack =>
      have headerFree : IsEscapeFree ("line " ++ toString number ++ " ") :=
        (Lacks.append (by decide) (IsEscapeFree.toString number)).append (by decide)
      exact .some ((Colors.free headerFree).append (.dimmed (ofStack stack)))
  | emptyMatch state rule =>
      have patternFree := isEscapeFree_patternText isFree state rule
      rw [NumberedEvent.line?, NumberedEvent.line?, TraceLog.eventLine?,
        TraceLog.eventLine?]
      split
      · exact .some ((((Colors.free (by decide)).append (ofRule state rule)).append
          (.free (by decide))).append (.free patternFree))
      · exact .none
  | matched state rule token =>
      have ofPattern : Colors
          (if verbosity = .normal then "" else " " ++
            TraceLog.patternText language state rule)
          (if verbosity = .normal then "" else " " ++
            TraceLog.patternText language state rule) := by
        split
        · exact .nil
        · exact .free (.append (by decide) (isEscapeFree_patternText isFree state rule))
      exact .some (((((Colors.free (by decide)).append (ofRule state rule)).append
        (.free (by decide))).append (ofToken token)).append ofPattern)
  | fallback state token =>
      exact .some ((((Colors.free (by decide)).append
        (.dimmed (isFree.stateName state))).append
        (.free (by decide))).append (ofToken token))
  | pushed stack => exact .some (.free (.append (by decide) (ofStack stack)))
  | popped stack => exact .some (.free (.append (by decide) (ofStack stack)))
  | lineEnd stack =>
      exact .some ((Colors.free (by decide)).append (.dimmed (ofStack stack)))

theorem forall₂_colors_lines (verbosity : Verbosity) (session : List Traced) :
    List.Forall₂ Colors
    (TraceLog.traceAll language { verbosity, palette := .ansi } session).lines.toList
      (TraceLog.traceAll language
        { verbosity, palette := .plain } session).lines.toList := by
  have ofEvents (events : List NumberedEvent) : List.Forall₂ Colors
      (events.filterMap (·.line? language .ansi verbosity))
        (events.filterMap (·.line? language .plain verbosity)) :=
    List.rel_filterMap (fun told _ same => same ▸ rel_colors_line? isFree verbosity told)
      (List.forall₂_same.mpr fun _ _ => rfl)
  rw [TraceLog.traceAll_eq, TraceLog.traceAll_eq, TraceLog.toList_lines_addRuns,
    TraceLog.toList_lines_addRuns]
  exact ofEvents _

theorem colors_output_traceAll (verbosity : Verbosity) (session : List Traced) :
    Colors (TraceLog.traceAll language { verbosity, palette := .ansi } session).output
      (TraceLog.traceAll language { verbosity, palette := .plain } session).output := by
  refine .join (List.forall₂_map_left_iff.mpr (List.forall₂_map_right_iff.mpr ?_))
  exact (forall₂_colors_lines isFree verbosity session).imp fun _ _ colors =>
    colors.append (.free (by decide))

end Reports

/-- In a language whose grammar is free of escapes, each coloured report is the plain
report when its escape sequences are deleted, and the plain report is free of escapes.
This holds of the dump of any document in any style, of the dump of the rules, and of the
log of any session at any verbosity. -/
theorem Grammar.withoutColors_reports {grammar : Grammar} {reader : PatternReader}
    {language : Language} (compiled : grammar.compile reader = .ok language)
    (isFree : grammar.IsEscapeFree) :
    (∀ showSpans merge text,
      let dump palette := DumpStyle.dump { palette, showSpans, merge } language text
      withoutColors (dump .ansi) = dump .plain ∧ Text.IsEscapeFree (dump .plain)) ∧
    (withoutColors (language.dumpRules .ansi) = language.dumpRules .plain ∧
      Text.IsEscapeFree (language.dumpRules .plain)) ∧
    ∀ verbosity session,
      let output palette :=
        (TraceLog.traceAll language { verbosity, palette } session).output
      withoutColors (output .ansi) = output .plain ∧
        Text.IsEscapeFree (output .plain) := by
  have languageFree := isFree.compile compiled
  have ofColors {colored plain : String} (colors : Colors colored plain) :
      withoutColors colored = plain ∧ Text.IsEscapeFree plain :=
        ⟨colors.withoutColors_eq, colors.isEscapeFree⟩
  exact ⟨fun showSpans merge text =>
    ofColors (colors_dump languageFree showSpans merge text),
    ofColors (colors_dumpRules languageFree),
    fun verbosity session =>
      ofColors (colors_output_traceAll languageFree verbosity session)⟩

theorem PowerQuery.isEscapeFree_grammar : PowerQuery.grammar.IsEscapeFree where
  name := by decide +kernel
  postfixText := by decide +kernel
  states := by decide +kernel
  wordSets := by decide +kernel
  classes := by decide +kernel
  patterns := by decide +kernel

theorem powerQuery_withoutColors_escapeText :
    PowerQuery.grammar.compile = .ok PowerQuery.language ∧
    PowerQuery.grammar.IsEscapeFree ∧
      let dump palette :=
        DumpStyle.dump { palette, showSpans := true } PowerQuery.language "x\x1b[2m"
      dump .ansi ≠ dump .plain ∧ withoutColors (dump .ansi) = dump .plain ∧
        IsEscapeFree (dump .plain) := by
  have ofDumps :=
    (Grammar.withoutColors_reports PowerQuery.compile_grammar
      PowerQuery.isEscapeFree_grammar).1
  exact ⟨PowerQuery.compile_grammar, PowerQuery.isEscapeFree_grammar, by decide +kernel,
    ofDumps true false "x\x1b[2m"⟩

end LineLexer
