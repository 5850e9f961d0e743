import LineLexer.Proofs.Grammar.WrittenForm
import LineLexer.Proofs.Json
import LineLexer.Proofs.Scan.DeclarationOrder

/-!
# Lexing by the written form

Whoever has the JSON text of a grammar knows how it lexes, unless a name in it is spelled
like a keyword.
-/

namespace LineLexer.Grammar

variable {first second : Grammar} {reader : PatternReader} {language other : Language}

/-- Grammars with the same JSON text give every document the same spans, classes, sides
and active states, if nowhere one of them has a keyword where the other has the name
spelled like it. -/
theorem namedLine_lexDocument_of_render_eq {isPretty : Bool}
    (sameText : first.toJson.render isPretty = second.toJson.render isPretty)
    (apart : first.clashes second = []) (compiled : first.compile reader = .ok language)
    (otherCompiled : second.compile reader = .ok other) (text : String) :
    (language.lexDocument text).map language.namedLine =
      (other.lexDocument text).map other.namedLine := by
  have alike := (toJson_eq_iff first second).mp
    (Json.render_injective isPretty sameText).symm
  exact (alike.agrees apart).namedLine_lexDocument (isCompiled_of_compile compiled)
    (isCompiled_of_compile otherCompiled) text

/-- A grammar with one rule, and with a word set and states that are named like
keywords. -/
def keywordNames (action : Action) : Grammar :=
  let base : Grammar := { name := "x" }
  base
    |>.addBrackets "(" ")" "paren"
    |>.addWordSet "default" ["b"]
    |>.addState "root" [.rule "[ab(]" action]
    |>.addState "pop" []
    |>.addState "popall" []

/-- Actions with a name that is spelled like a keyword, beside the actions with the
keyword. -/
def mistakenActions : List (Action × Action) :=
  [((Action.ofClass "x").push "pop", (Action.ofClass "x").pop),
   ((Action.ofClass "x").push "popall", (Action.ofClass "x").popAll),
   (.ofClass "@brackets", .ofBrackets),
   (.ofCases [(.inSetNamed "default", "x")], .ofCases [(.otherwise, "x")])]

theorem keywordNames_writtenAlike :
    ∀ actions ∈ mistakenActions,
    (keywordNames actions.1).WrittenAlike (keywordNames actions.2) :=
  fun actions member =>
    { name_eq := rfl
      defaultClass_eq := rfl
      postfixText_eq := rfl
      ignoreCase_eq := rfl
      start_eq := rfl
      brackets_eq := rfl
      wordSets_eq := rfl
      states_eq := by
        revert actions
        decide +kernel }

/-- The lines of a document with names, if the grammar compiles. -/
def namedLines? (grammar : Grammar) (text : String) : Option (List NamedLine) :=
  grammar.compile.toOption.map fun language =>
    (language.lexDocument text).map language.namedLine

/-- A name that is spelled like a keyword gives the text of the grammar with the keyword,
which lexes in another way. -/
theorem keywordNames_mistaken :
    (∀ isPretty, (mistakenActions.map fun actions =>
      (keywordNames actions.1).toJson.render isPretty) =
      mistakenActions.map fun actions =>
        (keywordNames actions.2).toJson.render isPretty) ∧
    (mistakenActions.map fun actions => (keywordNames actions.1).namedLines? "a(") =
      [some [⟨[⟨0, 1, "x", none⟩, ⟨1, 2, "", none⟩], ["root", "pop"]⟩],
       some [⟨[⟨0, 1, "x", none⟩, ⟨1, 2, "", none⟩], ["root", "popall"]⟩],
       some [⟨[⟨0, 1, "@brackets", none⟩, ⟨1, 2, "@brackets", none⟩], ["root"]⟩],
       some [⟨[⟨0, 1, "", none⟩, ⟨1, 2, "", none⟩], ["root"]⟩]] ∧
    (mistakenActions.map fun actions => (keywordNames actions.2).namedLines? "a(") =
      [some [⟨[⟨0, 1, "x", none⟩, ⟨1, 2, "x", none⟩], ["root"]⟩],
       some [⟨[⟨0, 1, "x", none⟩, ⟨1, 2, "x", none⟩], ["root"]⟩],
       some [⟨[⟨0, 1, "", none⟩, ⟨1, 2, "paren", some .opening⟩], ["root"]⟩],
       some [⟨[⟨0, 1, "x", none⟩, ⟨1, 2, "x", none⟩], ["root"]⟩]] := by
  refine ⟨fun isPretty => List.map_congr_left fun actions member =>
    ?_, by decide +kernel, by decide +kernel⟩
  rw [(toJson_eq_iff _ _).mpr (keywordNames_writtenAlike actions member)]

/-- The quotations grammar with every name written with an `@`. -/
def quotingWordsMarked : Grammar :=
  let base : Grammar := { name := "x" }
  base
    |>.withStart "@root"
    |>.addWordSet "@kw" ["let", "in"]
    |>.addWordSet "@type" ["in", "list"]
    |>.addState "@root"
      [.rule "[a-z]+" (.ofCases
        [(.inSetNamed "@type", "type"), (.inSetNamed "@kw", "keyword"),
          (.otherwise, "name")]),
       .rule "\"" ((Action.ofClass "string").push "@string")]
    |>.addState "@string" [.rule "\"" (Action.ofClass "string").pop,
      .rule "." (.ofClass "string")]

theorem quotingWordsMarked_lexDocument :
    ∃ language other, quotingWords.compile = .ok language ∧
      quotingWordsMarked.compile = .ok other ∧
      quotingWords.toJson.pretty = quotingWordsMarked.toJson.pretty ∧
      quotingWords.clashes quotingWordsMarked = [] ∧
        (language.lexDocument "in \"a").map language.namedLine =
          (other.lexDocument "in \"a").map other.namedLine ∧
        (other.lexDocument "in \"a").map other.namedLine =
          [⟨[⟨0, 2, "type", none⟩, ⟨2, 3, "", none⟩, ⟨3, 4, "string", none⟩,
             ⟨4, 5, "string", none⟩], ["root", "string"]⟩] := by
  have sameText : quotingWords.toJson.render true =
      quotingWordsMarked.toJson.render true := by
    decide +kernel
  have apart : quotingWords.clashes quotingWordsMarked = [] := by decide +kernel
  have compiles : quotingWords.compile.toOption.isSome := by decide +kernel
  have evaluated : quotingWordsMarked.namedLines? "in \"a" =
      some [⟨[⟨0, 2, "type", none⟩, ⟨2, 3, "", none⟩, ⟨3, 4, "string", none⟩,
        ⟨4, 5, "string", none⟩], ["root", "string"]⟩] := by
    decide +kernel
  obtain ⟨language, isLanguage⟩ := Option.isSome_iff_exists.mp compiles
  obtain ⟨other, isOther, lines_eq⟩ := Option.map_eq_some_iff.mp evaluated
  have compiled := toOption_eq_some_iff.mp isLanguage
  have otherCompiled := toOption_eq_some_iff.mp isOther
  exact ⟨language, other, compiled, otherCompiled, sameText, apart,
    namedLine_lexDocument_of_render_eq sameText apart compiled otherCompiled _, lines_eq⟩

end LineLexer.Grammar
