import LineLexer.Proofs.Grammar.Agreement
import LineLexer.Proofs.Scan.Lines
import LineLexer.Proofs.Scan.Reading

/-!
# The order of declarations

The numbers of states and classes depend on the order in which a grammar declares its
states and word sets, and nothing else does once the start state is given by name.  Two
languages that number the same states in different ways stay at stacks with the same
names, from which they read the same tokens, line after line.
-/

namespace LineLexer

/-- A lexed line with names in place of numbers. -/
structure NamedLine where
  tokens : List NamedToken
  endNames : List String
  deriving DecidableEq, Repr

def Language.namedLine (language : Language) (lexed : LexedLine) : NamedLine :=
  ⟨lexed.tokens.map language.namedToken, language.stackNames lexed.endStack⟩

namespace Grammar

/-- The second grammar is the first one with its states, its word sets and the words of
each set declared in another order. -/
structure Reorders (first second : Grammar) : Prop where
  name_eq : second.name = first.name
  defaultClass_eq : second.defaultClass = first.defaultClass
  postfixText_eq : second.postfixText = first.postfixText
  ignoreCase_eq : second.ignoreCase = first.ignoreCase
  start_eq : second.start = first.start
  brackets_eq : second.brackets = first.brackets
  states : second.states.toList.Perm first.states.toList
  wordSetNames : second.wordSets.keys.Perm first.wordSets.keys
  words : ∀ setName words, first.wordSets.get? setName = some words →
    ∃ reordered, second.wordSets.get? setName = some reordered ∧ reordered.Perm words

variable {first second : Grammar} {reader : PatternReader} {language other : Language}

theorem Reorders.isWord_iff (reorders : first.Reorders second) (setName word : String) :
    word ∈ (second.wordSets.get? setName).getD [] ↔
      word ∈ (first.wordSets.get? setName).getD [] := by
  cases isSet : first.wordSets.get? setName with
  | some words =>
      obtain ⟨reordered, isOther, perm⟩ := reorders.words setName words isSet
      rw [isOther]
      exact perm.mem_iff
  | none =>
      have isNoKey : setName ∉ second.wordSets.keys := by
        rw [reorders.wordSetNames.mem_iff]
        exact OrderedMap.get?_eq_none_iff.mp isSet
      rw [OrderedMap.get?_eq_none_iff.mpr isNoKey]

/-- The start state has to be given, since otherwise it is the one that is declared
first. -/
theorem Reorders.agrees (reorders : first.Reorders second)
    (explicit : first.start.isSome) :
    first.Agrees second where
  defaultClass_eq := reorders.defaultClass_eq
  postfixText_eq := reorders.postfixText_eq
  ignoreCase_eq := reorders.ignoreCase_eq
  startName_eq := by
    obtain ⟨name, isStart⟩ := Option.isSome_iff_exists.mp explicit
    rw [startName, startName, startName?, startName?, reorders.start_eq, isStart]
  brackets_eq := reorders.brackets_eq
  size_eq := OrderedMap.size_eq_of_perm reorders.states
  get?_eq := OrderedMap.get?_eq_of_perm reorders.states
  isSet_iff _ := reorders.wordSetNames.mem_iff
  isWord_iff := reorders.isWord_iff

theorem IsCompiled.reads_lexLine (isCompiled : first.IsCompiled reader language)
    {stack : ActiveStates} (admits : language.Admits stack) (line : String) :
    first.Reads reader 0 line.toList (language.stackNames stack)
      (language.namedLine (language.lexLine stack line)).tokens
      (language.namedLine (language.lexLine stack line)).endNames := by
  have reads := isCompiled.reads_steps (Scanner.start line stack) admits
  rw [Language.namedLine, Language.tokens_lexLine, Language.endStack_lexLine,
    List.map_map]
  exact reads

namespace Agrees

variable {stack otherStack : ActiveStates}

/-- From stacks with the same names, the languages of two grammars that agree give a line
the same names. -/
theorem namedLine_lexLine (agrees : first.Agrees second)
    (isCompiled : first.IsCompiled reader language)
    (isOther : second.IsCompiled reader other) (admits : language.Admits stack)
    (otherAdmits : other.Admits otherStack)
    (names_eq : language.stackNames stack = other.stackNames otherStack) (line : String) :
    language.namedLine (language.lexLine stack line) =
      other.namedLine (other.lexLine otherStack line) := by
  have reads := agrees.reads (isCompiled.reads_lexLine admits line)
  rw [names_eq] at reads
  obtain ⟨tokens_eq, endNames_eq⟩ := reads.unique (isOther.reads_lexLine otherAdmits line)
  exact NamedLine.mk.injEq _ _ _ _ |>.mpr ⟨tokens_eq, endNames_eq⟩

/-- The stacks at the ends of a line have the same names again, so that this goes on line
after line. -/
theorem namedLine_lexLines (agrees : first.Agrees second)
    (isCompiled : first.IsCompiled reader language)
    (isOther : second.IsCompiled reader other) (admits : language.Admits stack)
    (otherAdmits : other.Admits otherStack)
    (names_eq : language.stackNames stack = other.stackNames otherStack)
    (lines : List String) :
    (language.lexLines stack lines).map language.namedLine =
      (other.lexLines otherStack lines).map other.namedLine := by
  induction lines generalizing stack otherStack with
  | nil => rfl
  | cons line lines ih =>
      have line_eq :=
        agrees.namedLine_lexLine isCompiled isOther admits otherAdmits names_eq line
      have isSafe :=
        isSafe_runLine isCompiled.numbersStates isCompiled.resolvesClasses admits line
      have otherSafe :=
        isSafe_runLine isOther.numbersStates isOther.resolvesClasses otherAdmits line
      rw [Language.lexLines_cons, Language.lexLines_cons, List.map_cons,
        List.map_cons, line_eq]
      exact congrArg _ (ih isSafe.admits_end otherSafe.admits_end
        (congrArg NamedLine.endNames line_eq))

theorem namedLine_lexDocument (agrees : first.Agrees second)
    (isCompiled : first.IsCompiled reader language)
    (isOther : second.IsCompiled reader other) (text : String) :
    (language.lexDocument text).map language.namedLine =
      (other.lexDocument text).map other.namedLine := by
  have start := isCompiled.isState isCompiled.start
  have otherStart := isOther.isState isOther.start
  refine agrees.namedLine_lexLines isCompiled isOther (.single start.lt_size)
    (.single otherStart.lt_size) ?_ _
  change [language.stateName language.start] = [other.stateName other.start]
  rw [start.stateName_eq, otherStart.stateName_eq, agrees.startName_eq]

end Agrees

/-- With the start state given by name, the order in which states, word sets and words are
declared decides neither whether a grammar compiles nor any span, class, side or active
state of a document. -/
theorem compile_and_lexDocument_of_reorders (reader : PatternReader)
    (reorders : first.Reorders second) (explicit : first.start.isSome) :
    ((∃ language, first.compile reader = .ok language) ↔
        ∃ language, second.compile reader = .ok language) ∧
      ∀ language other, first.compile reader = .ok language →
        second.compile reader = .ok other → ∀ text,
          (language.lexDocument text).map language.namedLine =
            (other.lexDocument text).map other.namedLine := by
  have agrees := reorders.agrees explicit
  refine ⟨⟨agrees.compiles, agrees.symm.compiles⟩,
    fun language other compiled otherCompiled text => ?_⟩
  exact agrees.namedLine_lexDocument (isCompiled_of_compile compiled)
    (isCompiled_of_compile otherCompiled) text

/-- A grammar for words and quotations, in which two word sets share a word. -/
def quotingWords : Grammar :=
  let base : Grammar := { name := "x" }
  base
    |>.withStart "root"
    |>.addWordSet "kw" ["let", "in"]
    |>.addWordSet "type" ["in", "list"]
    |>.addState "root"
      [.rule "[a-z]+" (.ofCases
        [(.inSetNamed "type", "type"), (.inSetNamed "kw", "keyword"),
          (.otherwise, "name")]),
       .rule "\"" ((Action.ofClass "string").push "string")]
    |>.addState "string" [.rule "\"" (Action.ofClass "string").pop,
      .rule "." (.ofClass "string")]

/-- The same grammar with everything declared the other way round. -/
def quotingWordsReversed : Grammar :=
  let base : Grammar := { name := "x" }
  base
    |>.withStart "root"
    |>.addWordSet "type" ["list", "in"]
    |>.addWordSet "kw" ["in", "let"]
    |>.addState "string" [.rule "\"" (Action.ofClass "string").pop,
      .rule "." (.ofClass "string")]
    |>.addState "root"
      [.rule "[a-z]+" (.ofCases
        [(.inSetNamed "type", "type"), (.inSetNamed "kw", "keyword"),
          (.otherwise, "name")]),
       .rule "\"" ((Action.ofClass "string").push "string")]

theorem quotingWords_reorders : quotingWords.Reorders quotingWordsReversed where
  name_eq := rfl
  defaultClass_eq := rfl
  postfixText_eq := rfl
  ignoreCase_eq := rfl
  start_eq := rfl
  brackets_eq := rfl
  states := by decide +kernel
  wordSetNames := by decide +kernel
  words setName words isSet := by
    have areSets : quotingWords.wordSets.toList =
        [("kw", ["let", "in"]), ("type", ["in", "list"])] := by
      decide +kernel
    rw [OrderedMap.get?_eq_some_iff_mem_toList, areSets] at isSet
    rcases List.mem_cons.mp isSet with same | isSet
    · obtain ⟨rfl, rfl⟩ := Prod.mk.inj same
      exact ⟨["in", "let"], by decide +kernel, by decide⟩
    · obtain ⟨rfl, rfl⟩ := Prod.mk.inj (List.mem_singleton.mp isSet)
      exact ⟨["list", "in"], by decide +kernel, by decide⟩

/-- Both orders of declaration number states and classes differently and read the same
document, with an open quotation at the end of its second line. -/
theorem quotingWords_lexDocument :
    ∃ language other, quotingWords.compile = .ok language ∧
      quotingWordsReversed.compile = .ok other ∧ language.start ≠ other.start ∧
        (language.lexDocument "let in\nx \"a").map language.namedLine =
          (other.lexDocument "let in\nx \"a").map other.namedLine ∧
        (language.lexDocument "let in\nx \"a").map language.namedLine =
          [⟨[⟨0, 3, "keyword", none⟩, ⟨3, 4, "", none⟩, ⟨4, 6, "type", none⟩], ["root"]⟩,
           ⟨[⟨0, 1, "name", none⟩, ⟨1, 2, "", none⟩, ⟨2, 3, "string", none⟩,
             ⟨3, 4, "string", none⟩], ["root", "string"]⟩] := by
  have agree := compile_and_lexDocument_of_reorders Pattern.read quotingWords_reorders rfl
  have evaluated : quotingWords.compile.toOption.map (fun language =>
        (language.start, (language.lexDocument "let in\nx \"a").map language.namedLine)) =
      some (0,
        [⟨[⟨0, 3, "keyword", none⟩, ⟨3, 4, "", none⟩, ⟨4, 6, "type", none⟩], ["root"]⟩,
         ⟨[⟨0, 1, "name", none⟩, ⟨1, 2, "", none⟩, ⟨2, 3, "string", none⟩,
           ⟨3, 4, "string", none⟩], ["root", "string"]⟩]) := by
    decide +kernel
  have otherStart : quotingWordsReversed.compile.toOption.map Language.start =
      some 1 := by
    decide +kernel
  obtain ⟨language, isLanguage, isEvaluated⟩ := Option.map_eq_some_iff.mp evaluated
  obtain ⟨other, isOther, isOtherStart⟩ := Option.map_eq_some_iff.mp otherStart
  obtain ⟨start_eq, lines_eq⟩ := Prod.mk.inj isEvaluated
  have compiled := toOption_eq_some_iff.mp isLanguage
  have otherCompiled := toOption_eq_some_iff.mp isOther
  refine ⟨language, other, compiled, otherCompiled, ?_, ?_, lines_eq⟩
  · rw [start_eq, isOtherStart]
    decide
  · exact agree.2 language other compiled otherCompiled _

end Grammar

end LineLexer
