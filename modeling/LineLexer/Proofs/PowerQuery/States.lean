import LineLexer.Catalog.PowerQuery
import LineLexer.Proofs.Pattern.FirstChars
import LineLexer.Proofs.Pattern.Runs
import LineLexer.Proofs.Scan.Reading
import LineLexer.Proofs.Scan.Region

/-!
# The states of Power Query

What the scan of a Power Query document does at the characters that open and close strings
and comments, and inside of them, is read off the grammar.  Outside of strings and
comments the rules that come before those of comments and strings are passed over by the
first character alone.
-/

namespace LineLexer

namespace Grammar

variable {grammar : Grammar} {reader : PatternReader}

/-- Whether an entry is a rule whose matches never begin with the character. -/
def passesOver (grammar : Grammar) (char : Char) : Entry → Bool
  | .rule pattern _ =>
      match Pattern.parse grammar.ignoreCase pattern with
      | .ok pattern => !pattern.firstChars.mem char
      | .error _ => true
  | .include _ => false

theorem Selects.pass_of_none {text : List Char} {pattern : String} {action : Action}
    {entries : List Entry} {choice : Option (Action × Nat)}
    (noMatch : grammar.matchLength? reader pattern text = none)
    (others : grammar.Selects reader text entries choice) :
    grammar.Selects reader text (.rule pattern action :: entries) choice :=
  .pass (by simp [noMatch]) others

/-- Rules whose matches begin with other characters can be left out. -/
theorem selects_append_of_passesOver {char : Char} {rest : List Char}
    {front back : List Entry} {choice : Option (Action × Nat)}
    (passes : front.all (grammar.passesOver char) = true)
    (selects : grammar.Selects Pattern.read (char :: rest) back choice) :
    grammar.Selects Pattern.read (char :: rest) (front ++ back) choice := by
  induction front with
  | nil => exact selects
  | cons entry front ih =>
      rw [List.all_cons, Bool.and_eq_true] at passes
      obtain ⟨passesEntry, passesFront⟩ := passes
      cases entry with
      | «include» target => simp [passesOver] at passesEntry
      | rule pattern action =>
          refine .pass (fun count matched => ?_) (ih passesFront)
          rw [Grammar.matchLength?, Pattern.read] at matched
          rw [passesOver] at passesEntry
          cases parsed : Pattern.parse grammar.ignoreCase pattern with
          | error fault =>
              rw [parsed] at matched
              cases matched
          | ok pattern =>
              rw [parsed] at matched passesEntry
              exact Pattern.matchLength?_of_not_mem_firstChars
                (by simpa using passesEntry) matched

end Grammar

theorem Language.top_initialStack (language : Language) :
    language.initialStack.top = language.start :=
  rfl

theorem Language.stackNames_initialStack (language : Language) :
    language.stackNames language.initialStack = [language.stateName language.start] :=
  rfl

theorem Language.stackNames_push (language : Language) (stack : ActiveStates)
    (state : StateIndex) :
    language.stackNames (stack.push state) =
      language.stackNames stack ++ [language.stateName state] := by
  rw [stackNames, ActiveStates.toList_push, List.map_append, List.map_singleton,
    stackNames]

namespace PowerQuery

open Pattern Grammar

theorem isCompiled : grammar.IsCompiled Pattern.read language :=
  isCompiled_of_compile compile_grammar

/-! ### Positions and entries -/

/-- The number of the state outside of comments and strings. -/
def rootState : StateIndex := 0

def commentState : StateIndex := 3

/-- The number of the state inside of a string. -/
def stringState : StateIndex := 5

theorem isPosition_root : grammar.states.position? "root" = some rootState := by rfl

theorem isPosition_comment :
    grammar.states.position? "comment" = some commentState := by rfl

theorem isPosition_string : grammar.states.position? "string" = some stringState := by rfl

theorem start_eq : language.start = rootState := by
  have isStart : grammar.states.position? "root" = some language.start := isCompiled.start
  exact Option.some.inj (isStart.symm.trans isPosition_root)

theorem top_initialStack : language.initialStack.top = rootState :=
  (Language.top_initialStack language).trans start_eq

def commentEntries : List Entry :=
  [.rule "\\*/" (Action.ofClass "comment").pop, .rule "." (.ofClass "comment")]

def stringEntries : List Entry :=
  [.rule "\"\"" (.ofClass "string.escape"), .rule "\"" (Action.ofClass "string").pop,
    .rule "." (.ofClass "string")]

def commentsEntries : List Entry :=
  [.rule "/\\*" ((Action.ofClass "comment").push "@comment"),
    .rule "//+.*" (.ofClass "comment")]

theorem isEntries_root : grammar.states.get? "root" = some rootEntries := by rfl

theorem isEntries_comments :
    grammar.states.get? "comments" = some commentsEntries := by rfl

theorem isEntries_strings :
    grammar.states.get? "strings" =
      some [.rule "\"" ((Action.ofClass "string").push "@string")] := by rfl

theorem isEntries_comment : grammar.states.get? "comment" = some commentEntries := by rfl

theorem isEntries_string : grammar.states.get? "string" = some stringEntries := by rfl

/-! ### Names -/

theorem className_classIndexOf {base : String} (member : base ∈ grammar.classBases) :
    language.className (language.classIndexOf base) =
      ClassNames.fullNameOf ".pq" base := by
  have isClass := isClass_classIndexIn member
  rw [isCompiled.classIndexOf_eq isClass]
  exact isCompiled.className_eq isClass

theorem baseName_classIndexOf {base : String} (member : base ∈ grammar.classBases) :
    language.baseName (language.classIndexOf base) = base := by
  have isClass := isClass_classIndexIn member
  rw [isCompiled.classIndexOf_eq isClass]
  exact isCompiled.baseName_eq isClass

theorem mem_classBases :
    "comment" ∈ grammar.classBases ∧ "string" ∈ grammar.classBases ∧
      "string.escape" ∈ grammar.classBases := by
  decide +kernel

theorem className_comment :
    language.className (language.classIndexOf "comment") = "comment.pq" :=
  className_classIndexOf mem_classBases.1

theorem className_string :
    language.className (language.classIndexOf "string") = "string.pq" :=
  className_classIndexOf mem_classBases.2.1

theorem className_escape :
    language.className (language.classIndexOf "string.escape") = "string.escape.pq" :=
  className_classIndexOf mem_classBases.2.2

theorem stackNames_initialStack :
    language.stackNames language.initialStack = ["root"] := by
  rw [Language.stackNames_initialStack, start_eq,
    (isCompiled.isState isPosition_root).stateName_eq]

theorem stackNames_push {stack : ActiveStates} {name : String} {state : StateIndex}
    (isPosition : grammar.states.position? name = some state) :
    language.stackNames (stack.push state) = language.stackNames stack ++ [name] := by
  rw [Language.stackNames_push, (isCompiled.isState isPosition).stateName_eq]

/-! ### Patterns -/

def dot : CharSet :=
  .compl (.single '\n')

@[simp]
theorem mem_dot {char : Char} : dot.mem char = !(char == '\n') := by
  simp [dot, CharSet.mem]

section Patterns

variable {text : List Char}

theorem matchLength?_commentOpening :
    grammar.matchLength? Pattern.read "/\\*" text =
      if ['/', '*'].isPrefixOf text then some 2 else none :=
  matchLength?_literal ['/', '*'] text

theorem matchLength?_commentClosing :
    grammar.matchLength? Pattern.read "\\*/" text =
      if ['*', '/'].isPrefixOf text then some 2 else none :=
  matchLength?_literal ['*', '/'] text

theorem matchLength?_quote :
    grammar.matchLength? Pattern.read "\"" text =
      if ['"'].isPrefixOf text then some 1 else none :=
  matchLength?_literal ['"'] text

theorem matchLength?_quotes :
    grammar.matchLength? Pattern.read "\"\"" text =
      if ['"', '"'].isPrefixOf text then some 2 else none :=
  matchLength?_literal ['"', '"'] text

theorem matchLength?_dot {char : Char} {rest : List Char} (noLineFeed : char ≠ '\n') :
    grammar.matchLength? Pattern.read "." (char :: rest) = some 1 := by
  have isOne : grammar.matchLength? Pattern.read "." (char :: rest) =
      (one dot).matchLength? (char :: rest) := by
    rfl
  rw [isOne, matchLength?_one, mem_dot, beq_eq_false_iff_ne.mpr noLineFeed]
  rfl

theorem matchLength?_lineComment {rest : List Char} (noLineFeed : '\n' ∉ rest) :
    grammar.matchLength? Pattern.read "//+.*" ('/' :: '/' :: rest) =
      some (rest.length + 2) := by
  refine @matchLength?_one_runs (.single '/') (.single '/') dot '/' '/' rest
    (by simp) (by simp)
    fun char member => ?_
  rw [mem_dot, Bool.not_eq_true', beq_eq_false_iff_ne]
  rintro rfl
  exact noLineFeed (by simpa using member)

end Patterns

/-! ### Choices -/

theorem rootEntries_passOver :
    (rootEntries.take 6).all (grammar.passesOver '"') = true ∧
      (rootEntries.take 6).all (grammar.passesOver '/') = true := by
  decide +kernel

def whitespaceEntries : List Entry :=
  [.rule "\\s+" (.ofClass "white")]

theorem whitespaceEntries_passOver :
    whitespaceEntries.all (grammar.passesOver '"') = true ∧
      whitespaceEntries.all (grammar.passesOver '/') = true := by
  decide +kernel

theorem commentsEntries_passOver :
    commentsEntries.all (grammar.passesOver '"') = true := by
  decide +kernel

section Choices

variable {char : Char} {rest : List Char}

/-- Where the first rules and those for white space are passed over, the rules for
comments and strings decide. -/
theorem selects_root {choice : Option (Action × Nat)}
    (passesFirst : (rootEntries.take 6).all (grammar.passesOver char) = true)
    (passesBlank : whitespaceEntries.all (grammar.passesOver char) = true)
    (selects : grammar.Selects Pattern.read (char :: rest) (rootEntries.drop 7) choice) :
    grammar.Selects Pattern.read (char :: rest) rootEntries choice := by
  have passed : grammar.Selects Pattern.read (char :: rest) whitespaceEntries none := by
    simpa using selects_append_of_passesOver passesBlank .nil
  have parts : rootEntries =
      rootEntries.take 6 ++ .includeNamed "@whitespace" :: rootEntries.drop 7 := rfl
  rw [parts]
  exact selects_append_of_passesOver passesFirst (.past (by rfl) passed selects)

theorem selects_root_string :
    grammar.Selects Pattern.read ('"' :: rest) rootEntries
      (some (⟨.token "string", some (.push "string")⟩, 1)) := by
  refine selects_root rootEntries_passOver.1 whitespaceEntries_passOver.1 ?_
  have passed : grammar.Selects Pattern.read ('"' :: rest) commentsEntries none := by
    simpa using selects_append_of_passesOver commentsEntries_passOver .nil
  refine .past isEntries_comments passed (.inside isEntries_strings ?_)
  exact .hit (by rw [matchLength?_quote]; rfl) Nat.one_pos

theorem selects_root_comment :
    grammar.Selects Pattern.read ('/' :: '*' :: rest) rootEntries
      (some (⟨.token "comment", some (.push "comment")⟩, 2)) := by
  refine selects_root rootEntries_passOver.2 whitespaceEntries_passOver.2 ?_
  exact .inside isEntries_comments
    (.hit (by rw [matchLength?_commentOpening]; rfl) Nat.two_pos)

theorem selects_root_lineComment (noLineFeed : '\n' ∉ rest) :
    grammar.Selects Pattern.read ('/' :: '/' :: rest) rootEntries
      (some (⟨.token "comment", none⟩, rest.length + 2)) := by
  refine selects_root rootEntries_passOver.2 whitespaceEntries_passOver.2 ?_
  refine .inside isEntries_comments (.pass_of_none ?_
    (.hit (matchLength?_lineComment noLineFeed) (Nat.succ_pos _)))
  rw [matchLength?_commentOpening]
  rfl

theorem selects_comment_closing :
    grammar.Selects Pattern.read ('*' :: '/' :: rest) commentEntries
      (some (⟨.token "comment", some .pop⟩, 2)) :=
  .hit (by rw [matchLength?_commentClosing]; rfl) Nat.two_pos

/-- Inside of a comment every character that does not begin its end is a token. -/
theorem selects_comment_char (noLineFeed : char ≠ '\n')
    (notClosing : ['*', '/'].isPrefixOf (char :: rest) = false) :
    grammar.Selects Pattern.read (char :: rest) commentEntries
      (some (⟨.token "comment", none⟩, 1)) := by
  refine .pass_of_none ?_ (.hit (matchLength?_dot noLineFeed) Nat.one_pos)
  rw [matchLength?_commentClosing, notClosing]
  rfl

theorem selects_string_escape :
    grammar.Selects Pattern.read ('"' :: '"' :: rest) stringEntries
      (some (⟨.token "string.escape", none⟩, 2)) :=
  .hit (by rw [matchLength?_quotes]; rfl) Nat.two_pos

/-- Inside of a string a quote that is not followed by another one closes the string. -/
theorem selects_string_closing (notEscape : rest.head? ≠ some '"') :
    grammar.Selects Pattern.read ('"' :: rest) stringEntries
      (some (⟨.token "string", some .pop⟩, 1)) := by
  refine .pass_of_none ?_ (.hit (by rw [matchLength?_quote]; rfl) Nat.one_pos)
  have notPrefix : ['"', '"'].isPrefixOf ('"' :: rest) = false := by
    cases rest with
    | nil => rfl
    | cons next rest =>
        have other : '"' ≠ next := fun same => notEscape (congrArg some same.symm)
        simp [List.isPrefixOf, other]
  rw [matchLength?_quotes, notPrefix]
  rfl

/-- Inside of a string every other character is a token. -/
theorem selects_string_char (noLineFeed : char ≠ '\n') (notQuote : char ≠ '"') :
    grammar.Selects Pattern.read (char :: rest) stringEntries
      (some (⟨.token "string", none⟩, 1)) := by
  refine .pass_of_none
    ?_ (.pass_of_none ?_ (.hit (matchLength?_dot noLineFeed) Nat.one_pos))
  · rw [matchLength?_quotes]
    simp [List.isPrefixOf_cons_cons, Ne.symm notQuote]
  · rw [matchLength?_quote]
    simp [List.isPrefixOf_cons_cons, Ne.symm notQuote]

end Choices

end PowerQuery

end LineLexer
