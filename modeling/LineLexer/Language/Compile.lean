import LineLexer.Language.Basic
import LineLexer.Language.Expansion
import LineLexer.Text.LowerCase

/-!
# Compiling grammars

Compiling turns a grammar into a language or reports the first defect of the grammar.
Defects are looked for in a fixed order: the start state, the number of states, the
brackets, and then each state in order of declaration, first all its includes and then its
rules one by one; in a rule the pattern comes before the classes and those before the
state that it enters.

Which patterns there are and what they match is left to the reader of patterns.  The
programs run with `Pattern.read`.
-/

namespace LineLexer

/-- The number of states that can be told apart. -/
def stateLimit : Nat := 65535

/-- Whether a bracket pair lacks a side or a class. -/
def BracketPair.isIncomplete (pair : BracketPair) : Bool :=
  pair.opening.isEmpty || pair.closing.isEmpty || pair.className.isEmpty

/-- The classes that an emission names, in order. -/
def Emission.classNames : Emission → List String
  | token className => [className]
  | brackets => []
  | cases arms => arms.map Prod.snd

namespace Grammar

/-- The form in which a word is compared with others. -/
def wordKey (grammar : Grammar) (word : String) : String :=
  if grammar.ignoreCase then Text.lowerCase word else word

/-- Every state with the rules that it stands for, or with the defect in its includes. -/
def expansions (grammar : Grammar) : List (String × Except Defect (List PlacedRule)) :=
  grammar.states.keys.map fun state => (state, grammar.expand state)

/-- The base names of all classes, in order of first use: that of unmatched text, those of
the brackets, and those of the rules of each state. -/
def classBases (grammar : Grammar) : List String :=
  grammar.defaultClass :: grammar.brackets.map BracketPair.className ++
    grammar.expansions.flatMap fun expansion =>
      match expansion.2 with
      | .ok rules => rules.flatMap (·.action.emission.classNames)
      | .error _ => []

/-- The classes of the grammar. -/
def classTable (grammar : Grammar) : ClassNames :=
  .ofList grammar.postfixText grammar.classBases

/-- Adds the words of an arm's set to a look-up table; a word that is there already keeps
its class. -/
def addWords (grammar : Grammar) (classIndex : ClassIndex)
    (classOf : Std.TreeMap String ClassIndex) (words : List String) :
    Std.TreeMap String ClassIndex :=
  words.foldl (fun classOf word =>
    classOf.insertIfNew (grammar.wordKey word) classIndex) classOf

/-- The number of a class that the grammar uses. -/
def classIndexIn (classes : ClassNames) (base : String) : ClassIndex :=
  (classes.index? base).getD 0

/-- The look-up table for the arms of a case table with word sets, in order. -/
def caseWords (grammar : Grammar) (classes : ClassNames) (rule : PlacedRule) :
    List (Guard × String) → Std.TreeMap String ClassIndex →
      Except Defect (Std.TreeMap String ClassIndex)
  | [], classOf => .ok classOf
  | (.otherwise, _) :: arms, classOf => grammar.caseWords classes rule arms classOf
  | (.inSet setName, className) :: arms, classOf =>
      match grammar.wordSets.get? setName with
      | none => .error (.unknownWordSet rule.originName rule.pattern setName)
      | some words =>
          grammar.caseWords classes rule arms
            (grammar.addWords (classIndexIn classes className) classOf words)

/-- The class of the first arm that always applies. -/
def otherwiseClass? (arms : List (Guard × String)) : Option String :=
  (arms.find? fun arm => arm.1 == .otherwise).map Prod.snd

def classifier (grammar : Grammar) (classes : ClassNames) (rule : PlacedRule) :
    Except Defect Classifier :=
  match rule.action.emission with
  | .token className => .ok (.token (classIndexIn classes className))
  | .brackets =>
      if grammar.brackets.isEmpty then
        .error (.missingBrackets rule.originName rule.pattern)
      else .ok .brackets
  | .cases arms => do
      let classOf ← grammar.caseWords classes rule arms ∅
      let otherwise := (otherwiseClass? arms).getD grammar.defaultClass
      return .cases ⟨classOf, classIndexIn classes otherwise⟩

def stackChange (grammar : Grammar) (rule : PlacedRule) :
    Except Defect (Option StackChange) :=
  match rule.action.transition with
  | none => .ok none
  | some .pop => .ok (some .pop)
  | some .popAll => .ok (some .popAll)
  | some (.push target) =>
      match grammar.states.position? (plainName target) with
      | some position => .ok (some (.push (StateIndex.ofPosition position)))
      | none => .error (.unknownPushTarget rule.originName rule.pattern
          (plainName target))

def compileRule (grammar : Grammar) (reader : PatternReader) (classes : ClassNames)
    (rule : PlacedRule) : Except Defect Rule := do
  let pattern ← (reader grammar.ignoreCase rule.pattern).mapError
    (.invalidPattern rule.originName rule.pattern)
  let classifier ← grammar.classifier classes rule
  let change ← grammar.stackChange rule
  return {
    patternText := rule.pattern
    action := rule.action
    origin := rule.origin
    pattern := pattern
    classifier := classifier
    change := change }

def compileState (grammar : Grammar) (reader : PatternReader) (classes : ClassNames)
    (expansion : String × Except Defect (List PlacedRule)) : Except Defect LexState := do
  let placedRules ← expansion.2
  let rules ← placedRules.mapM (grammar.compileRule reader classes)
  return ⟨expansion.1, rules⟩

/-- The language of a grammar whose patterns are read by `reader`, or the first defect of
the grammar. -/
def compile (grammar : Grammar) (reader : PatternReader := Pattern.read) :
    Except Defect Language :=
  match grammar.states.position? grammar.startName with
  | none => .error (.missingState grammar.startName)
  | some position =>
      if stateLimit < grammar.states.size then .error (.tooManyStates grammar.states.size)
      else
        match grammar.brackets.find? (·.isIncomplete) with
        | some pair => .error (.invalidBracket pair.opening pair.closing)
        | none => do
            let classes := grammar.classTable
            let states ← grammar.expansions.mapM (grammar.compileState reader classes)
            return {
              name := grammar.name
              ignoreCase := grammar.ignoreCase
              classes := classes
              states := states.toArray
              start := StateIndex.ofPosition position
              defaultClass := classIndexIn classes grammar.defaultClass
              brackets := grammar.brackets.map fun pair =>
                ⟨pair.opening, pair.closing, classIndexIn classes pair.className⟩ }

end Grammar

end LineLexer
