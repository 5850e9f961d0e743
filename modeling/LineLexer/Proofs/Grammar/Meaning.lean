import LineLexer.Language.Compile
import LineLexer.Token

/-!
# What a grammar means

A grammar can be read as it stands: states and classes keep their names, includes are
followed where they stand, and patterns, brackets and word sets are looked up when they
are needed.  `Grammar.Reads` says in this way which tokens a line has and which states are
active at its end.  Nothing in it refers to a language that has been made from the
grammar, and patterns mean what their reader says.
-/

namespace LineLexer

/-- A token with the full name of its class. -/
structure NamedToken where
  start : Nat
  stop : Nat
  className : String
  side : Option Side
  deriving DecidableEq, Repr

/-- The names of the active states, from the bottom to the top, after a transition. -/
def Transition.applyTo (names : List String) : Option Transition → List String
  | none => names
  | some (.push target) => names ++ [plainName target]
  | some .pop => if names.length ≤ 1 then names else names.dropLast
  | some .popAll => names.take 1

namespace Grammar

/-- The number of characters that a pattern, as it is written, matches at the start of a
text. -/
def matchLength? (grammar : Grammar) (reader : PatternReader) (pattern : String)
    (text : List Char) : Option Nat :=
  match reader grammar.ignoreCase pattern with
  | .ok matcher => matcher.matchLength? text
  | .error _ => none

/-- Whether a guard asks for the words of a set, and the set has a word with the given
key. -/
def listsKey (grammar : Grammar) (key : String) : Guard → Bool
  | .inSet setName =>
      ((grammar.wordSets.get? setName).getD []).any fun word =>
        grammar.wordKey word == key
  | .otherwise => false

/-- The class of the first arm whose set has a word with the given key. -/
def wordClass? (grammar : Grammar) (arms : List (Guard × String))
    (key : String) : Option String :=
  (arms.find? fun arm => grammar.listsKey key arm.1).map Prod.snd

/-- The class that a case table gives a text: that of its sets, or else that of the first
arm that always applies, or else the default class. -/
def caseClass (grammar : Grammar) (arms : List (Guard × String))
    (text : String) : String :=
  match grammar.wordClass? arms (grammar.wordKey text) with
  | some className => className
  | none => (otherwiseClass? arms).getD grammar.defaultClass

/-- The class that the bracket table gives a text, with the side of the first pair that
has the text as one of its sides. -/
def bracketClass (grammar : Grammar) (text : String) : String × Option Side :=
  match grammar.brackets.find? fun pair =>
    pair.opening == text || pair.closing == text with
  | some pair => (pair.className,
      some (if pair.opening = text then .opening else .closing))
  | none => (grammar.defaultClass, none)

/-- The base name of the class that an emission gives a text, and the side of a
bracket. -/
def emitted (grammar : Grammar) (emission : Emission) (text : String) :
    String × Option Side :=
  match emission with
  | .token className => (className, none)
  | .brackets => grammar.bracketClass text
  | .cases arms => (grammar.caseClass arms text, none)

/-- The token that an emission makes of the text at a byte offset. -/
def tokenOf (grammar : Grammar) (offset : Nat) (emission : Emission) (text : List Char) :
    NamedToken where
  start := offset
  stop := offset + Text.byteLength text
  className :=
    ClassNames.fullNameOf grammar.postfixText
      (grammar.emitted emission (String.ofList text)).1
  side := (grammar.emitted emission (String.ofList text)).2

/-- Walking some entries in order, and those of included states on the spot, leads to a
choice: the action of the first rule that matches some of the text, with the number of
characters that it matches, or nothing. -/
inductive Selects (grammar : Grammar) (reader : PatternReader) (text : List Char) :
    List Entry → (choice : Option (Action × Nat)) → Prop where
  | nil : Selects grammar reader text [] none
  | hit {pattern : String} {action : Action} {entries : List Entry} {count : Nat}
      (isMatch : grammar.matchLength? reader pattern text = some count)
      (positive : 0 < count) :
      Selects grammar reader text (.rule pattern action :: entries) (some (action, count))
  | pass {pattern : String} {action : Action} {entries : List Entry}
      {choice : Option (Action × Nat)}
      (noText : ∀ count, grammar.matchLength? reader pattern text = some count →
        count = 0)
      (others : Selects grammar reader text entries choice) :
      Selects grammar reader text (.rule pattern action :: entries) choice
  | inside {target : String} {entries innerEntries : List Entry} {chosen : Action × Nat}
      (isEntries : grammar.states.get? (plainName target) = some innerEntries)
      (inner : Selects grammar reader text innerEntries (some chosen)) :
      Selects grammar reader text (.include target :: entries) (some chosen)
  | past {target : String} {entries innerEntries : List Entry}
      {choice : Option (Action × Nat)}
      (isEntries : grammar.states.get? (plainName target) = some innerEntries)
      (inner : Selects grammar reader text innerEntries none)
      (others : Selects grammar reader text entries choice) :
      Selects grammar reader text (.include target :: entries) choice

/-- The entries of the innermost of the active states. -/
def topEntries? (grammar : Grammar) (names : List String) : Option (List Entry) :=
  names.getLast?.bind grammar.states.get?

/-- Reading `rest`, the end of a line from a byte offset on, with the active states
`names` gives the tokens and leaves the states `endNames` active. -/
inductive Reads (grammar : Grammar) (reader : PatternReader) :
    (offset : Nat) → (rest : List Char) → (names : List String) → List NamedToken →
      (endNames : List String) → Prop where
  | finished {offset : Nat} {names : List String} :
      Reads grammar reader offset [] names [] names
  | matched {offset count : Nat} {rest : List Char} {names endNames : List String}
      {entries : List Entry} {action : Action} {tokens : List NamedToken}
      (nonempty : rest ≠ []) (isTop : grammar.topEntries? names = some entries)
      (selects : grammar.Selects reader rest entries (some (action, count)))
      (others : Reads grammar reader (offset + Text.byteLength (rest.take count))
        (rest.drop count) (Transition.applyTo names action.transition) tokens endNames) :
      Reads grammar reader offset rest names
        (grammar.tokenOf offset action.emission (rest.take count) :: tokens) endNames
  | unmatched {offset : Nat} {char : Char} {rest : List Char}
      {names endNames : List String} {entries : List Entry} {tokens : List NamedToken}
      (isTop : grammar.topEntries? names = some entries)
      (selects : grammar.Selects reader (char :: rest) entries none)
      (others : Reads grammar reader
        (offset + char.utf8Size) rest names tokens endNames) :
      Reads grammar reader offset (char :: rest) names
        (grammar.tokenOf offset (.token grammar.defaultClass) [char] :: tokens) endNames

/-- There is at most one choice. -/
theorem Selects.unique {grammar : Grammar} {reader : PatternReader} {text : List Char}
    {entries : List Entry} {choice other : Option (Action × Nat)}
    (selects : grammar.Selects reader text entries choice)
    (selectsOther : grammar.Selects reader text entries other) : choice = other := by
  induction selects generalizing other with
  | nil =>
      cases selectsOther
      rfl
  | hit isMatch positive =>
      cases selectsOther with
      | hit isOther _ =>
          rw [isMatch, Option.some.injEq] at isOther
          rw [isOther]
      | pass noText _ =>
          have := noText _ isMatch
          omega
  | pass noText others ih =>
      cases selectsOther with
      | hit isMatch positive =>
          have := noText _ isMatch
          omega
      | pass _ selectsOther => exact ih selectsOther
  | inside isEntries inner ih =>
      cases selectsOther with
      | inside isOther inner =>
          rw [isEntries, Option.some.injEq] at isOther
          subst isOther
          exact ih inner
      | past isOther inner _ =>
          rw [isEntries, Option.some.injEq] at isOther
          subst isOther
          exact absurd (ih inner) (by simp)
  | past isEntries inner others innerIH othersIH =>
      cases selectsOther with
      | inside isOther inner =>
          rw [isEntries, Option.some.injEq] at isOther
          subst isOther
          exact absurd (innerIH inner) (by simp)
      | past _ _ selectsOther => exact othersIH selectsOther

/-- There is at most one choice with given active states. -/
theorem Selects.unique_of_topEntries? {grammar : Grammar} {reader : PatternReader}
    {text : List Char} {names : List String} {entries otherEntries : List Entry}
    {choice other : Option (Action × Nat)}
    (isTop : grammar.topEntries? names = some entries)
    (isOtherTop : grammar.topEntries? names = some otherEntries)
    (selects : grammar.Selects reader text entries choice)
    (selectsOther : grammar.Selects reader text otherEntries other) :
      choice = other := by
  rw [isTop, Option.some.injEq] at isOtherTop
  subst isOtherTop
  exact selects.unique selectsOther

/-- There is at most one reading. -/
theorem Reads.unique {grammar : Grammar} {reader : PatternReader} {offset : Nat}
    {rest : List Char} {names endNames otherNames : List String}
    {tokens otherTokens : List NamedToken}
    (reads : grammar.Reads reader offset rest names tokens endNames)
    (readsOther : grammar.Reads reader offset rest names otherTokens otherNames) :
    tokens = otherTokens ∧ endNames = otherNames := by
  induction reads generalizing otherTokens otherNames with
  | finished =>
      cases readsOther with
      | finished => exact ⟨rfl, rfl⟩
      | matched nonempty => exact absurd rfl nonempty
  | matched nonempty isTop selects others ih =>
      cases readsOther with
      | finished => exact absurd rfl nonempty
      | matched _ isOtherTop selectsOther othersOther =>
          have same := Selects.unique_of_topEntries? isTop isOtherTop selects selectsOther
          obtain ⟨rfl, rfl⟩ := Prod.mk.inj (Option.some.inj same)
          obtain ⟨rfl, rfl⟩ := ih othersOther
          exact ⟨rfl, rfl⟩
      | unmatched isOtherTop selectsOther _ =>
          have same := Selects.unique_of_topEntries? isTop isOtherTop selects selectsOther
          exact absurd same (by simp)
  | unmatched isTop selects others ih =>
      cases readsOther with
      | matched _ isOtherTop selectsOther _ =>
          have same := Selects.unique_of_topEntries? isTop isOtherTop selects selectsOther
          exact absurd same (by simp)
      | unmatched _ _ othersOther =>
          obtain ⟨rfl, rfl⟩ := ih othersOther
          exact ⟨rfl, rfl⟩

end Grammar

end LineLexer
