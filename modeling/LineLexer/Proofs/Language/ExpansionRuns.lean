import LineLexer.Proofs.Language.Defects

/-!
# How an expansion runs

The expansion of a state is a recursion whose calls share a chain and a list of rules: a
call puts its state on the chain, looks at the entries of the state one by one, calls
itself at an include, and takes its state off again at the end.  Here it runs in steps
that are not bounded in number.  At every moment the chain holds the states of the calls
under way, which are declared, differ from one another and include one another; so there
are never more calls under way than declared states and one.  Every run ends, and with the
result of `Grammar.expand`.
-/

namespace LineLexer

/-- A call that is under way: the state that it expands, and the entries that it has not
looked at. -/
structure ExpansionCall where
  origin : StateIndex
  state : String
  rest : List Entry

/-- What all calls share, the states that are being expanded and the rules that have been
met, and the calls themselves; states and calls with the innermost first. -/
structure ExpansionWork where
  chain : List String
  calls : List ExpansionCall
  rules : List PlacedRule

/-- A moment of an expansion: a call for a state is about to begin, or the innermost call
goes on, or a defect has been met.  When no call is under way the expansion has ended. -/
inductive ExpansionMoment where
  | calling (state : String) (work : ExpansionWork)
  | working (work : ExpansionWork)
  | failed (defect : Defect) (work : ExpansionWork)

/-- The chain, the calls and the rules of a moment. -/
def ExpansionMoment.work : ExpansionMoment → ExpansionWork
  | calling _ work => work
  | working work => work
  | failed _ work => work

/-- The number of calls under way, with the one that is about to begin. -/
def ExpansionMoment.depth : ExpansionMoment → Nat
  | calling _ work => work.calls.length + 1
  | working work => work.calls.length
  | failed _ work => work.calls.length

/-- What has come of an expansion that has ended. -/
def ExpansionMoment.result? : ExpansionMoment → Option (Except Defect (List PlacedRule))
  | working ⟨_, [], rules⟩ => some (.ok rules)
  | failed defect _ => some (.error defect)
  | _ => none

namespace Grammar

/-- The next moment of an expansion, if it has not ended. -/
def expansionStep? (grammar : Grammar) : ExpansionMoment → Option ExpansionMoment
  | .calling state ⟨chain, calls, rules⟩ =>
      if chain.contains state then
        some (.failed (.includeCycle (chain.reverse ++ [state])) ⟨chain, calls, rules⟩)
      else
        match grammar.states.position? state, grammar.states.get? state with
        | some position, some entries =>
            some (.working ⟨state :: chain,
              ⟨.ofPosition position, state, entries⟩ :: calls, rules⟩)
        | _, _ => some (.failed (.missingState state) ⟨chain, calls, rules⟩)
  | .working ⟨_, [], _⟩ => none
  | .working ⟨chain, ⟨_, _, []⟩ :: calls, rules⟩ =>
      some (.working ⟨chain.tail, calls, rules⟩)
  | .working ⟨chain, ⟨origin, state, .rule pattern action :: rest⟩ :: calls, rules⟩ =>
      some (.working ⟨chain, ⟨origin, state, rest⟩ :: calls,
        rules ++ [⟨origin, state, pattern, action⟩]⟩)
  | .working ⟨chain, ⟨origin, state, .include target :: rest⟩ :: calls, rules⟩ =>
      if grammar.states.contains (plainName target) then
        some (.calling (plainName target) ⟨chain, ⟨origin, state, rest⟩ :: calls, rules⟩)
      else
        some (.failed (.unknownInclude state (plainName target))
          ⟨chain, ⟨origin, state, rest⟩ :: calls, rules⟩)
  | .failed _ _ => none

/-- Steps lead from one moment of an expansion to another. -/
def ExpandsTo (grammar : Grammar) : ExpansionMoment → ExpansionMoment → Prop :=
  Relation.ReflTransGen fun moment next => grammar.expansionStep? moment = some next

/-- The moment at which an expansion begins. -/
def expansionStart (state : String) : ExpansionMoment :=
  .calling state ⟨[], [], []⟩

variable {grammar : Grammar} {state target : String} {work : ExpansionWork}
  {moment next : ExpansionMoment} {chain : List String} {calls : List ExpansionCall}
  {rules : List PlacedRule} {origin : StateIndex}

/-! ### The chain -/

/-- The chain holds the states of the calls under way, which differ from one another.
Each includes the next one inside, and each call has entries of its state before it. -/
structure IsSoundWork (grammar : Grammar) (work : ExpansionWork) : Prop where
  chain_eq : work.chain = work.calls.map (·.state)
  nodup : work.chain.Nodup
  isWalk : work.chain.reverse.IsChain grammar.Includes
  ofState : ∀ call ∈ work.calls, ∃ entries, grammar.states.get? call.state =
    some entries ∧ call.rest <:+ entries

/-- A call is made for declared states only, which the innermost state of the chain
includes. -/
def IsSoundMoment (grammar : Grammar) : ExpansionMoment → Prop
  | .calling state work =>
      grammar.IsSoundWork work ∧ state ∈ grammar.states.keys ∧
        (work.chain.reverse ++ [state]).IsChain grammar.Includes
  | .working work => grammar.IsSoundWork work
  | .failed defect work => grammar.IsSoundWork work ∧ ∀ name, defect ≠ .missingState name

theorem isSoundMoment_expansionStart (isDeclared : state ∈ grammar.states.keys) :
    grammar.IsSoundMoment (expansionStart state) :=
  ⟨⟨rfl, .nil, .nil, by simp⟩, isDeclared, .singleton state⟩

theorem IsSoundMoment.isSoundWork (sound : grammar.IsSoundMoment moment) :
    grammar.IsSoundWork moment.work := by
  cases moment with
  | calling state work => exact sound.1
  | working work => exact sound
  | failed defect work => exact sound.1

theorem IsSoundWork.declared (sound : grammar.IsSoundWork work) :
    ∀ state ∈ work.chain, state ∈ grammar.states.keys := by
  intro state member
  rw [sound.chain_eq] at member
  obtain ⟨call, isCall, rfl⟩ := List.mem_map.mp member
  obtain ⟨entries, isEntries, -⟩ := sound.ofState call isCall
  exact OrderedMap.mem_keys_iff_exists_get?.mpr ⟨entries, isEntries⟩

/-- The entries that the innermost call has looked at are gone, and the rest of the work
is as before. -/
theorem IsSoundWork.pass {entries rest : List Entry} {more : List PlacedRule}
    (sound : grammar.IsSoundWork ⟨chain, ⟨origin, state, entries⟩ :: calls, rules⟩)
    (isSuffix : rest <:+ entries) :
    grammar.IsSoundWork ⟨chain, ⟨origin, state, rest⟩ :: calls, more⟩ where
  chain_eq := sound.chain_eq
  nodup := sound.nodup
  isWalk := sound.isWalk
  ofState := by
    obtain ⟨⟨own, isOwn, isRest⟩, others⟩ := List.forall_mem_cons.mp sound.ofState
    exact List.forall_mem_cons.mpr ⟨⟨own, isOwn, isSuffix.trans isRest⟩, others⟩

theorem IsSoundWork.leave {rest : List Entry}
    (sound : grammar.IsSoundWork ⟨chain, ⟨origin, state, rest⟩ :: calls, rules⟩) :
    grammar.IsSoundWork ⟨chain.tail, calls, rules⟩ := by
  obtain ⟨chain_eq, nodup, isWalk, ofState⟩ := sound
  obtain rfl : chain = state :: calls.map (·.state) := chain_eq
  exact ⟨rfl, (List.nodup_cons.mp nodup).2,
    (List.isChain_append.mp (List.reverse_cons ▸ isWalk)).1,
    (List.forall_mem_cons.mp ofState).2⟩

theorem IsSoundWork.enter {entries : List Entry}
    (sound : grammar.IsSoundWork ⟨chain, calls, rules⟩) (isNew : state ∉ chain)
    (isEntries : grammar.states.get? state = some entries)
    (isWalk : (chain.reverse ++ [state]).IsChain grammar.Includes) :
    grammar.IsSoundWork ⟨state :: chain, ⟨origin, state, entries⟩ :: calls, rules⟩ where
  chain_eq := congrArg (state :: ·) sound.chain_eq
  nodup := List.nodup_cons.mpr ⟨isNew, sound.nodup⟩
  isWalk := List.reverse_cons ▸ isWalk
  ofState := List.forall_mem_cons.mpr
    ⟨⟨entries, isEntries, List.suffix_rfl⟩, sound.ofState⟩

/-- The innermost state includes the state of an include that its call comes to. -/
theorem IsSoundWork.isWalk_of_include {rest : List Entry}
    (sound : grammar.IsSoundWork
      ⟨chain, ⟨origin, state, .include target :: rest⟩ :: calls, rules⟩) :
    (chain.reverse ++ [plainName target]).IsChain grammar.Includes := by
  obtain ⟨chain_eq, -, isWalk, ofState⟩ := sound
  obtain ⟨entries, isEntries, isRest⟩ := ofState _ List.mem_cons_self
  have includes : grammar.Includes state (plainName target) :=
    ⟨entries, target, isEntries, isRest.subset List.mem_cons_self, rfl⟩
  obtain rfl : chain = state :: calls.map (·.state) := chain_eq
  rw [List.isChain_append]
  exact ⟨isWalk, .singleton _, by simpa using includes⟩

/-- A step keeps the chain sound. -/
theorem IsSoundMoment.step (sound : grammar.IsSoundMoment moment)
    (isNext : grammar.expansionStep? moment = some next) :
    grammar.IsSoundMoment next := by
  unfold expansionStep? at isNext
  split at isNext
  · rename_i state chain calls rules
    obtain ⟨soundWork, isDeclared, isWalk⟩ := sound
    split at isNext
    · cases isNext
      exact ⟨soundWork, by simp⟩
    · rename_i isNew
      have isNew : state ∉ chain := List.contains_iff_mem.not.mp isNew
      split at isNext
      · rename_i position entries isPosition isEntries
        cases isNext
        exact soundWork.enter isNew isEntries isWalk
      · rename_i missing
        -- A declared state has both a position and entries.
        obtain ⟨position, isPosition⟩ :=
          OrderedMap.mem_keys_iff_exists_position?.mp isDeclared
        obtain ⟨entries, isEntries⟩ := OrderedMap.mem_keys_iff_exists_get?.mp isDeclared
        exact absurd isEntries (missing position entries isPosition)
  · cases isNext
  · cases isNext
    exact IsSoundWork.leave sound
  · cases isNext
    exact IsSoundWork.pass sound (List.suffix_cons _ _)
  · split at isNext
    · rename_i isTarget
      cases isNext
      exact ⟨IsSoundWork.pass sound (List.suffix_cons _ _),
        OrderedMap.contains_iff_mem_keys.mp isTarget, IsSoundWork.isWalk_of_include sound⟩
    · cases isNext
      exact ⟨IsSoundWork.pass sound (List.suffix_cons _ _), by simp⟩
  · cases isNext

/-- The chain is sound throughout a run. -/
theorem IsSoundMoment.run (sound : grammar.IsSoundMoment moment)
    (run : grammar.ExpandsTo moment next) : grammar.IsSoundMoment next := by
  induction run with
  | refl => exact sound
  | tail _ isNext ih => exact ih.step isNext

/-! ### The number of calls -/

theorem IsSoundWork.length_calls_le (sound : grammar.IsSoundWork work) :
    work.calls.length ≤ grammar.states.size := by
  have length_le := length_le_size sound.nodup sound.declared
  rwa [sound.chain_eq, List.length_map] at length_le

theorem IsSoundMoment.depth_le (sound : grammar.IsSoundMoment moment) :
    moment.depth ≤ grammar.states.size + 1 := by
  have length_le := sound.isSoundWork.length_calls_le
  cases moment <;>
    simp only [ExpansionMoment.depth, ExpansionMoment.work] at length_le ⊢ <;> omega

/-! ### The result -/

/-- From the moment the run comes to the result.  After a success the chain and the calls
under way are those of `work`, and the rules of the result have been added to its
rules. -/
def ComesTo (grammar : Grammar) (moment : ExpansionMoment) (work : ExpansionWork) :
    Except Defect (List PlacedRule) → Prop
  | .ok rules =>
      grammar.ExpandsTo moment (.working ⟨work.chain, work.calls, work.rules ++ rules⟩)
  | .error defect => ∃ last, grammar.ExpandsTo moment (.failed defect last)

variable {result : Except Defect (List PlacedRule)}

theorem ComesTo.head (comesTo : grammar.ComesTo next work result)
    (isNext : grammar.expansionStep? moment = some next) :
    grammar.ComesTo moment work result := by
  cases result with
  | ok rules => exact .head isNext comesTo
  | error defect =>
      obtain ⟨last, run⟩ := comesTo
      exact ⟨last, .head isNext run⟩

/-- A run goes on behind a part that has succeeded, and adds the rules of both parts. -/
theorem ComesTo.append {chainAfter : List String} {callsAfter : List ExpansionCall}
    {others : Except Defect (List PlacedRule)}
    (first : grammar.ComesTo moment ⟨chain, calls, rules⟩ result)
    (second : ∀ part, grammar.ComesTo (.working ⟨chain, calls, rules ++ part⟩)
      ⟨chainAfter, callsAfter, rules ++ part⟩ others) :
    grammar.ComesTo moment ⟨chainAfter, callsAfter, rules⟩
      (result >>= fun part => others >>= fun more => .ok (part ++ more)) := by
  cases result with
  | error defect => exact first
  | ok part =>
      have run := second part
      cases others with
      | error defect =>
          obtain ⟨last, run⟩ := run
          exact ⟨last, Relation.ReflTransGen.trans first run⟩
      | ok more =>
          rw [ComesTo, List.append_assoc] at run
          exact Relation.ReflTransGen.trans first run

def expandEntry (grammar : Grammar) (room : Nat) (chain : List String)
    (origin : StateIndex) (state : String) : Entry → Except Defect (List PlacedRule)
  | .rule pattern action => .ok [⟨origin, state, pattern, action⟩]
  | .include target =>
      if grammar.states.contains (plainName target) then
        grammar.expandWithin room chain (plainName target)
      else .error (.unknownInclude state (plainName target))

def expandEntries (grammar : Grammar) (room : Nat) (chain : List String)
    (origin : StateIndex) (state : String) (entries : List Entry) :
    Except Defect (List PlacedRule) := do
  let parts ← entries.mapM (grammar.expandEntry room chain origin state)
  return parts.flatten

theorem expandEntries_cons {room : Nat} {entry : Entry} {entries : List Entry} :
    grammar.expandEntries room chain origin state (entry :: entries) =
      grammar.expandEntry room chain origin state entry >>= fun part =>
        grammar.expandEntries room chain origin state entries >>= fun more =>
          .ok (part ++ more) := by
  rw [expandEntries, List.mapM_cons]
  cases grammar.expandEntry room chain origin state entry with
  | error defect => rfl
  | ok part =>
      cases isRest : entries.mapM (grammar.expandEntry room chain origin state) with
      | error defect =>
          simp only [expandEntries, isRest]
          rfl
      | ok parts =>
          simp only [expandEntries, isRest]
          rfl

theorem expandWithin_succ_of_notMem {room position : Nat} {entries : List Entry}
    (isNew : state ∉ chain) (isPosition : grammar.states.position? state = some position)
    (isEntries : grammar.states.get? state = some entries) :
    grammar.expandWithin (room + 1) chain state =
      grammar.expandEntries room (state :: chain)
        (.ofPosition position) state entries := by
  rw [expandWithin, if_neg (List.contains_iff_mem.not.mpr isNew), isPosition, isEntries]
  have entry_eq : grammar.expandEntry room (state :: chain) (.ofPosition position) state =
      fun entry =>
        match entry with
        | .rule pattern action => .ok [⟨.ofPosition position, state, pattern, action⟩]
        | .include target =>
            if grammar.states.contains (plainName target) then
              grammar.expandWithin room (state :: chain) (plainName target)
            else .error (.unknownInclude state (plainName target)) := by
    funext entry
    cases entry <;> rfl
  exact congrArg (fun compute => do return (← entries.mapM compute).flatten) entry_eq.symm

section Calls

variable {room : Nat} {entry : Entry} {entries : List Entry}

/-- An entry is passed with its rules added, if the call that it may make comes to its
result. -/
theorem comesTo_expandEntry
    (sound : grammar.IsSoundWork
      ⟨chain, ⟨origin, state, entry :: entries⟩ :: calls, rules⟩)
    (inner : ∀ target, grammar.IsSoundMoment
      (.calling target ⟨chain, ⟨origin, state, entries⟩ :: calls, rules⟩) →
      grammar.ComesTo (.calling target ⟨chain, ⟨origin, state, entries⟩ :: calls, rules⟩)
        ⟨chain, ⟨origin, state, entries⟩ :: calls, rules⟩
        (grammar.expandWithin room chain target)) :
    grammar.ComesTo (.working ⟨chain, ⟨origin, state, entry :: entries⟩ :: calls, rules⟩)
      ⟨chain, ⟨origin, state, entries⟩ :: calls, rules⟩
        (grammar.expandEntry room chain origin state entry) := by
  cases entry with
  | rule pattern action => exact Relation.ReflTransGen.single rfl
  | «include» target =>
      by_cases isTarget : grammar.states.contains (plainName target) = true
      · rw [expandEntry, if_pos isTarget]
        refine ComesTo.head (inner (plainName target) ?_)
          (by rw [expansionStep?, if_pos isTarget])
        exact ⟨sound.pass (List.suffix_cons _ _),
          OrderedMap.contains_iff_mem_keys.mp isTarget, sound.isWalk_of_include⟩
      · rw [expandEntry, if_neg isTarget]
        exact ⟨_, .single (by rw [expansionStep?, if_neg isTarget])⟩

/-- A call passes its entries one by one, and then takes its state off the chain. -/
theorem comesTo_expandEntries
    (sound : grammar.IsSoundWork ⟨chain, ⟨origin, state, entries⟩ :: calls, rules⟩)
    (inner : ∀ target calls rules,
      grammar.IsSoundMoment (.calling target ⟨chain, calls, rules⟩) →
      grammar.ComesTo (.calling target ⟨chain, calls, rules⟩) ⟨chain, calls, rules⟩
        (grammar.expandWithin room chain target)) :
    grammar.ComesTo (.working ⟨chain, ⟨origin, state, entries⟩ :: calls, rules⟩)
    ⟨chain.tail, calls, rules⟩
      (grammar.expandEntries room chain origin state entries) := by
  induction entries generalizing rules with
  | nil =>
      have isResult : grammar.expandEntries room chain origin state [] = .ok [] := rfl
      rw [isResult, ComesTo, List.append_nil]
      exact .single rfl
  | cons entry entries ih =>
      rw [expandEntries_cons]
      refine ComesTo.append (comesTo_expandEntry sound fun target => inner target _ _)
        fun part => ?_
      exact ih (sound.pass (List.suffix_cons _ _))

/-- A call for a state of the chain reports the circle that it has found. -/
theorem comesTo_of_mem (member : state ∈ chain) :
    grammar.ComesTo (.calling state ⟨chain, calls, rules⟩) work
      (grammar.expandWithin room chain state) := by
  rw [expandWithin_of_mem member]
  exact ⟨_, .single (by rw [expansionStep?, if_pos (List.contains_iff_mem.mpr member)])⟩

/-- A call comes to the result of the expansion of its state.  The room cannot be too
small for the chain. -/
theorem comesTo_expandWithin (enough : grammar.states.size ≤ chain.length + room)
    (sound : grammar.IsSoundMoment (.calling state ⟨chain, calls, rules⟩)) :
    grammar.ComesTo (.calling state ⟨chain, calls, rules⟩) ⟨chain, calls, rules⟩
      (grammar.expandWithin room chain state) := by
  induction room generalizing state chain calls rules with
  | zero =>
      by_cases member : state ∈ chain
      · exact comesTo_of_mem member
      · -- Without room the chain would have to hold every declared state.
        have length_le := length_le_size (List.nodup_cons.mpr ⟨member, sound.1.nodup⟩)
          (List.forall_mem_cons.mpr ⟨sound.2.1, sound.1.declared⟩)
        rw [List.length_cons] at length_le
        omega
  | succ room ih =>
      by_cases member : state ∈ chain
      · exact comesTo_of_mem member
      · obtain ⟨soundWork, isDeclared, isWalk⟩ := sound
        obtain ⟨position, isPosition⟩ :=
          OrderedMap.mem_keys_iff_exists_position?.mp isDeclared
        obtain ⟨entries, isEntries⟩ := OrderedMap.mem_keys_iff_exists_get?.mp isDeclared
        have isNext : grammar.expansionStep? (.calling state ⟨chain, calls, rules⟩) =
            some (.working ⟨state :: chain,
              ⟨.ofPosition position, state, entries⟩ :: calls, rules⟩) := by
          rw [expansionStep?, if_neg (List.contains_iff_mem.not.mpr member), isPosition,
            isEntries]
        rw [expandWithin_succ_of_notMem member isPosition isEntries]
        refine ComesTo.head
          (comesTo_expandEntries (soundWork.enter member isEntries isWalk) ?_) isNext
        intro target calls rules sound
        refine ih ?_ sound
        rw [List.length_cons]
        omega

end Calls

theorem IsSoundMoment.comesTo (sound : grammar.IsSoundMoment (.calling state work)) :
    grammar.ComesTo (.calling state work) work
      (grammar.expandWithin (grammar.states.size - work.chain.length) work.chain state) :=
  comesTo_expandWithin (by omega) sound

/-- The expansion of a declared state ends, with the result of `Grammar.expand`. -/
theorem exists_result_of_expansionStart (isDeclared : state ∈ grammar.states.keys) :
    ∃ last, grammar.ExpandsTo (expansionStart state) last ∧
      grammar.expansionStep? last = none ∧
      last.result? = some (grammar.expand state) := by
  have comesTo : grammar.ComesTo (expansionStart state) ⟨[], [], []⟩
      (grammar.expand state) :=
    (isSoundMoment_expansionStart isDeclared).comesTo
  cases isResult : grammar.expand state with
  | ok rules =>
      rw [isResult] at comesTo
      exact ⟨_, comesTo, rfl, rfl⟩
  | error defect =>
      rw [isResult] at comesTo
      obtain ⟨last, run⟩ := comesTo
      exact ⟨_, run, rfl, rfl⟩

/-- The expansion of a declared state ends, with the result of `Grammar.expand`.
Throughout it the chain holds the states of the calls under way: they are declared, differ
from one another and include one another up to the state of the next call, and so there is
never more than one call beyond the number of states.  A call that does not fail leaves
the chain as it was, and no call is made for a state that is not declared: where compiling
misses a state, it is the start state. -/
theorem expansion_ends (isDeclared : state ∈ grammar.states.keys) :
    (∃ last, grammar.ExpandsTo (expansionStart state) last ∧
      grammar.expansionStep? last = none ∧
      last.result? = some (grammar.expand state)) ∧
    (∀ moment, grammar.ExpandsTo (expansionStart state) moment →
      moment.work.chain = moment.work.calls.map (·.state) ∧
      moment.work.chain.Nodup ∧
      (∀ outer ∈ moment.work.chain, outer ∈ grammar.states.keys) ∧
      moment.work.chain.reverse.IsChain grammar.Includes ∧
      moment.depth ≤ grammar.states.size + 1 ∧
      (∀ inner work, moment = .calling inner work →
        (work.chain.reverse ++ [inner]).IsChain grammar.Includes ∧
        ((∃ found, grammar.ExpandsTo moment
          (.working ⟨work.chain, work.calls, work.rules ++ found⟩)) ∨
          ∃ defect last, grammar.ExpandsTo moment (.failed defect last))) ∧
      ∀ name work, moment ≠ .failed (.missingState name) work) ∧
    ∀ reader name, grammar.compile reader = .error (.missingState name) →
      name = grammar.startName ∧ name ∉ grammar.states.keys := by
  refine ⟨exists_result_of_expansionStart isDeclared, fun moment run => ?_,
    fun reader name failed => ?_⟩
  · have sound := (isSoundMoment_expansionStart isDeclared).run run
    have soundWork := sound.isSoundWork
    refine ⟨soundWork.chain_eq, soundWork.nodup, soundWork.declared, soundWork.isWalk,
      sound.depth_le, ?_, ?_⟩
    · rintro inner work rfl
      refine ⟨sound.2.2, ?_⟩
      have comesTo := sound.comesTo
      cases isResult : grammar.expandWithin
        (grammar.states.size - work.chain.length) work.chain inner with
      | ok found =>
          rw [isResult] at comesTo
          exact .inl ⟨found, comesTo⟩
      | error defect =>
          rw [isResult] at comesTo
          exact .inr ⟨defect, comesTo⟩
    · rintro name work rfl
      exact sound.2 name rfl
  · cases hasDefect_of_compile failed with
    | missingState undeclared => exact ⟨rfl, undeclared⟩

/-- Two states include a third one, and the second of them includes the state that
includes both. -/
def sharedCircle : Grammar :=
  let base : Grammar := { name := "x" }
  base
    |>.addState "a" [.includeNamed "b", .includeNamed "c"]
    |>.addState "b" [.includeNamed "d"]
    |>.addState "c" [.includeNamed "d", .includeNamed "a"]
    |>.addState "d" [.rule "x" (.ofClass "")]

/-- The state that is included twice is on no circle: its first call has left the chain
before the second begins. -/
theorem expansion_ends_sharedCircle :
    "a" ∈ sharedCircle.states.keys ∧
      ∃ last, sharedCircle.ExpandsTo (expansionStart "a") last ∧
      sharedCircle.expansionStep? last = none ∧
        last.result? = some (.error (.includeCycle ["a", "c", "a"])) ∧
        last.depth ≤ 5 := by
  have isDeclared : "a" ∈ sharedCircle.states.keys := by decide +kernel
  have isError : sharedCircle.expand "a" = .error (.includeCycle ["a", "c", "a"]) := by
    decide +kernel
  have size_eq : sharedCircle.states.size = 4 := by decide +kernel
  obtain ⟨⟨last, run, isLast, isResult⟩, throughout, -⟩ := expansion_ends isDeclared
  obtain ⟨-, -, -, -, depth_le, -⟩ := throughout last run
  rw [size_eq] at depth_le
  rw [isError] at isResult
  exact ⟨isDeclared, last, run, isLast, isResult, depth_le⟩

end Grammar

end LineLexer
