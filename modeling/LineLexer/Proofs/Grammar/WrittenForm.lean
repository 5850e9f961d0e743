import LineLexer.Grammar.Serialization
import LineLexer.Proofs.Grammar.Agreement

/-!
# What a written grammar says

In a written grammar the keywords begin with an `@`, and the names of states and of word
sets are given one too, while classes are written as they are.  So a name that is spelled
like a keyword is read as the keyword: the word set `default`, the states `pop` and
`popall`, and the class `@brackets`.  Nothing else of a grammar is lost: two grammars are
written alike exactly if they are the same up to these four words.
-/

namespace LineLexer

theorem plainName_at_append (name : String) : plainName ("@" ++ name) = name := by
  rw [plainName, String.toList_append]
  exact String.ofList_toList

/-- What is written alike can be told apart exactly as far as a reader brings it back. -/
theorem eq_iff_of_reads {α : Type} {write : α → String} {read : String → α}
    {reading : α → α} (read_write : ∀ value, read (write value) = reading value)
    (write_reading : ∀ value, write (reading value) = write value) (first second : α) :
    write first = write second ↔ reading first = reading second := by
  constructor
  · intro same
    rw [← read_write, ← read_write, same]
  · intro same
    rw [← write_reading, ← write_reading second, same]

/-! ### Guards and transitions -/

namespace Guard

def read (text : String) : Guard :=
  if text = "@default" then otherwise else inSet (plainName text)

/-- The guard that the text of a guard is read as. -/
def reading : Guard → Guard
  | inSet setName => if setName = "default" then otherwise else inSet setName
  | otherwise => otherwise

theorem read_description (guard : Guard) : read guard.description = guard.reading := by
  cases guard with
  | otherwise => rfl
  | inSet setName =>
      have isKeyword : "@" ++ setName = "@default" ↔ setName = "default" :=
        @String.append_right_inj "@" setName "default"
      simp only [description, read, reading, isKeyword, plainName_at_append]

theorem description_reading (guard : Guard) :
    guard.reading.description = guard.description := by
  cases guard with
  | otherwise => rfl
  | inSet setName =>
      rw [reading]
      split_ifs with isKeyword
      · rw [isKeyword]
        rfl
      · rfl

theorem description_eq_iff (first second : Guard) :
    first.description = second.description ↔ first.reading = second.reading :=
  eq_iff_of_reads read_description description_reading first second

end Guard

namespace Transition

def read (text : String) : Transition :=
  if text = "@pop" then pop
  else if text = "@popall" then popAll
  else push (plainName text)

/-- The transition that the text of a transition is read as. -/
def reading : Transition → Transition
  | push stateName =>
      if stateName = "pop" then pop
      else if stateName = "popall" then popAll
      else push stateName
  | pop => pop
  | popAll => popAll

theorem read_description (transition : Transition) :
    read transition.description = transition.reading := by
  cases transition with
  | pop => rfl
  | popAll => rfl
  | push stateName =>
      have isPop : "@" ++ stateName = "@pop" ↔ stateName = "pop" :=
        @String.append_right_inj "@" stateName "pop"
      have isPopAll : "@" ++ stateName = "@popall" ↔ stateName = "popall" :=
        @String.append_right_inj "@" stateName "popall"
      simp only [description, read, reading, isPop, isPopAll, plainName_at_append]

theorem description_reading (transition : Transition) :
    transition.reading.description = transition.description := by
  cases transition with
  | pop => rfl
  | popAll => rfl
  | push stateName =>
      rw [reading]
      split_ifs with isPop isPopAll
      · rw [isPop]
        rfl
      · rw [isPopAll]
        rfl
      · rfl

theorem description_eq_iff (first second : Transition) :
    first.description = second.description ↔ first.reading = second.reading :=
  eq_iff_of_reads read_description description_reading first second

end Transition

/-! ### Actions and entries -/

theorem map_eq_map_iff {α β γ : Type} {write : α → β} {reading : α → γ}
    (eq_iff : ∀ first second, write first = write second ↔ reading first = reading second)
    (firsts seconds : List α) :
    firsts.map write = seconds.map write ↔ firsts.map reading = seconds.map reading := by
  induction firsts generalizing seconds with
  | nil => simp only [List.map_nil, List.nil_eq, List.map_eq_nil_iff]
  | cons first firsts ih =>
      cases seconds with
      | nil => simp only [List.map_cons, List.map_nil, reduceCtorEq]
      | cons second seconds => simp only [List.map_cons, List.cons.injEq, eq_iff, ih]

namespace Emission

/-- The emission that the text of an emission is read as. -/
def reading : Emission → Emission
  | token className => (Action.named className).emission
  | brackets => brackets
  | cases arms => cases (arms.map fun arm => (arm.1.reading, arm.2))

theorem toJson_named (text : String) :
    (Action.named text).emission.toJson = .text text := by
  rw [Action.named]
  split_ifs with isKeyword
  · rw [isKeyword]
    rfl
  · rfl

theorem toJson_reading (emission : Emission) :
    emission.reading.toJson = emission.toJson := by
  cases emission with
  | token className => exact toJson_named className
  | brackets => rfl
  | cases arms => simp only [reading, toJson, List.map_map, Function.comp_def,
      Guard.description_reading]

theorem arms_toJson_eq_iff (arms others : List (Guard × String)) :
    (arms.map fun arm => (arm.1.description, Json.text arm.2)) =
        (others.map fun arm => (arm.1.description, Json.text arm.2)) ↔
      (arms.map fun arm => (arm.1.reading, arm.2)) = others.map fun arm =>
        (arm.1.reading, arm.2) := by
  refine map_eq_map_iff (fun arm other => ?_) arms others
  rw [Prod.mk.injEq, Prod.mk.injEq, Json.text.injEq, Guard.description_eq_iff]

theorem reading_of_toJson_eq_text {emission : Emission} {text : String}
    (isText : emission.toJson = .text text) :
    emission.reading = (Action.named text).emission := by
  cases emission with
  | cases arms => cases isText
  | token className =>
      cases isText
      rfl
  | brackets =>
      cases isText
      rfl

theorem reading_eq_of_toJson_eq {first second : Emission}
    (same : first.toJson = second.toJson) : first.reading = second.reading := by
  cases first with
  | cases arms =>
      cases second with
      | cases others =>
          rw [reading, reading, (arms_toJson_eq_iff arms others).mp
            (Json.object.inj same)]
      | _ => cases same
  | _ =>
      rw [reading_of_toJson_eq_text same.symm]
      rfl

theorem toJson_eq_iff (first second : Emission) :
    first.toJson = second.toJson ↔ first.reading = second.reading := by
  constructor
  · exact reading_eq_of_toJson_eq
  · intro same
    rw [← toJson_reading, ← toJson_reading second, same]

end Emission

namespace Action

def reading (action : Action) : Action :=
  ⟨action.emission.reading, action.transition.map Transition.reading⟩

theorem toJson_eq_iff (first second : Action) :
    first.toJson = second.toJson ↔ first.reading = second.reading := by
  obtain ⟨emission, transition⟩ := first
  obtain ⟨otherEmission, otherTransition⟩ := second
  cases transition <;> cases otherTransition <;>
    simp [toJson, reading, Emission.toJson_eq_iff, Transition.description_eq_iff]

end Action

namespace Entry

def reading : Entry → Entry
  | rule pattern action => rule pattern action.reading
  | .include stateName => .include stateName

theorem toJson_eq_iff (first second : Entry) :
    first.toJson = second.toJson ↔ first.reading = second.reading := by
  cases first <;> cases second <;> simp [toJson, reading, Action.toJson_eq_iff]

end Entry

/-! ### Grammars -/

theorem BracketPair.toJson_injective : Function.Injective BracketPair.toJson := by
  rintro ⟨opening, closing, className⟩ ⟨otherOpening, otherClosing, otherClass⟩ same
  simpa [toJson] using same

theorem Json.texts_injective : Function.Injective Json.texts := by
  intro first second same
  exact List.map_injective_iff.mpr (fun _ _ => Json.text.inj) (Json.list.inj same)

namespace Grammar

/-- Both grammars are the same up to the names that are read as keywords. -/
@[mk_iff]
structure WrittenAlike (first second : Grammar) : Prop where
  name_eq : second.name = first.name
  defaultClass_eq : second.defaultClass = first.defaultClass
  postfixText_eq : second.postfixText = first.postfixText
  ignoreCase_eq : second.ignoreCase = first.ignoreCase
  start_eq : second.start = first.start
  brackets_eq : second.brackets = first.brackets
  wordSets_eq : second.wordSets.toList = first.wordSets.toList
  states_eq : second.states.toList.map
    (fun state => (state.1, state.2.map Entry.reading)) =
    first.states.toList.map fun state => (state.1, state.2.map Entry.reading)

theorem wordSets_toJson_eq_iff (firsts seconds : List (String × List String)) :
    (firsts.map fun entry => (entry.1, Json.texts entry.2)) =
        (seconds.map fun entry => (entry.1, Json.texts entry.2)) ↔ firsts = seconds := by
  refine (List.map_injective_iff.mpr fun entry other same => ?_).eq_iff
  obtain ⟨name_eq, words_eq⟩ := Prod.mk.inj same
  exact Prod.ext name_eq (Json.texts_injective words_eq)

theorem states_toJson_eq_iff (firsts seconds : List (String × List Entry)) :
    (firsts.map fun state => (state.1, Json.list (state.2.map Entry.toJson))) =
        (seconds.map fun state => (state.1, Json.list (state.2.map Entry.toJson))) ↔
      (firsts.map fun state => (state.1, state.2.map Entry.reading)) =
        seconds.map fun state => (state.1, state.2.map Entry.reading) := by
  refine map_eq_map_iff (fun state other => ?_) firsts seconds
  rw [Prod.mk.injEq, Prod.mk.injEq, Json.list.injEq, map_eq_map_iff Entry.toJson_eq_iff]

/-- The written form of a grammar keeps everything but the difference between keywords and
names. -/
theorem toJson_eq_iff (first second : Grammar) :
    second.toJson = first.toJson ↔ first.WrittenAlike second := by
  have brackets_eq_iff := (List.map_injective_iff.mpr BracketPair.toJson_injective).eq_iff
    (a := second.brackets) (b := first.brackets)
  rw [writtenAlike_iff]
  cases isStart : first.start <;> cases isOther : second.start <;>
    simp [toJson, isStart, isOther, brackets_eq_iff, wordSets_toJson_eq_iff,
      states_toJson_eq_iff]

/-- The pairs of entries at the same places of two grammars that differ and are written
alike all the same: one has a keyword where the other has the name that is read as it. -/
def clashes (first second : Grammar) : List (Entry × Entry) :=
  ((first.states.toList.zip second.states.toList).flatMap fun states =>
    states.1.2.zip states.2.2).filter
    fun entries => entries.1 ≠ entries.2 ∧ entries.1.reading = entries.2.reading

theorem eq_of_map_eq_of_zip {α β : Type} {reading : α → β} {firsts seconds : List α}
    (same : firsts.map reading = seconds.map reading)
    (apart : ∀ pair ∈ firsts.zip seconds, reading pair.1 = reading pair.2 →
      pair.1 = pair.2) :
    firsts = seconds := by
  induction firsts generalizing seconds with
  | nil => exact (List.map_eq_nil_iff.mp same.symm).symm
  | cons first firsts ih =>
      cases seconds with
      | nil => cases same
      | cons second seconds =>
          obtain ⟨head_eq, tail_eq⟩ := List.cons.inj same
          rw [List.zip_cons_cons, List.forall_mem_cons] at apart
          have first_eq : first = second := apart.1 head_eq
          rw [first_eq, ih tail_eq apart.2]

namespace WrittenAlike

variable {first second : Grammar}

theorem states_toList_eq (alike : first.WrittenAlike second)
    (apart : first.clashes second = []) : first.states.toList = second.states.toList := by
  refine eq_of_map_eq_of_zip alike.states_eq.symm fun states areStates same => ?_
  obtain ⟨name_eq, readings_eq⟩ := Prod.mk.inj same
  refine Prod.ext name_eq
    (eq_of_map_eq_of_zip readings_eq fun entries areEntries reading_eq => ?_)
  -- Entries that differ here would stand for a keyword and the name spelled like it.
  by_contra differ
  have clash : entries ∈ first.clashes second :=
    List.mem_filter.mpr
      ⟨List.mem_flatMap.mpr ⟨states, areStates, areEntries⟩,
        decide_eq_true ⟨differ, reading_eq⟩⟩
  rw [apart] at clash
  exact absurd clash List.not_mem_nil

theorem agrees (alike : first.WrittenAlike second) (apart : first.clashes second = []) :
    first.Agrees second where
  defaultClass_eq := alike.defaultClass_eq
  postfixText_eq := alike.postfixText_eq
  ignoreCase_eq := alike.ignoreCase_eq
  startName_eq := by
    rw [startName, startName, startName?, startName?, OrderedMap.keys, OrderedMap.keys,
      alike.start_eq, alike.states_toList_eq apart]
  brackets_eq := alike.brackets_eq
  size_eq := OrderedMap.size_eq_of_perm (.of_eq (alike.states_toList_eq apart).symm)
  get?_eq := OrderedMap.get?_eq_of_perm (.of_eq (alike.states_toList_eq apart).symm)
  isSet_iff setName := by rw [OrderedMap.keys, OrderedMap.keys, alike.wordSets_eq]
  isWord_iff setName word := by rw [OrderedMap.get?_eq_of_perm (.of_eq alike.wordSets_eq)]

end WrittenAlike

end Grammar

end LineLexer
