import LineLexer.CommandLine.Command
import Mathlib.Data.List.Perm.Basic

/-!
# Commands with the same options

Reading looks at a command only through the option that a word or a letter names and
through what the command says of paths.  So the order in which a command lists its options
is of no account, as long as no word and no letter names two of them.  The commands
`tokens` and `trace` list the same options in different orders: they accept the same
arguments, refuse the others for the same reason and find the same source in them.
-/

namespace LineLexer.CommandLine

section Find

variable {α : Type} {test : α → Bool} {items others : List α} {item : α}

theorem find?_eq_some_iff_of_unique
    (unique : ∀ first ∈ items, ∀ second ∈ items, test first → test second →
      first = second) :
    items.find? test = some item ↔ item ∈ items ∧ test item := by
  constructor
  · intro found
    exact ⟨List.mem_of_find?_eq_some found, List.find?_some found⟩
  · rintro ⟨member, passes⟩
    obtain ⟨other, found⟩ :=
      Option.isSome_iff_exists.mp (List.find?_isSome.mpr ⟨item, member, passes⟩)
    rw [found, unique other (List.mem_of_find?_eq_some found) item member
      (List.find?_some found) passes]

theorem find?_eq_of_perm (perm : others.Perm items)
    (unique : ∀ first ∈ items, ∀ second ∈ items, test first → test second →
      first = second) :
    others.find? test = items.find? test := by
  have otherUnique : ∀ first ∈ others, ∀ second ∈ others, test first → test second →
      first = second :=
    fun first isFirst second isSecond =>
      unique first (perm.subset isFirst) second (perm.subset isSecond)
  refine Option.ext fun item => ?_
  rw [find?_eq_some_iff_of_unique unique, find?_eq_some_iff_of_unique otherUnique,
    perm.mem_iff]

end Find

namespace CommandSpec

/-- No word and no letter names two options of the command. -/
structure HasDistinctNames (spec : CommandSpec) : Prop where
  long_inj : ∀ first ∈ spec.options, ∀ second ∈ spec.options, first.long.isSome →
    first.long = second.long → first = second
  short_inj : ∀ first ∈ spec.options, ∀ second ∈ spec.options, first.short.isSome →
    first.short = second.short → first = second

/-- A word or a letter names the same option in both commands, and both say the same of
paths. -/
structure ReadsAlike (spec other : CommandSpec) : Prop where
  ofLong?_eq : ∀ word, other.ofLong? word = spec.ofLong? word
  ofShort?_eq : ∀ letter, other.ofShort? letter = spec.ofShort? letter
  takesPath_eq : other.takesPath = spec.takesPath
  mem_pathConflicts_iff : ∀ name, name ∈ other.pathConflicts ↔ name ∈ spec.pathConflicts

variable {spec other : CommandSpec}

/-- The order in which a command lists its options is of no account. -/
theorem readsAlike_of_perm (distinct : spec.HasDistinctNames)
    (perm : other.options.Perm spec.options)
    (takesPath_eq : other.takesPath = spec.takesPath)
    (conflicts : other.pathConflicts.Perm spec.pathConflicts) :
    spec.ReadsAlike other where
  ofLong?_eq word := by
    refine find?_eq_of_perm perm
      fun first isFirst second isSecond isWord isOtherWord => ?_
    rw [beq_iff_eq] at isWord isOtherWord
    exact distinct.long_inj first isFirst second isSecond (by rw [isWord]; rfl)
      (isWord.trans isOtherWord.symm)
  ofShort?_eq letter := by
    refine find?_eq_of_perm perm
      fun first isFirst second isSecond isLetter isOtherLetter => ?_
    rw [beq_iff_eq] at isLetter isOtherLetter
    exact distinct.short_inj first isFirst second isSecond (by rw [isLetter]; rfl)
      (isLetter.trans isOtherLetter.symm)
  takesPath_eq := takesPath_eq
  mem_pathConflicts_iff _ := conflicts.mem_iff

namespace ReadsAlike

variable (alike : spec.ReadsAlike other) (reading : Reading)
include alike

theorem readLong_eq (text : List Char) :
    reading.readLong other text = reading.readLong spec text := by
  rw [Reading.readLong, Reading.readLong, alike.ofLong?_eq]

/-- The letters of an argument are looked up one after the other, each where the one
before it has left the reading. -/
theorem readShort_eq (letters : List Char) :
    reading.readShort other letters = reading.readShort spec letters := by
  induction letters generalizing reading with
  | nil => rfl
  | cons letter letters ih =>
      rw [Reading.readShort, Reading.readShort, alike.ofShort?_eq]
      cases spec.ofShort? letter with
      | none => rfl
      | some option =>
          simp only
          split
          · rfl
          · rfl
          · rfl
          · -- Only after an option without a value are the letters behind it looked up.
            exact congrArg _ (funext ih)

theorem readPath_eq (argument : String) :
    reading.readPath other argument = reading.readPath spec argument := by
  rw [Reading.readPath, Reading.readPath, alike.takesPath_eq]

theorem readArgument_eq (argument : String) :
    reading.readArgument other argument = reading.readArgument spec argument := by
  simp only [Reading.readArgument, alike.readLong_eq, alike.readShort_eq,
    alike.readPath_eq]

theorem foldlM_readArgument_eq (arguments : List String) :
    arguments.foldlM (Reading.readArgument other) reading =
      arguments.foldlM (Reading.readArgument spec) reading := by
  induction arguments generalizing reading with
  | nil => rfl
  | cons argument arguments ih =>
      rw [List.foldlM_cons, List.foldlM_cons, alike.readArgument_eq]
      exact congrArg _ (funext ih)

omit reading in
theorem any_pathConflicts_eq (found : Matches) :
    other.pathConflicts.any found.has = spec.pathConflicts.any found.has := by
  rw [Bool.eq_iff_iff, List.any_eq_true, List.any_eq_true]
  simp only [alike.mem_pathConflicts_iff]

omit reading in
/-- Two commands whose names mean the same read all arguments in the same way. -/
theorem read_eq (arguments : List String) :
    other.read arguments = spec.read arguments := by
  simp only [CommandSpec.read, alike.foldlM_readArgument_eq, alike.any_pathConflicts_eq]

end ReadsAlike

end CommandSpec

namespace Matches

/-- The values that an option has been given, the last one first. -/
def values (found : Matches) (name : String) : List String :=
  (found.given.filter (·.1 == name)).map Prod.snd

/-- The same has been read, apart from what the options with the given names have been
given and from the order among different options. -/
structure AlikeExcept (names : List String) (found other : Matches) : Prop where
  path_eq : other.path = found.path
  values_eq : ∀ name ∉ names, other.values name = found.values name

theorem value?_eq (found : Matches) (name : String) :
    found.value? name = (found.values name).head? := by
  rw [value?, values, List.head?_map, List.head?_filter]

theorem has_eq (found : Matches) (name : String) :
    found.has name = !(found.values name).isEmpty := by
  rw [Bool.eq_iff_iff, has, values, List.any_eq_true, Bool.not_eq_true',
    List.isEmpty_eq_false_iff, ← List.length_pos_iff, List.length_map,
    List.length_pos_iff_exists_mem]
  simp only [List.mem_filter]

theorem count_eq (found : Matches) (name : String) :
    found.count name = (found.values name).length := by
  rw [count, values, List.length_map, List.countP_eq_length_filter]

end Matches

namespace Command

/-- The flags that only `tokens` takes notice of. -/
def tokensFlags : List String :=
  [spansOption, coalesceOption, jsonOption].map OptionSpec.name

/-- The flags that only `trace` takes notice of. -/
def traceFlags : List String :=
  [verboseOption].map OptionSpec.name

theorem tokensSpec_readsAlike_traceSpec : tokensSpec.ReadsAlike traceSpec :=
  CommandSpec.readsAlike_of_perm ⟨by decide, by decide⟩ (by decide) rfl (.refl _)

theorem read_tokens (arguments : List String) :
    read ("tokens" :: arguments) = (tokensSpec.read arguments).map ofTokensMatches := by
  simp [read, menu, Menu.read, Menu.named?]

theorem read_trace (arguments : List String) :
    read ("trace" :: arguments) = (tokensSpec.read arguments).map ofTraceMatches := by
  simp [read, menu, Menu.read, Menu.named?, tokensSpec_readsAlike_traceSpec.read_eq]

theorem sourceChoice_eq {names : List String} {found other : Matches}
    (alike : found.AlikeExcept names other) (source : "source" ∉ names)
    (language : "lang" ∉ names) : sourceChoice other = sourceChoice found := by
  rw [sourceChoice, sourceChoice]
  simp only [Matches.value?_eq, alike.path_eq, alike.values_eq _ source,
    alike.values_eq _ language]

theorem colorChoice_eq {names : List String} {found other : Matches}
    (alike : found.AlikeExcept names other) (color : "color" ∉ names) :
    colorChoice other = colorChoice found := by
  simp only [colorChoice, Matches.value?_eq, alike.values_eq _ color]

theorem ofTokensMatches_eq {found other : Matches}
    (alike : found.AlikeExcept traceFlags other) :
    ofTokensMatches other = ofTokensMatches found := by
  rw [ofTokensMatches, ofTokensMatches, sourceChoice_eq alike (by decide) (by decide),
    colorChoice_eq alike (by decide)]
  simp only [Matches.has_eq, alike.values_eq "spans" (by decide),
    alike.values_eq "coalesce" (by decide), alike.values_eq "json" (by decide)]

theorem ofTraceMatches_eq {found other : Matches}
    (alike : found.AlikeExcept tokensFlags other) :
    ofTraceMatches other = ofTraceMatches found := by
  rw [ofTraceMatches, ofTraceMatches, sourceChoice_eq alike (by decide) (by decide),
    colorChoice_eq alike (by decide)]
  simp only [Matches.count_eq, alike.values_eq "verbose" (by decide)]

/-- The same arguments are either refused by `tokens` and `trace` with the same error, or
accepted by both with the same source and choice of colours.  What the flags of the other
command have been given makes no difference to either of them. -/
theorem read_tokens_and_trace (arguments : List String) :
    ((∃ error, read ("tokens" :: arguments) = .error error ∧
      read ("trace" :: arguments) = .error error) ∨
      ∃ source showSpans merge asJson verbosity color,
        read ("tokens" :: arguments) = .ok (.tokens source showSpans merge asJson color) ∧
          read ("trace" :: arguments) = .ok (.trace source verbosity color)) ∧
    ∀ others found otherFound,
      (tokensSpec.read arguments = .ok found → tokensSpec.read others = .ok otherFound →
        found.AlikeExcept traceFlags otherFound →
          read ("tokens" :: others) = read ("tokens" :: arguments)) ∧
      (traceSpec.read arguments = .ok found → traceSpec.read others = .ok otherFound →
        found.AlikeExcept tokensFlags otherFound →
          read ("trace" :: others) = read ("trace" :: arguments)) := by
  refine ⟨?_, fun others found otherFound => ⟨?_, ?_⟩⟩
  · rw [read_tokens, read_trace]
    cases tokensSpec.read arguments with
    | error error => exact .inl ⟨error, rfl, rfl⟩
    | ok found =>
        exact .inr ⟨sourceChoice found, found.has "spans", found.has "coalesce",
          found.has "json", min (found.count "verbose") countLimit,
          colorChoice found, rfl, rfl⟩
  · intro isFound isOther alike
    rw [read_tokens, read_tokens, isFound, isOther]
    exact congrArg Except.ok (ofTokensMatches_eq alike)
  · intro isFound isOther alike
    rw [tokensSpec_readsAlike_traceSpec.read_eq] at isFound isOther
    rw [read_trace, read_trace, isFound, isOther]
    exact congrArg Except.ok (ofTraceMatches_eq alike)

/-- Flags for the token list neither make `trace` refuse its arguments nor change what it
does. -/
theorem read_trace_otherFlags :
    read ["trace", "--spans", "-s", "let", "--json", "-v", "--color=never"] =
      read ["trace", "-v", "-slet", "--color", "never"] := by
  have isFound : traceSpec.read ["-v", "-slet", "--color", "never"] =
      .ok ⟨none, [("color", "never"), ("source", "let"), ("verbose", "")]⟩ := by
    decide +kernel
  have isOther : traceSpec.read
      ["--spans", "-s", "let", "--json", "-v", "--color=never"] =
      .ok ⟨none, [("color", "never"), ("verbose", ""), ("json", ""), ("source", "let"),
        ("spans", "")]⟩ := by
    decide +kernel
  refine ((read_tokens_and_trace _).2 _ _ _).2 isFound isOther
    ⟨rfl, fun name notFlag => ?_⟩
  have notSpans : "spans" ≠ name := by rintro rfl; exact notFlag (by decide)
  have notJson : "json" ≠ name := by rintro rfl; exact notFlag (by decide)
  by_cases isSource : "source" = name
  · subst isSource
    rfl
  · simp [Matches.values, List.filter_cons, notSpans, notJson, isSource]

end Command

end LineLexer.CommandLine
