import Mathlib.Data.List.Forall2

/-!
# Computations that succeed or fail

A computation that can fail succeeds exactly if each of its parts does, with results that
fit together, and fails with the error of one of its parts.
-/

namespace LineLexer

variable {ε α β : Type}

theorem bind_eq_ok_iff {first : Except ε α} {next : α → Except ε β} {result : β} :
    first >>= next = .ok result ↔ ∃ value, first = .ok value ∧
      next value = .ok result := by
  cases first with
  | error error =>
      constructor
      · intro failed
        cases failed
      · rintro ⟨value, failed, -⟩
        cases failed
  | ok value =>
      constructor
      · exact fun succeeds => ⟨value, rfl, succeeds⟩
      · rintro ⟨other, isValue, succeeds⟩
        cases isValue
        exact succeeds

theorem bind_eq_error_iff {first : Except ε α} {next : α → Except ε β} {error : ε} :
    first >>= next = .error error ↔
      first = .error error ∨ ∃ value, first = .ok value ∧ next value = .error error := by
  cases first with
  | error other =>
      constructor
      · intro failed
        cases failed
        exact .inl rfl
      · rintro (failed | ⟨value, succeeds, -⟩)
        · cases failed
          rfl
        · cases succeeds
  | ok value =>
      constructor
      · exact fun failed => .inr ⟨value, rfl, failed⟩
      · rintro (failed | ⟨other, isValue, failed⟩)
        · cases failed
        · cases isValue
          exact failed

theorem mapError_eq_error_iff {ε' : Type} {first : Except ε α} {change : ε → ε'}
    {error : ε'} :
    first.mapError change = .error error ↔ ∃ inner, first = .error inner ∧
      change inner = error := by
  cases first <;> simp [Except.mapError]

theorem mapError_eq_ok_iff {ε' : Type} {first : Except ε α} {change : ε → ε'}
    {result : α} :
    first.mapError change = .ok result ↔ first = .ok result := by
  cases first <;> simp [Except.mapError]

theorem toOption_eq_some_iff {first : Except ε α} {result : α} :
    first.toOption = some result ↔ first = .ok result := by
  cases first <;> simp [Except.toOption]

theorem mapM_eq_ok_iff {compute : α → Except ε β} {inputs : List α} {results : List β} :
    inputs.mapM compute = .ok results ↔
      List.Forall₂ (fun input result => compute input = .ok result) inputs results := by
  induction inputs generalizing results with
  | nil =>
      rw [List.mapM_nil, List.forall₂_nil_left_iff]
      exact ⟨fun same => (Except.ok.inj same).symm, fun same => congrArg _ same.symm⟩
  | cons input inputs ih =>
      rw [List.mapM_cons, List.forall₂_cons_left_iff, bind_eq_ok_iff]
      constructor
      · rintro ⟨result, isResult, succeeds⟩
        obtain ⟨others, areOthers, same⟩ := bind_eq_ok_iff.mp succeeds
        exact ⟨result, others, isResult, ih.mp areOthers, (Except.ok.inj same).symm⟩
      · rintro ⟨result, others, isResult, areOthers, rfl⟩
        exact ⟨result, isResult, bind_eq_ok_iff.mpr ⟨others, ih.mpr areOthers, rfl⟩⟩

theorem mapM_append_eq_ok_iff {compute : α → Except ε β} {front back : List α}
    {results : List β} :
    (front ++ back).mapM compute = .ok results ↔
      ∃ before after, results = before ++ after ∧ front.mapM compute = .ok before ∧
        back.mapM compute = .ok after := by
  rw [List.mapM_append, bind_eq_ok_iff]
  constructor
  · rintro ⟨before, isFront, succeeds⟩
    obtain ⟨after, isBack, same⟩ := bind_eq_ok_iff.mp succeeds
    exact ⟨before, after, (Except.ok.inj same).symm, isFront, isBack⟩
  · rintro ⟨before, after, rfl, isFront, isBack⟩
    exact ⟨before, isFront, bind_eq_ok_iff.mpr ⟨after, isBack, rfl⟩⟩

/-- The error of a list of computations is that of the first one that fails. -/
theorem exists_append_of_mapM_eq_error {compute : α → Except ε β} {inputs : List α}
    {error : ε} (failed : inputs.mapM compute = .error error) :
    ∃ front input back, inputs = front ++ input :: back ∧
      (∀ other ∈ front, ∃ result, compute other = .ok result) ∧
      compute input = .error error := by
  induction inputs with
  | nil => cases failed
  | cons first inputs ih =>
      rw [List.mapM_cons, bind_eq_error_iff] at failed
      rcases failed with failed | ⟨result, isResult, failed⟩
      · exact ⟨[], first, inputs, rfl, by simp, failed⟩
      · rcases bind_eq_error_iff.mp failed with failed | ⟨others, -, failed⟩
        · obtain ⟨front, input, back, rfl, succeed, failed⟩ := ih failed
          refine ⟨first :: front, input, back, rfl, ?_, failed⟩
          exact List.forall_mem_cons.mpr ⟨⟨result, isResult⟩, succeed⟩
        · cases failed

theorem exists_mem_of_mapM_eq_error {compute : α → Except ε β} {inputs : List α}
    {error : ε} (failed : inputs.mapM compute = .error error) :
    ∃ input ∈ inputs, compute input = .error error := by
  obtain ⟨front, input, back, rfl, -, failed⟩ := exists_append_of_mapM_eq_error failed
  exact ⟨input, List.mem_append_right front List.mem_cons_self, failed⟩

theorem exists_bind_eq_ok_iff {first : Except ε α} {next : α → Except ε β} :
    (∃ result, first >>= next = .ok result) ↔
      ∃ value, first = .ok value ∧ ∃ result, next value = .ok result := by
  simp only [bind_eq_ok_iff]
  constructor
  · rintro ⟨result, value, isValue, succeeds⟩
    exact ⟨value, isValue, result, succeeds⟩
  · rintro ⟨value, isValue, result, succeeds⟩
    exact ⟨result, value, isValue, succeeds⟩

theorem exists_mapM_eq_ok_iff {compute : α → Except ε β} {inputs : List α} :
    (∃ results, inputs.mapM compute = .ok results) ↔
      ∀ input ∈ inputs, ∃ result, compute input = .ok result := by
  induction inputs with
  | nil => exact ⟨fun _ _ member => absurd member List.not_mem_nil, fun _ => ⟨[], rfl⟩⟩
  | cons input inputs ih =>
      rw [List.mapM_cons, exists_bind_eq_ok_iff, List.forall_mem_cons, ← ih]
      constructor
      · rintro ⟨result, isResult, succeeds⟩
        obtain ⟨others, areOthers, -⟩ := exists_bind_eq_ok_iff.mp succeeds
        exact ⟨⟨result, isResult⟩, others, areOthers⟩
      · rintro ⟨⟨result, isResult⟩, others, areOthers⟩
        exact ⟨result, isResult, exists_bind_eq_ok_iff.mpr ⟨others, areOthers, _, rfl⟩⟩

/-- Where every computation of one list that succeeds has a counterpart in another list
that succeeds too, so do the computations of the whole lists. -/
theorem exists_mapM_eq_ok_of_forall₂ {α' β' ε' : Type} {compute : α → Except ε β}
    {other : α' → Except ε' β'} {relation : β → β' → Prop} {inputs : List α}
    {otherInputs : List α'}
    (related : List.Forall₂ (fun input otherInput => ∀ result,
      compute input = .ok result →
      ∃ otherResult, other otherInput = .ok otherResult ∧
      relation result otherResult) inputs otherInputs)
    {results : List β} (succeeds : inputs.mapM compute = .ok results) :
    ∃ otherResults, otherInputs.mapM other = .ok otherResults ∧
      List.Forall₂ relation results otherResults := by
  simp only [mapM_eq_ok_iff] at succeeds ⊢
  induction related generalizing results with
  | nil =>
      cases succeeds
      exact ⟨[], .nil, .nil⟩
  | cons counterpart _ ih =>
      cases succeeds with
      | cons isResult areResults =>
          obtain ⟨otherResult, isOther, isRelated⟩ := counterpart _ isResult
          obtain ⟨otherResults, areOthers, areRelated⟩ := ih areResults
          exact ⟨otherResult :: otherResults, .cons isOther areOthers,
            .cons isRelated areRelated⟩

/-- Each result is related to one of the inputs. -/
theorem exists_mem_of_forall₂ {relation : α → β → Prop} {inputs : List α}
    {results : List β} (related : List.Forall₂ relation inputs results) {result : β}
    (member : result ∈ results) : ∃ input ∈ inputs, relation input result := by
  induction related with
  | nil => simp at member
  | @cons input first inputs results isRelated related ih =>
      rcases List.mem_cons.mp member with rfl | member
      · exact ⟨input, List.mem_cons_self, isRelated⟩
      · obtain ⟨other, isInput, isRelated⟩ := ih member
        exact ⟨other, List.mem_cons_of_mem input isInput, isRelated⟩

theorem map_eq_map_iff_forall₂ {α' γ : Type} {view : α → γ} {otherView : α' → γ}
    {inputs : List α} {otherInputs : List α'} :
    inputs.map view = otherInputs.map otherView ↔
      List.Forall₂ (fun input other => view input = otherView other) inputs
        otherInputs := by
  rw [← List.forall₂_eq_eq_eq, List.forall₂_map_left_iff, List.forall₂_map_right_iff]

end LineLexer
