import LineLexer.Proofs.ClassNumbering
import LineLexer.Proofs.Success

/-!
# Classes and their handles

A class is handed out as a handle, which has 32 bits for its number.  A row of calls gives
each base name the handle of its class, and makes the class at the first call.  As long as
there are no more base names than handles, names and handles determine one another: the
names by number are those of the calls in the order in which they came first, and what a
handle means is never changed by later calls.
-/

namespace LineLexer.ClassNames

/-- The handle of a class: its number in 32 bits. -/
def handle (index : ClassIndex) : UInt32 :=
  .ofNat index

def handle? (classes : ClassNames) (base : String) : Option UInt32 :=
  (classes.index? base).map handle

/-- The handles that a row of calls gives to its base names, and the table after the
calls. -/
def internAll (classes : ClassNames) : List String → List UInt32 × ClassNames
  | [] => ([], classes)
  | base :: bases =>
      let interned := classes.intern base
      let others := interned.2.internAll bases
      (handle interned.1 :: others.1, others.2)

variable {classes : ClassNames} {postfixText base other : String} {bases : List String}
  {index : ClassIndex}

theorem toNat_handle (inside : index < UInt32.size) : (handle index).toNat = index :=
  UInt32.toNat_ofNat_of_lt' inside

/-! ### One call -/

theorem index?_eq_some_iff :
    classes.index? base = some index ↔ classes.baseName? index = some base :=
  OrderedMap.position?_eq_some_iff

theorem baseName?_eq_getElem? :
    classes.baseName? index = classes.fullNames.keys[index]? := by
  rw [baseName?, OrderedMap.getElem?_keys]

/-- What a table holds is never changed. -/
theorem toList_isPrefix_add (classes : ClassNames) (base : String) :
    classes.fullNames.toList <+: (classes.add base).fullNames.toList := by
  rcases toList_add classes base with same | added
  · exact ⟨[], by rw [List.append_nil, same]⟩
  · rw [added]
    exact List.prefix_append _ _

theorem intern_snd (classes : ClassNames) (base : String) :
    (classes.intern base).2 = classes.add base := by
  rw [intern]
  cases isIndex : classes.index? base with
  | none => rfl
  | some index =>
      have present : classes.fullNames.contains base = true := by
        rw [OrderedMap.contains]
        exact Option.isSome_of_eq_some isIndex
      rw [add, if_pos present]

/-- The number that a call gives is the one under which its base name is found
afterwards. -/
theorem index?_intern (classes : ClassNames) (base : String) :
    (classes.intern base).2.index? base = some (classes.intern base).1 := by
  rw [intern_snd, index?_eq_some_iff, baseName?_eq_getElem?, keys_add, intern]
  cases isIndex : classes.index? base with
  | none =>
      rw [if_neg (OrderedMap.position?_eq_none_iff.mp isIndex)]
      have size_eq : classes.size = classes.fullNames.keys.length :=
        (OrderedMap.length_keys _).symm
      simp [size_eq]
  | some index =>
      have isKey : classes.fullNames.keys[index]? = some base :=
        OrderedMap.position?_eq_some_iff_getElem?_keys.mp isIndex
      rw [if_pos (List.mem_of_getElem? isKey), isKey]

/-! ### A row of calls -/

theorem internAll_snd : (classes.internAll bases).2 = bases.foldl add classes := by
  induction bases generalizing classes with
  | nil => rfl
  | cons base bases ih => rw [internAll, List.foldl_cons, ← intern_snd, ih]

theorem toList_isPrefix_foldl_add (classes : ClassNames) (bases : List String) :
    classes.fullNames.toList <+: (bases.foldl add classes).fullNames.toList := by
  induction bases generalizing classes with
  | nil => exact List.prefix_rfl
  | cons base bases ih => exact (toList_isPrefix_add classes base).trans (ih _)

/-- The classes that a row of calls adds are its new base names, each where it comes
first. -/
theorem keys_foldl_add :
    (bases.foldl add classes).fullNames.keys =
      classes.fullNames.keys ++ (bases.removeAll classes.fullNames.keys).eraseDups := by
  induction bases generalizing classes with
  | nil => simp [List.removeAll]
  | cons base bases ih =>
      rw [List.foldl_cons, ih, keys_add]
      by_cases member : base ∈ classes.fullNames.keys
      · simp [member, List.removeAll]
      · have removed : bases.removeAll (classes.fullNames.keys ++ [base]) =
            (bases.removeAll classes.fullNames.keys).filter fun other =>
              !other == base := by
          simp only [List.removeAll, List.filter_filter]
          refine List.filter_congr fun other _ => ?_
          by_cases same : other = base <;> simp [same]
        have kept : (base :: bases).removeAll classes.fullNames.keys =
            base :: bases.removeAll classes.fullNames.keys := by
          simp [List.removeAll, member]
        rw [if_neg member, removed, kept, List.eraseDups_cons, List.append_assoc,
          List.singleton_append]

theorem getAt?_foldl_add (inside : index < classes.size) :
    (bases.foldl add classes).fullNames.getAt? index =
      classes.fullNames.getAt? index := by
  obtain ⟨added, toList_eq⟩ := toList_isPrefix_foldl_add classes bases
  have inFront : index < classes.fullNames.toList.length := inside
  rw [OrderedMap.getAt?, OrderedMap.getAt?, ← Array.getElem?_toList,
    ← Array.getElem?_toList]
  change (OrderedMap.toList _)[index]? = classes.fullNames.toList[index]?
  rw [← toList_eq, List.getElem?_append_left inFront]

theorem index?_foldl_add (isIndex : classes.index? base = some index) :
    (bases.foldl add classes).index? base = some index := by
  have inside := index?_lt_size isIndex
  rw [index?_eq_some_iff, baseName?] at isIndex ⊢
  rw [getAt?_foldl_add inside, isIndex]

/-- Each call gives the handle under which its base name is found after all calls. -/
theorem handles_internAll (classes : ClassNames) (bases : List String) :
    List.Forall₂ (fun base handle => (bases.foldl add classes).handle? base =
      some handle) bases (classes.internAll bases).1 := by
  induction bases generalizing classes with
  | nil => exact .nil
  | cons base bases ih =>
      rw [internAll, List.foldl_cons, ← intern_snd]
      refine .cons ?_ (ih _)
      rw [handle?, index?_foldl_add (index?_intern classes base)]
      rfl

/-! ### Full names -/

theorem fullNameOf_eq (postfixText : String) :
    fullNameOf postfixText =
      fun base => if base = "" then "" else base ++ postfixText := by
  funext base
  simp only [fullNameOf, String.isEmpty_iff]

theorem fullNameOf_injective (postfixText : String) :
    Function.Injective (fullNameOf postfixText) := by
  intro base other same
  by_cases isEmpty : base = "" <;> by_cases otherEmpty : other = ""
  · rw [isEmpty, otherEmpty]
  · -- Only the empty base name has the empty full name, whatever the postfix is.
    replace same := same.symm
    simp [fullNameOf, isEmpty, otherEmpty] at same
  · simp [fullNameOf, isEmpty, otherEmpty] at same
  · simpa [fullNameOf, isEmpty, otherEmpty, String.append_left_inj] using same

theorem WellNamed.fullName?_eq (wellNamed : classes.WellNamed) (index : ClassIndex) :
    classes.fullName? index =
      (classes.baseName? index).map (fullNameOf classes.postfixText) := by
  rw [fullName?, baseName?]
  cases isEntry : classes.fullNames.getAt? index with
  | none => rfl
  | some entry =>
      have member : entry ∈ classes.fullNames.toList :=
        Array.mem_toList_iff.mpr (Array.mem_of_getElem? isEntry)
      rw [Option.map_some, Option.map_some, Option.map_some, wellNamed entry member]

/-- Two classes never have the same full name. -/
theorem WellNamed.eq_of_fullName? (wellNamed : classes.WellNamed)
    {otherIndex : ClassIndex} {full : String}
    (isName : classes.fullName? index = some full)
    (isOther : classes.fullName? otherIndex = some full) : index = otherIndex := by
  rw [wellNamed.fullName?_eq, Option.map_eq_some_iff] at isName isOther
  obtain ⟨base, isBase, rfl⟩ := isName
  obtain ⟨other, isOtherBase, same⟩ := isOther
  obtain rfl := fullNameOf_injective _ same
  exact Option.some.inj
    ((index?_eq_some_iff.mpr isBase).symm.trans (index?_eq_some_iff.mpr isOtherBase))

/-! ### Names and handles -/

/-- A row of calls for the base names `bases`, which gave the handles `handles`, has left
this table: names and handles determine one another in it.  The names are numbered in the
order in which they came first, and the index by name and the names by number hold the
same pairs. -/
structure IsNumbered (classes : ClassNames) (postfixText : String) (bases : List String)
    (handles : List UInt32) : Prop where
  baseName?_eq : ∀ index, classes.baseName? index = bases.eraseDups[index]?
  size_eq : classes.size = bases.eraseDups.length
  length_eq : handles.length = bases.length
  mem_handles_iff : ∀ index, (∃ handle ∈ handles, handle.toNat = index) ↔
    index < classes.size
  given_eq_iff : ∀ first ∈ bases.zip handles, ∀ second ∈ bases.zip handles,
    first.2 = second.2 ↔ first.1 = second.1
  handle?_iff_given : ∀ base handle, classes.handle? base = some handle ↔
    (base, handle) ∈ bases.zip handles
  handle?_iff_baseName? : ∀ base handle,
    classes.handle? base = some handle ↔ classes.baseName? handle.toNat = some base
  fullName?_eq : ∀ index, classes.fullName? index =
    (classes.baseName? index).map fun base =>
      if base = "" then "" else base ++ postfixText
  fullName?_inj : ∀ index other full, classes.fullName? index = some full →
    classes.fullName? other = some full → index = other

theorem handle?_eq_some_iff (few : classes.size < UInt32.size) {base : String}
    {handle : UInt32} :
    classes.handle? base = some handle ↔ classes.baseName? handle.toNat = some base := by
  rw [handle?, Option.map_eq_some_iff]
  constructor
  · rintro ⟨index, isIndex, rfl⟩
    rw [toNat_handle (Nat.lt_trans (index?_lt_size isIndex) few)]
    exact index?_eq_some_iff.mp isIndex
  · intro isBase
    exact ⟨handle.toNat, index?_eq_some_iff.mpr isBase, UInt32.ofNat_toNat⟩

theorem keys_ofList (postfixText : String) (bases : List String) :
    (ofList postfixText bases).fullNames.keys = bases.eraseDups := by
  have keys_empty : (empty postfixText).fullNames.keys = [] := rfl
  rw [ofList, keys_foldl_add, keys_empty, List.nil_append]
  simp [List.removeAll]

/-- The pairs that the calls have made are those that looking up gives. -/
theorem mem_zip_internAll_iff {handle : UInt32} :
    (base, handle) ∈ bases.zip ((empty postfixText).internAll bases).1 ↔
      (ofList postfixText bases).handle? base = some handle := by
  obtain ⟨length_eq, given⟩ :=
    List.forall₂_iff_zip.mp (handles_internAll (empty postfixText) bases)
  constructor
  · exact fun member => given member
  · intro found
    obtain ⟨index, isIndex, -⟩ := Option.map_eq_some_iff.mp found
    have isBase : base ∈ bases := by
      rw [← List.mem_eraseDups, ← keys_ofList postfixText]
      exact OrderedMap.mem_keys_iff_exists_position?.mpr ⟨index, isIndex⟩
    obtain ⟨position, inside, rfl⟩ := List.getElem_of_mem isBase
    have insideHandles : position < ((empty postfixText).internAll bases).1.length :=
      length_eq ▸ inside
    have insideZip : position <
        (bases.zip ((empty postfixText).internAll bases).1).length := by
      rw [List.length_zip]
      exact Nat.lt_min.mpr ⟨inside, insideHandles⟩
    have member := List.getElem_mem insideZip
    rw [List.getElem_zip] at member
    rwa [Option.some.inj ((given member).symm.trans found)] at member

theorem size_ofList : (ofList postfixText bases).size = bases.eraseDups.length := by
  rw [← keys_ofList postfixText, OrderedMap.length_keys]
  rfl

/-- The handles that the calls have given are the numbers of the classes. -/
theorem mem_internAll_iff (few : (ofList postfixText bases).size < UInt32.size) :
    (∃ handle ∈ ((empty postfixText).internAll bases).1, handle.toNat = index) ↔
      index < (ofList postfixText bases).size := by
  constructor
  · rintro ⟨handle, member, rfl⟩
    obtain ⟨base, -, found⟩ := exists_mem_of_forall₂ (handles_internAll _ _) member
    exact index?_lt_size (index?_eq_some_iff.mpr ((handle?_eq_some_iff few).mp found))
  · intro inside
    obtain ⟨base, isBase⟩ := Option.isSome_iff_exists.mp (isSome_names_of_lt inside).1
    have found : (ofList postfixText bases).handle? base = some (handle index) := by
      rw [handle?, index?_eq_some_iff.mpr isBase]
      rfl
    have given := mem_zip_internAll_iff.mpr found
    exact ⟨handle index, (List.of_mem_zip given).2,
      toNat_handle (Nat.lt_trans inside few)⟩

/-- Two calls give the same handle exactly if they are for the same name. -/
theorem given_eq_iff (few : (ofList postfixText bases).size < UInt32.size)
    {first second : String × UInt32}
    (isFirst : first ∈ bases.zip ((empty postfixText).internAll bases).1)
    (isSecond : second ∈ bases.zip ((empty postfixText).internAll bases).1) :
    first.2 = second.2 ↔ first.1 = second.1 := by
  have firstFound := mem_zip_internAll_iff.mp isFirst
  have secondFound := mem_zip_internAll_iff.mp isSecond
  constructor
  · intro same
    rw [handle?_eq_some_iff few, same] at firstFound
    rw [handle?_eq_some_iff few] at secondFound
    exact Option.some.inj (firstFound.symm.trans secondFound)
  · intro same
    rw [same] at firstFound
    exact Option.some.inj (firstFound.symm.trans secondFound)

theorem isNumbered_ofList (few : bases.eraseDups.length < UInt32.size) :
    (ofList postfixText bases).IsNumbered postfixText bases
      ((empty postfixText).internAll bases).1 := by
  have fewClasses : (ofList postfixText bases).size < UInt32.size := size_ofList ▸ few
  have wellNamed : (ofList postfixText bases).WellNamed :=
    (wellNamed_empty postfixText).foldl_add
  have postfix_eq : (ofList postfixText bases).postfixText = postfixText :=
    postfixText_foldl_add
  exact {
    baseName?_eq index := by rw [baseName?_eq_getElem?, keys_ofList]
    size_eq := size_ofList
    length_eq := (handles_internAll _ _).length_eq.symm
    mem_handles_iff index := mem_internAll_iff fewClasses
    given_eq_iff first isFirst second isSecond := given_eq_iff fewClasses isFirst isSecond
    handle?_iff_given base handle := mem_zip_internAll_iff.symm
    handle?_iff_baseName? base handle := handle?_eq_some_iff fewClasses
    fullName?_eq index := by rw [wellNamed.fullName?_eq, postfix_eq, fullNameOf_eq]
    fullName?_inj index other full := wellNamed.eq_of_fullName? }

/-- A row of calls on a fresh table leaves a table in which names and handles determine
one another, and further calls change neither the names of a handle nor the handle of a
name. -/
theorem internAll_isNumbered (postfixText : String) (bases more : List String)
    (few : bases.eraseDups.length < UInt32.size) :
    let calls := (empty postfixText).internAll bases
    let later := (calls.2.internAll more).2
    calls.2.IsNumbered postfixText bases calls.1 ∧
      (∀ index < calls.2.size, later.baseName? index = calls.2.baseName? index ∧
        later.fullName? index = calls.2.fullName? index) ∧
      ∀ base handle, calls.2.handle? base = some handle →
        later.handle? base = some handle := by
  intro calls later
  have later_eq : later = more.foldl add calls.2 := internAll_snd
  refine ⟨?_, fun index inside => ?_, fun base handle found => ?_⟩
  · rw [show calls.2 = ofList postfixText bases from internAll_snd]
    exact isNumbered_ofList few
  · rw [later_eq, baseName?, baseName?, fullName?, fullName?, getAt?_foldl_add inside]
    exact ⟨rfl, rfl⟩
  · obtain ⟨index, isIndex, rfl⟩ := Option.map_eq_some_iff.mp found
    rw [later_eq, handle?, index?_foldl_add isIndex]
    rfl

/-- A name that comes twice has one class, and the class without a name has no postfix,
also after a further call. -/
theorem internAll_isNumbered_twice :
    let calls := (empty ".x").internAll ["z", "", "a", "z"]
    ["z", "", "a", "z"].eraseDups.length < UInt32.size ∧
      calls.2.IsNumbered ".x" ["z", "", "a", "z"] [0, 1, 2, 0] ∧
        calls.2.fullName? 0 = some "z.x" ∧ (calls.2.internAll ["b"]).2.fullName? 1 =
          some "" := by
  intro calls
  have few : ["z", "", "a", "z"].eraseDups.length < UInt32.size := by decide
  have given : calls.1 = [0, 1, 2, 0] := by decide +kernel
  obtain ⟨isNumbered, kept, -⟩ := internAll_isNumbered ".x" ["z", "", "a", "z"] ["b"] few
  have inside : 1 < calls.2.size := by
    rw [isNumbered.size_eq]
    decide
  have names : calls.2.fullName? 0 = some "z.x" ∧ calls.2.fullName? 1 = some "" := by
    rw [isNumbered.fullName?_eq, isNumbered.fullName?_eq, isNumbered.baseName?_eq,
      isNumbered.baseName?_eq]
    decide
  exact ⟨few, given ▸ isNumbered, names.1, (kept 1 inside).2.trans names.2⟩

end LineLexer.ClassNames
