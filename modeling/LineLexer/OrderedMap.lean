import Std.Data.TreeMap

/-!
# Maps that keep the order of insertion

A map from names to values whose entries stay in the order in which their names were first
inserted.  Inserting a name again replaces its value and keeps its position.  Beside the
entries stands an index of the positions by name, so that both directions of looking up
are fast on large maps; that the two agree is part of the type.
-/

namespace LineLexer

/-- A map from names to values, in the order of first insertion. -/
structure OrderedMap (α : Type) where
  entries : Array (String × α)
  positions : Std.TreeMap String Nat
  positions_iff : ∀ (key : String) (position : Nat),
    positions[key]? = some position ↔ entries[position]?.map Prod.fst = some key

namespace OrderedMap

variable {α : Type}

def empty : OrderedMap α where
  entries := #[]
  positions := ∅
  positions_iff := by simp

instance : EmptyCollection (OrderedMap α) := ⟨empty⟩

instance : Inhabited (OrderedMap α) := ⟨empty⟩

def size (map : OrderedMap α) : Nat :=
  map.entries.size

def toList (map : OrderedMap α) : List (String × α) :=
  map.entries.toList

/-- The names, in order. -/
def keys (map : OrderedMap α) : List String :=
  map.toList.map Prod.fst

def position? (map : OrderedMap α) (key : String) : Option Nat :=
  map.positions[key]?

def getAt? (map : OrderedMap α) (position : Nat) : Option (String × α) :=
  map.entries[position]?

/-- The value of a name. -/
def get? (map : OrderedMap α) (key : String) : Option α :=
  (map.position? key).bind fun position => (map.getAt? position).map Prod.snd

/-- Whether a name has a value. -/
def contains (map : OrderedMap α) (key : String) : Bool :=
  (map.position? key).isSome

theorem positions_iff_of_set {entries : Array (String × α)}
    {positions : Std.TreeMap String Nat}
    (agree : ∀ (key : String) (position : Nat), positions[key]? = some position ↔
      entries[position]?.map Prod.fst = some key)
    {key : String} {position : Nat} (found : positions[key]? = some position) (value : α)
    (otherKey : String) (otherPosition : Nat) :
    positions[otherKey]? = some otherPosition ↔
      ((entries.setIfInBounds position (key, value))[otherPosition]?).map Prod.fst =
        some otherKey := by
  rw [agree, Array.getElem?_setIfInBounds]
  have stored := (agree key position).mp found
  by_cases samePosition : position = otherPosition
  · subst samePosition
    have inBounds : position < entries.size := by
      cases entry : entries[position]? with
      | none => simp [entry] at stored
      | some _ => exact (Array.getElem?_eq_some_iff.mp entry).1
    simp only [↓reduceIte, inBounds, Option.map_some, stored]
  · simp only [samePosition, ↓reduceIte]

theorem positions_iff_of_push {entries : Array (String × α)}
    {positions : Std.TreeMap String Nat}
    (agree : ∀ (key : String) (position : Nat), positions[key]? = some position ↔
      entries[position]?.map Prod.fst = some key)
    {key : String} (absent : positions[key]? = none) (value : α) (otherKey : String)
    (otherPosition : Nat) :
    (positions.insert key entries.size)[otherKey]? = some otherPosition ↔
      ((entries.push (key, value))[otherPosition]?).map Prod.fst = some otherKey := by
  rw [Std.TreeMap.getElem?_insert, Array.getElem?_push]
  by_cases atEnd : otherPosition = entries.size
  · subst atEnd
    simp only [↓reduceIte, Option.map_some, Option.some.injEq,
      Std.LawfulEqCmp.compare_eq_iff_eq]
    constructor
    · intro lookedUp
      by_cases sameKey : key = otherKey
      · exact sameKey
      · rw [if_neg sameKey] at lookedUp
        have stored := (agree otherKey entries.size).mp lookedUp
        simp at stored
    · rintro rfl
      simp
  · rw [if_neg atEnd]
    simp only [Std.LawfulEqCmp.compare_eq_iff_eq]
    by_cases sameKey : key = otherKey
    · subst sameKey
      rw [if_pos rfl, ← agree, absent]
      simp only [Option.some.injEq, reduceCtorEq, iff_false]
      exact fun same => atEnd same.symm
    · rw [if_neg sameKey, agree]

/-- Gives `key` the value `value`, at its old position if it has one and at the end
otherwise. -/
def insert (map : OrderedMap α) (key : String) (value : α) : OrderedMap α :=
  -- The map is taken apart first, so that its entries are changed in place.
  match map with
  | ⟨entries, positions, agree⟩ =>
      match found : positions[key]? with
      | some position =>
          ⟨entries.setIfInBounds position (key, value), positions,
            positions_iff_of_set agree found value⟩
      | none =>
          let position := entries.size
          ⟨entries.push (key, value), positions.insert key position,
            positions_iff_of_push agree found value⟩

/-- The map that results from inserting some entries in order. -/
def ofList (entries : List (String × α)) : OrderedMap α :=
  entries.foldl (fun map entry => map.insert entry.1 entry.2) ∅

theorem position?_eq_some_iff {map : OrderedMap α} {key : String} {position : Nat} :
    map.position? key = some position ↔ (map.getAt? position).map Prod.fst = some key :=
  map.positions_iff key position

/-- A name is looked up at its only position. -/
theorem get?_eq_some_iff {map : OrderedMap α} {key : String} {value : α} :
    map.get? key = some value ↔ ∃ position, map.getAt? position = some (key, value) := by
  simp only [get?, Option.bind_eq_some_iff, Option.map_eq_some_iff]
  constructor
  · rintro ⟨position, isPosition, ⟨name, found⟩, isEntry, rfl⟩
    have stored := position?_eq_some_iff.mp isPosition
    rw [isEntry] at stored
    simp only [Option.map_some, Option.some.injEq] at stored
    exact ⟨position, by rw [isEntry, stored]⟩
  · rintro ⟨position, isEntry⟩
    exact ⟨position, position?_eq_some_iff.mpr (by simp [isEntry]), (key, value),
      isEntry, rfl⟩

theorem get?_eq_some_iff_mem_toList {map : OrderedMap α} {key : String} {value : α} :
    map.get? key = some value ↔ (key, value) ∈ map.toList := by
  rw [get?_eq_some_iff, toList, Array.mem_toList_iff, Array.mem_iff_getElem?]
  rfl

theorem contains_iff_mem_keys {map : OrderedMap α} {key : String} :
    map.contains key = true ↔ key ∈ map.keys := by
  simp only [contains, Option.isSome_iff_exists, position?_eq_some_iff, getAt?,
    keys, toList, List.mem_map, Array.mem_toList_iff, Array.mem_iff_getElem?]
  constructor
  · rintro ⟨position, stored⟩
    obtain ⟨entry, isEntry, rfl⟩ := Option.map_eq_some_iff.mp stored
    exact ⟨entry, ⟨position, isEntry⟩, rfl⟩
  · rintro ⟨entry, ⟨position, isEntry⟩, rfl⟩
    exact ⟨position, by simp [isEntry]⟩

theorem mem_keys_iff_exists_position? {map : OrderedMap α} {key : String} :
    key ∈ map.keys ↔ ∃ position, map.position? key = some position := by
  rw [← contains_iff_mem_keys, contains, Option.isSome_iff_exists]

theorem mem_keys_iff_exists_get? {map : OrderedMap α} {key : String} :
    key ∈ map.keys ↔ ∃ value, map.get? key = some value := by
  simp only [mem_keys_iff_exists_position?, position?_eq_some_iff, get?_eq_some_iff]
  constructor
  · rintro ⟨position, stored⟩
    obtain ⟨⟨name, value⟩, isEntry, rfl⟩ := Option.map_eq_some_iff.mp stored
    exact ⟨value, position, isEntry⟩
  · rintro ⟨value, position, isEntry⟩
    exact ⟨position, by rw [isEntry, Option.map_some]⟩

theorem position?_eq_none_iff {map : OrderedMap α} {key : String} :
    map.position? key = none ↔ key ∉ map.keys := by
  rw [mem_keys_iff_exists_position?, ← Option.isSome_iff_exists,
    Option.not_isSome_iff_eq_none]

theorem get?_eq_none_iff {map : OrderedMap α} {key : String} :
    map.get? key = none ↔ key ∉ map.keys := by
  rw [mem_keys_iff_exists_get?, ← Option.isSome_iff_exists, Option.not_isSome_iff_eq_none]

theorem getElem?_keys (map : OrderedMap α) (position : Nat) :
    map.keys[position]? = (map.getAt? position).map Prod.fst := by
  simp [keys, toList, getAt?]

theorem length_keys (map : OrderedMap α) : map.keys.length = map.size := by
  simp [keys, toList, size]

/-- The position of a name is the only place where it stands among the names. -/
theorem position?_eq_some_iff_getElem?_keys {map : OrderedMap α} {key : String}
    {position : Nat} :
    map.position? key = some position ↔ map.keys[position]? = some key := by
  rw [getElem?_keys, position?_eq_some_iff]

theorem position?_lt_size {map : OrderedMap α} {key : String} {position : Nat}
    (isPosition : map.position? key = some position) : position < map.size := by
  rw [position?_eq_some_iff_getElem?_keys] at isPosition
  rw [← length_keys]
  exact (List.getElem?_eq_some_iff.mp isPosition).1

/-- The position of a name is that of its first occurrence among the names. -/
theorem position?_eq_findIdx?_keys (map : OrderedMap α) (key : String) :
    map.position? key = map.keys.findIdx? (· == key) := by
  symm
  cases isPosition : map.position? key with
  | none =>
      rw [List.findIdx?_eq_none_iff]
      intro name isName
      rw [beq_eq_false_iff_ne]
      rintro rfl
      exact position?_eq_none_iff.mp isPosition isName
  | some position =>
      obtain ⟨inside, isKey⟩ :=
        List.getElem?_eq_some_iff.mp (position?_eq_some_iff_getElem?_keys.mp isPosition)
      rw [List.findIdx?_eq_some_iff_getElem]
      refine ⟨inside, by simp [isKey], ?_⟩
      intro earlier isEarlier
      have earlierInside : earlier < map.keys.length := Nat.lt_trans isEarlier inside
      -- A name that occurred twice would have two positions.
      rw [Bool.not_eq_true, beq_eq_false_iff_ne]
      intro sameKey
      have isOther : map.position? key = some earlier :=
        position?_eq_some_iff_getElem?_keys.mpr
          (sameKey ▸ List.getElem?_eq_getElem earlierInside)
      rw [isPosition, Option.some.injEq] at isOther
      omega

/-- The order of the entries has no influence on the values of names. -/
theorem get?_eq_of_perm {map other : OrderedMap α} (perm : map.toList.Perm other.toList)
    (key : String) : map.get? key = other.get? key := by
  refine Option.ext fun value => ?_
  rw [get?_eq_some_iff_mem_toList, get?_eq_some_iff_mem_toList]
  exact perm.mem_iff

theorem size_eq_of_perm {map other : OrderedMap α} (perm : map.toList.Perm other.toList) :
    map.size = other.size :=
  perm.length_eq

/-- A new name is added at the end. -/
theorem toList_insert_of_absent {map : OrderedMap α} {key : String} (value : α)
    (absent : map.position? key = none) :
    (map.insert key value).toList = map.toList ++ [(key, value)] := by
  obtain ⟨entries, positions, agree⟩ := map
  unfold insert
  simp only
  split
  · rename_i position found
    rw [position?, found] at absent
    exact absurd absent (by simp)
  · simp [toList]

section Replacing

variable {map : OrderedMap α} {key : String} {position : Nat}

/-- A name that is there already keeps its position, and so do all others. -/
theorem position?_insert_of_present (isPosition : map.position? key = some position)
    (value : α) (other : String) :
    (map.insert key value).position? other = map.position? other := by
  obtain ⟨entries, positions, agree⟩ := map
  unfold insert
  simp only
  split
  · rfl
  · rename_i absent
    rw [position?, absent] at isPosition
    cases isPosition

theorem getAt?_insert_of_present (isPosition : map.position? key = some position)
    (value : α) (index : Nat) :
    (map.insert key value).getAt? index =
      if index = position then some (key, value) else map.getAt? index := by
  have isInside := position?_lt_size isPosition
  obtain ⟨entries, positions, agree⟩ := map
  have inside : position < entries.size := isInside
  unfold insert
  simp only
  split
  · rename_i found isFound
    obtain rfl : found = position := Option.some.inj (isFound.symm.trans isPosition)
    rw [getAt?, getAt?, Array.getElem?_setIfInBounds]
    by_cases same : index = found
    · subst same
      rw [if_pos rfl, if_pos inside, if_pos rfl]
    · rw [if_neg (Ne.symm same), if_neg same]
  · rename_i absent
    rw [position?, absent] at isPosition
    cases isPosition

theorem keys_insert_of_present (isPosition : map.position? key = some position)
    (value : α) : (map.insert key value).keys = map.keys := by
  refine List.ext_getElem? fun index => ?_
  rw [getElem?_keys, getElem?_keys, getAt?_insert_of_present isPosition]
  by_cases same : index = position
  · subst same
    rw [if_pos rfl, position?_eq_some_iff.mp isPosition, Option.map_some]
  · rw [if_neg same]

theorem get?_insert_of_present (isPosition : map.position? key = some position)
    (value : α) (other : String) :
    (map.insert key value).get? other =
      if other = key then some value else map.get? other := by
  rw [get?, get?, position?_insert_of_present isPosition]
  by_cases same : other = key
  · subst same
    rw [isPosition, Option.bind_some, getAt?_insert_of_present isPosition, if_pos rfl,
      if_pos rfl]
    rfl
  · rw [if_neg same]
    cases isOther : map.position? other with
    | none => rfl
    | some index =>
        have apart : index ≠ position := by
          rintro rfl
          have keys_eq := (position?_eq_some_iff.mp isOther).symm.trans
            (position?_eq_some_iff.mp isPosition)
          exact same (Option.some.inj keys_eq)
        rw [Option.bind_some, Option.bind_some, getAt?_insert_of_present isPosition,
          if_neg apart]

end Replacing

end OrderedMap

end LineLexer
