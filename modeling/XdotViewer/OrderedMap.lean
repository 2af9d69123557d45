/-! # Maps in order of insertion

A key that is inserted again keeps its place and gets the new value. Keys are distinct by
construction, so the list of entries is the map.
-/

namespace XdotViewer

/-- Replaces the value of a key where it stands, or adds the entry at the end. -/
def putEntry {κ ν : Type} [DecidableEq κ] (key : κ) (value : ν) : List (κ × ν) → List (κ × ν)
  | [] => [(key, value)]
  | entry :: rest =>
    if entry.1 = key then (key, value) :: rest else entry :: putEntry key value rest

/-- The first value that stands with a key. -/
def findEntry {κ ν : Type} [DecidableEq κ] (key : κ) : List (κ × ν) → Option ν
  | [] => none
  | entry :: rest => if entry.1 = key then some entry.2 else findEntry key rest

section Entries

variable {κ ν : Type} [DecidableEq κ]

/-- A key that is there keeps its place, and a new one comes last. -/
theorem keys_putEntry (key : κ) (value : ν) (entries : List (κ × ν)) :
    (putEntry key value entries).map Prod.fst =
      if key ∈ entries.map Prod.fst then entries.map Prod.fst
      else entries.map Prod.fst ++ [key] := by
  induction entries with
  | nil => simp [putEntry]
  | cons entry rest ih =>
    by_cases same : entry.1 = key
    · simp [putEntry, same]
    · have other : key ≠ entry.1 := fun equal => same equal.symm
      by_cases member : key ∈ rest.map Prod.fst
      · simp only [putEntry, same, if_false, List.map_cons, ih, member, if_true, List.mem_cons,
          other, or_true]
      · simp only [putEntry, same, if_false, List.map_cons, ih, member, List.mem_cons, other,
          or_self, List.cons_append]

/-- The value that was put last is found under its key, and the others are found as before. -/
theorem findEntry_putEntry (key : κ) (value : ν) (entries : List (κ × ν)) (wanted : κ) :
    findEntry wanted (putEntry key value entries) =
      if key = wanted then some value else findEntry wanted entries := by
  induction entries with
  | nil => simp [putEntry, findEntry]
  | cons entry rest ih =>
    by_cases same : entry.1 = key
    · by_cases hit : key = wanted <;> simp [putEntry, findEntry, same, hit]
    · simp only [putEntry, same, if_false, findEntry, ih]
      by_cases found : entry.1 = wanted
      · have other : key ≠ wanted := fun equal => same (found.trans equal.symm)
        simp [found, other]
      · simp [found]

/-- Nothing is found exactly under the keys that are not there. -/
theorem findEntry_eq_none_iff (key : κ) (entries : List (κ × ν)) :
    findEntry key entries = none ↔ key ∉ entries.map Prod.fst := by
  induction entries with
  | nil => simp [findEntry]
  | cons entry rest ih =>
    by_cases same : entry.1 = key
    · simp [findEntry, same]
    · have other : key ≠ entry.1 := fun equal => same equal.symm
      simp only [findEntry, same, if_false, ih, List.map_cons, List.mem_cons, other, false_or]

theorem nodup_putEntry {key : κ} {value : ν} {entries : List (κ × ν)}
    (nodup : (entries.map Prod.fst).Nodup) :
    ((putEntry key value entries).map Prod.fst).Nodup := by
  rw [keys_putEntry]
  split
  · exact nodup
  · rename_i fresh
    rw [List.nodup_append]
    refine ⟨nodup, by simp, ?_⟩
    rintro a member b single rfl
    exact fresh (List.mem_singleton.mp single ▸ member)

/-- An entry with a new key comes last. -/
theorem putEntry_of_not_mem {key : κ} {entries : List (κ × ν)}
    (fresh : key ∉ entries.map Prod.fst) (value : ν) :
    putEntry key value entries = entries ++ [(key, value)] := by
  induction entries with
  | nil => rfl
  | cons entry rest ih =>
    rw [List.map_cons, List.mem_cons, not_or] at fresh
    have other : ¬ entry.1 = key := fun same => fresh.1 same.symm
    rw [putEntry, if_neg other, ih fresh.2, List.cons_append]

/-- A known key has one place, and a new value goes there. -/
theorem exists_place_of_findEntry {key : κ} {old : ν} {entries : List (κ × ν)}
    (known : findEntry key entries = some old) :
    ∃ front back, entries = front ++ (key, old) :: back ∧
      ∀ value, putEntry key value entries = front ++ (key, value) :: back := by
  induction entries with
  | nil => cases known
  | cons entry rest ih =>
    by_cases same : entry.1 = key
    · obtain rfl : entry.2 = old := by simpa [findEntry, same] using known
      refine ⟨[], rest, ?_, fun value => ?_⟩
      · rw [← same]
        rfl
      · rw [putEntry, if_pos same]
        rfl
    · obtain ⟨front, back, whole, put⟩ := ih (by simpa [findEntry, same] using known)
      refine ⟨entry :: front, back, by rw [whole, List.cons_append], fun value => ?_⟩
      rw [putEntry, if_neg same, put, List.cons_append]

theorem findEntry_eq_some_iff {key : κ} {value : ν} {entries : List (κ × ν)}
    (nodup : (entries.map Prod.fst).Nodup) :
    findEntry key entries = some value ↔ (key, value) ∈ entries := by
  induction entries with
  | nil => simp [findEntry]
  | cons entry rest ih =>
    rw [List.map_cons, List.nodup_cons] at nodup
    rw [findEntry, List.mem_cons]
    split
    · rename_i same
      subst same
      have absent : (entry.1, value) ∉ rest := fun member =>
        nodup.1 (List.mem_map.mpr ⟨_, member, rfl⟩)
      simp [Prod.ext_iff, absent, eq_comm]
    · rename_i other
      rw [ih nodup.2]
      constructor
      · exact Or.inr
      · rintro (rfl | member)
        · exact absurd rfl other
        · exact member

/-- Entries are known from their keys, in order, and the value of each. -/
theorem entries_eq_of_findEntry {first second : List (κ × ν)}
    (nodup : (first.map Prod.fst).Nodup) (keys : first.map Prod.fst = second.map Prod.fst)
    (values : ∀ key, findEntry key first = findEntry key second) : first = second := by
  induction first generalizing second with
  | nil => exact (List.map_eq_nil_iff.mp keys.symm).symm
  | cons entry rest ih =>
    cases second with
    | nil => cases keys
    | cons other others =>
      rw [List.map_cons, List.map_cons, List.cons.injEq] at keys
      rw [List.map_cons, List.nodup_cons] at nodup
      obtain ⟨key, later⟩ := keys
      have value : entry.2 = other.2 := by
        have here := values entry.1
        rw [findEntry, if_pos rfl, findEntry, if_pos key.symm] at here
        exact Option.some.inj here
      rw [Prod.ext key value, ih nodup.2 later fun wanted => ?_]
      by_cases same : entry.1 = wanted
      · subst same
        rw [(findEntry_eq_none_iff _ _).mpr nodup.1, (findEntry_eq_none_iff _ _).mpr]
        exact later ▸ nodup.1
      · have there := values wanted
        rwa [findEntry, if_neg same, findEntry, if_neg (key ▸ same)] at there

end Entries

/-- Entries with distinct keys, in the order in which the keys were first inserted. -/
structure OrderedMap (κ ν : Type) where
  entries : List (κ × ν)
  nodup : (entries.map Prod.fst).Nodup

namespace OrderedMap

variable {κ ν : Type}

def empty : OrderedMap κ ν :=
  ⟨[], .nil⟩

instance : EmptyCollection (OrderedMap κ ν) := ⟨empty⟩

instance : Inhabited (OrderedMap κ ν) := ⟨empty⟩

def keys (map : OrderedMap κ ν) : List κ :=
  map.entries.map Prod.fst

def size (map : OrderedMap κ ν) : Nat :=
  map.entries.length

def isEmpty (map : OrderedMap κ ν) : Bool :=
  map.entries.isEmpty

variable [DecidableEq κ]

def get? (map : OrderedMap κ ν) (key : κ) : Option ν :=
  findEntry key map.entries

def contains (map : OrderedMap κ ν) (key : κ) : Bool :=
  (map.get? key).isSome

def insert (map : OrderedMap κ ν) (key : κ) (value : ν) : OrderedMap κ ν :=
  ⟨putEntry key value map.entries, nodup_putEntry map.nodup⟩

/-- Inserts entries one after the other. -/
def insertAll (map : OrderedMap κ ν) (entries : List (κ × ν)) : OrderedMap κ ν :=
  entries.foldl (fun map entry => map.insert entry.1 entry.2) map

def ofList (entries : List (κ × ν)) : OrderedMap κ ν :=
  insertAll ∅ entries

omit [DecidableEq κ] in
/-- Maps are equal if their entries are. -/
theorem ext {a b : OrderedMap κ ν} (same : a.entries = b.entries) : a = b := by
  cases a
  cases b
  cases same
  rfl

@[simp] theorem get?_empty (key : κ) : (∅ : OrderedMap κ ν).get? key = none := rfl

/-- Insertion changes the value of its key and no other. -/
theorem get?_insert (map : OrderedMap κ ν) (key : κ) (value : ν) (wanted : κ) :
    (map.insert key value).get? wanted = if key = wanted then some value else map.get? wanted :=
  findEntry_putEntry key value map.entries wanted

/-- A new key goes to the end; a known key moves nothing. -/
theorem keys_insert (map : OrderedMap κ ν) (key : κ) (value : ν) :
    (map.insert key value).keys =
      if key ∈ map.keys then map.keys else map.keys ++ [key] :=
  keys_putEntry key value map.entries

omit [DecidableEq κ] in
theorem nodup_keys (map : OrderedMap κ ν) : map.keys.Nodup :=
  map.nodup

/-- A key has no value exactly if it is not in the map. -/
theorem get?_eq_none_iff (map : OrderedMap κ ν) (key : κ) :
    map.get? key = none ↔ key ∉ map.keys :=
  findEntry_eq_none_iff key map.entries

/-- The values that keys have are those of the entries. -/
theorem get?_eq_some_iff (map : OrderedMap κ ν) (key : κ) (value : ν) :
    map.get? key = some value ↔ (key, value) ∈ map.entries :=
  findEntry_eq_some_iff map.nodup

/-- Maps with the same keys in the same order and the same values are equal. -/
theorem ext_of_get? {a b : OrderedMap κ ν} (keys : a.keys = b.keys)
    (values : ∀ key, a.get? key = b.get? key) : a = b :=
  ext (entries_eq_of_findEntry a.nodup keys values)

theorem mem_keys_of_get? {map : OrderedMap κ ν} {key : κ} {value : ν}
    (known : map.get? key = some value) : key ∈ map.keys := by
  apply Decidable.by_contra
  intro absent
  rw [(map.get?_eq_none_iff key).mpr absent] at known
  cases known

theorem exists_get?_of_mem_keys {map : OrderedMap κ ν} {key : κ} (member : key ∈ map.keys) :
    ∃ value, map.get? key = some value := by
  cases known : map.get? key with
  | none => exact absurd member ((map.get?_eq_none_iff key).mp known)
  | some value => exact ⟨value, rfl⟩

/-- A map contains its keys. -/
theorem contains_iff (map : OrderedMap κ ν) (key : κ) :
    map.contains key = true ↔ key ∈ map.keys := by
  rw [contains, Option.isSome_iff_ne_none, ne_eq, get?_eq_none_iff, Decidable.not_not]

/-- A new key comes last. -/
theorem entries_insert_of_not_mem {map : OrderedMap κ ν} {key : κ} (fresh : key ∉ map.keys)
    (value : ν) : (map.insert key value).entries = map.entries ++ [(key, value)] :=
  putEntry_of_not_mem fresh value

/-- Entries with new keys, no two of them the same, go to the end as they are. -/
theorem entries_insertAll {map : OrderedMap κ ν} {entries : List (κ × ν)}
    (distinct : ((map.entries ++ entries).map Prod.fst).Nodup) :
    (map.insertAll entries).entries = map.entries ++ entries := by
  induction entries generalizing map with
  | nil => exact (List.append_nil _).symm
  | cons entry rest ih =>
    have fresh : entry.1 ∉ map.keys := by
      rw [List.map_append, List.map_cons, List.nodup_append] at distinct
      exact fun known => distinct.2.2 _ known _ List.mem_cons_self rfl
    have put := entries_insert_of_not_mem fresh entry.2
    have whole : map.entries ++ entry :: rest = (map.insert entry.1 entry.2).entries ++ rest := by
      rw [put, List.append_assoc]
      rfl
    rw [whole] at distinct ⊢
    exact ih distinct

/-- Entries with different keys are kept as they are. -/
theorem entries_ofList {entries : List (κ × ν)} (distinct : (entries.map Prod.fst).Nodup) :
    (ofList entries).entries = entries :=
  entries_insertAll distinct

/-- After insertions the keys are the old ones and the inserted ones. -/
theorem mem_keys_insertAll {map : OrderedMap κ ν} {entries : List (κ × ν)} {key : κ} :
    key ∈ (map.insertAll entries).keys ↔ key ∈ map.keys ∨ key ∈ entries.map Prod.fst := by
  induction entries generalizing map with
  | nil => simp [insertAll]
  | cons entry rest ih =>
    have put : key ∈ (map.insert entry.1 entry.2).keys ↔ key ∈ map.keys ∨ key = entry.1 := by
      rw [keys_insert]
      split
      · rename_i known
        exact (or_iff_left_of_imp fun same => same ▸ known).symm
      · rw [List.mem_append, List.mem_singleton]
    rw [List.map_cons, List.mem_cons, ← or_assoc, ← put]
    exact ih

/-- A value that is there after entries were inserted was there before, or is that of an entry. -/
theorem mem_of_get?_insertAll {map : OrderedMap κ ν} {entries : List (κ × ν)} {key : κ} {value : ν}
    (known : (map.insertAll entries).get? key = some value) :
    map.get? key = some value ∨ (key, value) ∈ entries := by
  induction entries generalizing map with
  | nil => exact .inl known
  | cons entry rest ih =>
    rcases ih known with before | later
    · rw [get?_insert] at before
      split at before
      · rename_i same
        obtain rfl := same
        obtain rfl := Option.some.inj before
        exact .inr List.mem_cons_self
      · exact .inl before
    · exact .inr (List.mem_cons_of_mem _ later)

/-- A key among some entries is known from them, with the value of one of them. -/
theorem exists_get?_ofList {entries : List (κ × ν)} {key : κ}
    (member : key ∈ entries.map Prod.fst) :
    ∃ value, (ofList entries).get? key = some value ∧ (key, value) ∈ entries := by
  obtain ⟨value, known⟩ := exists_get?_of_mem_keys (mem_keys_insertAll.mpr (.inr member))
  exact ⟨value, known, (mem_of_get?_insertAll known).resolve_left nofun⟩

end OrderedMap
end XdotViewer
