/-!
Finite maps with text keys, held as the list of their entries in ascending key order.

The order of the entries is part of the type, so two maps with the same entries are equal and the
order in which a map is written out is the order of its keys. Main statements:

- `sorted_insertEntry`: putting an entry in its place keeps the order;
- `get?_insert`, `get?_erase`: what an insertion or a removal makes visible, for every key;
- `entries_ofList`: a map made of entries with keys of their own has exactly these.
-/

namespace VmControl

/-- A finite map from texts, kept in ascending order of the keys. -/
structure OrderedMap (α : Type) where
  /-- The entries, each key once, in ascending order. -/
  entries : List (String × α)
  /-- The keys ascend strictly, so none is repeated. -/
  sorted : entries.Pairwise (fun a b => a.1 < b.1)
deriving DecidableEq

namespace OrderedMap

variable {α β : Type}

/-- The map without entries. -/
def empty : OrderedMap α := ⟨[], .nil⟩

instance : Inhabited (OrderedMap α) := ⟨empty⟩

/-- Whether the map has no entries. -/
def isEmpty (m : OrderedMap α) : Bool := m.entries.isEmpty

/-- The keys in ascending order. -/
def keys (m : OrderedMap α) : List String := m.entries.map (·.1)

/-- The values in ascending order of their keys. -/
def values (m : OrderedMap α) : List α := m.entries.map (·.2)

/-- The value under a key. -/
def get? (m : OrderedMap α) (key : String) : Option α := m.entries.lookup key

/-- Puts an entry where its key belongs, in place of an entry with that key. -/
def insertEntry (key : String) (value : α) : List (String × α) → List (String × α)
  | [] => [(key, value)]
  | entry :: rest =>
    if key < entry.1 then (key, value) :: entry :: rest
    else if key = entry.1 then (key, value) :: rest
    else entry :: insertEntry key value rest

theorem lt_of_not_lt_of_ne {a b : String} (notLess : ¬ a < b) (differ : a ≠ b) : b < a :=
  Std.lt_of_le_of_ne (String.not_lt.mp notLess) differ.symm

theorem mem_insertEntry {key : String} {value : α} {entries : List (String × α)}
    {entry : String × α} (h : entry ∈ insertEntry key value entries) :
    entry = (key, value) ∨ entry ∈ entries := by
  induction entries with
  | nil => exact .inl (by simpa [insertEntry] using h)
  | cons first rest ih =>
    rw [insertEntry] at h
    split at h
    · simpa using h
    · split at h
      · rcases List.mem_cons.mp h with rfl | h
        · exact .inl rfl
        · exact .inr (List.mem_cons_of_mem _ h)
      · rcases List.mem_cons.mp h with rfl | h
        · exact .inr List.mem_cons_self
        · exact (ih h).imp_right (List.mem_cons_of_mem _)

theorem sorted_insertEntry (key : String) (value : α) {entries : List (String × α)}
    (sorted : entries.Pairwise (fun a b => a.1 < b.1)) :
    (insertEntry key value entries).Pairwise (fun a b => a.1 < b.1) := by
  induction entries with
  | nil => simp [insertEntry]
  | cons first rest ih =>
    obtain ⟨below, tail⟩ := List.pairwise_cons.mp sorted
    rw [insertEntry]
    split
    · next less =>
      refine List.pairwise_cons.mpr ⟨fun entry member => ?_, sorted⟩
      rcases List.mem_cons.mp member with rfl | member
      · exact less
      · exact String.lt_trans less (below entry member)
    · next notLess =>
      split
      · next same =>
          exact List.pairwise_cons.mpr ⟨fun entry member => same ▸ below entry member, tail⟩
      · next differ =>
        refine List.pairwise_cons.mpr ⟨fun entry member => ?_, ih tail⟩
        rcases mem_insertEntry member with rfl | member
        · exact lt_of_not_lt_of_ne notLess differ
        · exact below entry member

/-- Puts a value under a key, in place of the value that was there. -/
def insert (m : OrderedMap α) (key : String) (value : α) : OrderedMap α :=
  ⟨insertEntry key value m.entries, sorted_insertEntry key value m.sorted⟩

/-- The map of the given entries; of two with one key the later one counts. -/
def ofList (entries : List (String × α)) : OrderedMap α :=
  entries.foldl (fun m entry => m.insert entry.1 entry.2) empty

/-- Removes the entry under a key. -/
def erase (m : OrderedMap α) (key : String) : OrderedMap α :=
  ⟨m.entries.filter (fun entry => entry.1 ≠ key), m.sorted.filter _⟩

/-- Replaces each value by a function of its key and itself. -/
def mapWithKey (f : String → α → β) (m : OrderedMap α) : OrderedMap β :=
  ⟨m.entries.map (fun entry => (entry.1, f entry.1 entry.2)),
    List.pairwise_map.mpr (m.sorted.imp id)⟩

def map (f : α → β) (m : OrderedMap α) : OrderedMap β := m.mapWithKey (fun _ => f)

/-- Replaces the value under a key that is present; a map without the key stays as it is. -/
def replace (m : OrderedMap α) (key : String) (value : α) : OrderedMap α :=
  m.mapWithKey (fun k old => if k = key then value else old)

theorem lookup_cons_eq (key : String) (first : String × α) (rest : List (String × α)) :
    (first :: rest).lookup key = if key = first.1 then some first.2 else rest.lookup key := by
  obtain ⟨k, v⟩ := first
  by_cases h : key = k
  · simp [h]
  · have : (key == k) = false := beq_eq_false_iff_ne.mpr h
    simp [List.lookup_cons, h, this]

theorem lookup_insertEntry (key other : String) (value : α) (entries : List (String × α)) :
    (insertEntry key value entries).lookup other =
      if other = key then some value else entries.lookup other := by
  induction entries with
  | nil => simp [insertEntry, lookup_cons_eq]
  | cons first rest ih =>
    rw [insertEntry]
    split
    · rw [lookup_cons_eq]
    · split
      · next same =>
        rw [lookup_cons_eq, lookup_cons_eq]
        by_cases h : other = key <;> simp_all
      · next differ =>
        rw [lookup_cons_eq, lookup_cons_eq, ih]
        by_cases h : other = key <;> simp_all

/-- After an insertion the key shows the new value and every other key what it showed before. -/
theorem get?_insert (m : OrderedMap α) (key other : String) (value : α) :
    (m.insert key value).get? other = if other = key then some value else m.get? other :=
  lookup_insertEntry key other value m.entries

@[simp] theorem get?_empty (key : String) : (empty : OrderedMap α).get? key = none := rfl

/-- A removal hides the value under its key and no other. -/
theorem get?_erase (m : OrderedMap α) (key other : String) :
    (m.erase key).get? other = if other = key then none else m.get? other := by
  have lookup (entries : List (String × α)) :
      (entries.filter fun entry => entry.1 ≠ key).lookup other =
        if other = key then none else entries.lookup other := by
    induction entries with
    | nil => split <;> rfl
    | cons first rest ih =>
      rw [List.filter_cons, lookup_cons_eq]
      by_cases removed : first.1 = key
      · rw [if_neg (by simpa using removed), ih, removed]
        split <;> rfl
      · rw [if_pos (by simpa using removed), lookup_cons_eq, ih]
        split
        · next here => rw [if_neg (here ▸ removed)]
        · rfl
  exact lookup m.entries

/-- What is found is an entry. -/
theorem mem_of_get?_eq_some {m : OrderedMap α} {key : String} {a : α}
    (found : m.get? key = some a) :
    (key, a) ∈ m.entries := by
  obtain ⟨before, after, entries, -⟩ := List.lookup_eq_some_iff.mp found
  rw [entries]
  simp

theorem isSome_get?_iff {m : OrderedMap α} {key : String} :
    (m.get? key).isSome = true ↔ key ∈ m.keys := by
  unfold get? keys
  induction m.entries with
  | nil => simp
  | cons first rest ih =>
    rw [lookup_cons_eq, List.map_cons, List.mem_cons]
    by_cases here : key = first.1
    · simp [here]
    · rw [if_neg here, ih]
      simp [here]

@[simp] theorem keys_replace (m : OrderedMap α) (key : String) (value : α) :
    (m.replace key value).keys = m.keys := List.map_map ..

theorem mem_values_replace {m : OrderedMap α} {key : String} {value v : α}
    (listed : v ∈ (m.replace key value).values) : v = value ∨ v ∈ m.values := by
  obtain ⟨_, entered, rfl⟩ := List.mem_map.mp listed
  obtain ⟨entry, before, rfl⟩ := List.mem_map.mp entered
  dsimp only
  split
  · exact .inl rfl
  · exact .inr (List.mem_map_of_mem before)

theorem get?_mapWithKey (f : String → α → β) (m : OrderedMap α) (key : String) :
    (m.mapWithKey f).get? key = (m.get? key).map (f key) := by
  have lookup (entries : List (String × α)) :
      (entries.map fun entry => (entry.1, f entry.1 entry.2)).lookup key =
        (entries.lookup key).map (f key) := by
    induction entries with
    | nil => rfl
    | cons first rest ih =>
      rw [List.map_cons, lookup_cons_eq, lookup_cons_eq, ih]
      split
      · next here => rw [here, Option.map_some]
      · rfl
  exact lookup m.entries

/-- A replacement shows the new value under a key that is present, and changes nothing else. -/
theorem get?_replace (m : OrderedMap α) (key other : String) (value : α) :
    (m.replace key value).get? other =
      if other = key then (m.get? other).map fun _ => value else m.get? other := by
  rw [replace, get?_mapWithKey]
  split
  · rfl
  · cases m.get? other <;> rfl

theorem keys_insertEntry {key other : String} {value : α} {entries : List (String × α)} :
    other ∈ (insertEntry key value entries).map (·.1) ↔
      other = key ∨ other ∈ entries.map (·.1) := by
  induction entries with
  | nil => simp [insertEntry]
  | cons first rest ih =>
    rw [insertEntry]
    split
    · simp
    · split
      · next same => simp [same]
      · rw [List.map_cons, List.mem_cons, ih, List.map_cons, List.mem_cons]
        exact or_left_comm

theorem mem_keys_foldl {key : String} {entries : List (String × α)} :
    ∀ {m : OrderedMap α},
      key ∈ (entries.foldl (fun m entry => m.insert entry.1 entry.2) m).keys ↔
        key ∈ m.keys ∨ key ∈ entries.map (·.1) := by
  induction entries with
  | nil => simp
  | cons first rest ih =>
    intro m
    have inserted : key ∈ (m.insert first.1 first.2).keys ↔ key = first.1 ∨ key ∈ m.keys :=
      keys_insertEntry
    rw [List.foldl_cons, ih, inserted, List.map_cons, List.mem_cons, or_assoc, or_left_comm]

/-- The keys of a map are those of the entries that it was made of. -/
theorem mem_keys_ofList {key : String} {entries : List (String × α)} :
    key ∈ (ofList entries).keys ↔ key ∈ entries.map (·.1) := by
  rw [ofList, mem_keys_foldl]
  simp [empty, keys]

theorem mem_of_mem_foldl {entry : String × α} {entries : List (String × α)} :
    ∀ {m : OrderedMap α},
      entry ∈ (entries.foldl (fun m entry => m.insert entry.1 entry.2) m).entries →
        entry ∈ m.entries ∨ entry ∈ entries := by
  induction entries with
  | nil => exact .inl
  | cons first rest ih =>
    intro m entered
    rcases ih entered with entered | later
    · rcases mem_insertEntry entered with rfl | before
      · exact .inr List.mem_cons_self
      · exact .inl before
    · exact .inr (List.mem_cons_of_mem _ later)

/-- A map has no entries but those that it was made of. -/
theorem mem_of_mem_ofList {entry : String × α} {entries : List (String × α)}
    (entered : entry ∈ (ofList entries).entries) : entry ∈ entries :=
  (mem_of_mem_foldl entered).resolve_left List.not_mem_nil

theorem insertEntry_perm {key : String} (value : α) {entries : List (String × α)}
    (fresh : key ∉ entries.map (·.1)) :
    (insertEntry key value entries).Perm ((key, value) :: entries) := by
  induction entries with
  | nil => exact .refl _
  | cons first rest ih =>
    rw [List.map_cons, List.mem_cons, not_or] at fresh
    rw [insertEntry, if_neg fresh.1]
    split
    · exact .refl _
    · exact ((ih fresh.2).cons first).trans (.swap _ _ _)

theorem entries_foldl {more : List (String × α)} :
    ∀ {m : OrderedMap α}, ((m.entries ++ more).map (·.1)).Nodup →
      (more.foldl (fun m entry => m.insert entry.1 entry.2) m).entries.Perm
      (m.entries ++ more) := by
  induction more with
  | nil =>
    intro m _
    rw [List.append_nil]
    exact .refl _
  | cons entry rest ih =>
    intro m distinct
    have fresh : entry.1 ∉ m.entries.map (·.1) := by
      intro there
      rw [List.map_append, List.nodup_append] at distinct
      exact distinct.2.2 _ there _ List.mem_cons_self rfl
    have placed : (m.insert entry.1 entry.2).entries.Perm (entry :: m.entries) :=
      insertEntry_perm entry.2 fresh
    have moved := (placed.append_right rest).trans List.perm_middle.symm
    exact (ih ((moved.map (·.1)).nodup_iff.mpr distinct)).trans moved

/-- A map made of entries with keys of their own has exactly these entries. -/
theorem entries_ofList {entries : List (String × α)} (distinct : (entries.map (·.1)).Nodup) :
    (ofList entries).entries.Perm entries :=
  entries_foldl (m := empty) distinct

end OrderedMap

end VmControl
