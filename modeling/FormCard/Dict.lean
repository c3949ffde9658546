import FormCard.Members

/-!
# Dictionaries with sorted keys

Three parts of the program keep something by name: a form keeps what was entered into its fields,
the arena keeps a store for each form, and a pass notes a binding for each interactive component.
All three are finite maps from strings, and a `Dict` serves for each of them.

The entries stand in the order of their keys, each key once, and that is part of the type: no
operation has to check it and no proof has to assume it.  For the values of a form the order can be
seen, since a submission lists them by field.  Where it is never seen it does no harm, and it makes
dictionaries that answer every look-up alike equal, so that runs of a renderer can be compared by
plain equations.

Each operation has one law, which says what look-ups find after it (`get?_insert`,
`get?_filterKeys`), and `get?_eq_some_iff` ties look-ups to entries.  What is proved about stores
and bindings goes by these laws.
-/

namespace FormCard

open Members (lookup_cons)

/-- A finite map from strings to `α`. -/
structure Dict (α : Type) where
  entries : List (String × α)
  sorted : entries.Pairwise (fun a b => a.1 < b.1)

namespace Dict

variable {α β : Type}

/-! ## 1. Operations on entries -/

/-- Puts an entry in its place, over the one with the same key if there is one. -/
def put (key : String) (value : α) : List (String × α) → List (String × α)
  | [] => [(key, value)]
  | (k, v) :: rest =>
    if key < k then (key, value) :: (k, v) :: rest
    else if key = k then (key, value) :: rest
    else (k, v) :: put key value rest

theorem mem_put {key : String} {value : α} {entry : String × α} {l : List (String × α)} :
    entry ∈ put key value l → entry = (key, value) ∨ entry ∈ l := by
  induction l with
  | nil => simp [put]
  | cons head rest ih =>
    obtain ⟨k, v⟩ := head
    rw [put]
    split
    · simp
    · split
      · intro h
        rcases List.mem_cons.1 h with h | h
        · exact .inl h
        · exact .inr (List.mem_cons_of_mem _ h)
      · intro h
        rcases List.mem_cons.1 h with h | h
        · exact .inr (h ▸ List.mem_cons_self)
        · exact (ih h).imp id (List.mem_cons_of_mem _)

theorem sorted_put {key : String} {value : α} {l : List (String × α)}
    (h : l.Pairwise (fun a b => a.1 < b.1)) :
    (put key value l).Pairwise (fun a b => a.1 < b.1) := by
  induction l with
  | nil => simp [put]
  | cons head rest ih =>
    obtain ⟨k, v⟩ := head
    have hrest := List.pairwise_cons.1 h
    rw [put]
    split
    · next lt =>
      refine List.pairwise_cons.2 ⟨fun entry mem => ?_, h⟩
      rcases List.mem_cons.1 mem with mem | mem
      · exact mem ▸ lt
      · exact String.lt_trans lt (hrest.1 _ mem)
    · next nlt =>
      split
      · next eq => exact List.pairwise_cons.2 ⟨fun entry mem => eq ▸ hrest.1 _ mem, hrest.2⟩
      · next ne =>
        refine List.pairwise_cons.2 ⟨fun entry mem => ?_, ih hrest.2⟩
        rcases mem_put mem with mem | mem
        · exact mem ▸ Std.lt_of_le_of_ne (Std.not_lt.1 nlt) (Ne.symm ne)
        · exact hrest.1 _ mem

/-! ## 2. Operations on dictionaries -/

def empty : Dict α := ⟨[], .nil⟩

instance : EmptyCollection (Dict α) := ⟨empty⟩

instance : Inhabited (Dict α) := ⟨empty⟩

/-- The value under `key`. -/
def get? (d : Dict α) (key : String) : Option α := d.entries.lookup key

def contains (d : Dict α) (key : String) : Bool := (d.get? key).isSome

/-- Sets the value under `key`. -/
def insert (d : Dict α) (key : String) (value : α) : Dict α :=
  ⟨put key value d.entries, sorted_put d.sorted⟩

/-- Keeps the entries whose keys pass a test. -/
def filterKeys (keep : String → Bool) (d : Dict α) : Dict α :=
  ⟨d.entries.filter (fun entry => keep entry.1), d.sorted.filter _⟩

def size (d : Dict α) : Nat := d.entries.length

/-- The keys, in order. -/
def keys (d : Dict α) : List String := d.entries.map (·.1)

/-- The dictionary of a list of entries, of which later ones win. -/
def ofList (entries : List (String × α)) : Dict α :=
  entries.foldl (fun d entry => d.insert entry.1 entry.2) empty

/-! ## 3. Look-up laws -/

@[simp] theorem get?_empty (key : String) : (empty : Dict α).get? key = none := rfl

theorem lookup_put (key other : String) (value : α) (l : List (String × α)) :
    (put key value l).lookup other = if key = other then some value else l.lookup other := by
  induction l with
  | nil => rw [put, lookup_cons]
  | cons head rest ih =>
    obtain ⟨k, v⟩ := head
    rw [put]
    split
    · rw [lookup_cons]
    · split
      · next eq => by_cases h : key = other <;> simp [lookup_cons, h, ← eq]
      · next ne =>
        by_cases h : k = other
        · simp [h, h ▸ ne]
        · simp [lookup_cons, h, ih]

/-- **The last value set is the one found.** -/
theorem get?_insert (d : Dict α) (key other : String) (value : α) :
    (d.insert key value).get? other = if key = other then some value else d.get? other :=
  lookup_put key other value d.entries

@[simp] theorem get?_insert_self (d : Dict α) (key : String) (value : α) :
    (d.insert key value).get? key = some value := by
  simp [get?_insert]

theorem get?_insert_ne (d : Dict α) {key other : String} (h : key ≠ other) (value : α) :
    (d.insert key value).get? other = d.get? other := by
  simp [get?_insert, h]

theorem get?_filterKeys (keep : String → Bool) (d : Dict α) (key : String) :
    (d.filterKeys keep).get? key = if keep key then d.get? key else none := by
  show (d.entries.filter _).lookup key = if keep key then d.entries.lookup key else none
  induction d.entries with
  | nil => simp
  | cons head rest ih =>
    obtain ⟨k, v⟩ := head
    by_cases hk : keep k = true
    · by_cases h : k = key
      · simp [h, h ▸ hk]
      · simp [hk, lookup_cons, h, ih]
    · by_cases h : k = key
      · subst h
        simp [hk, ih]
      · simp [hk, lookup_cons, h, ih]

theorem lookup_eq_some_iff {key : String} {value : α} {l : List (String × α)}
    (h : l.Pairwise (fun a b => a.1 < b.1)) :
    l.lookup key = some value ↔ (key, value) ∈ l := by
  induction l with
  | nil => simp
  | cons head rest ih =>
    obtain ⟨k, v⟩ := head
    have hrest := List.pairwise_cons.1 h
    by_cases hk : k = key
    · subst hk
      simp only [lookup_cons, if_true, Option.some.injEq, List.mem_cons, Prod.mk.injEq, true_and]
      refine ⟨fun h => .inl h.symm, fun h => h.elim Eq.symm fun mem => ?_⟩
      exact absurd (hrest.1 _ mem) (String.lt_irrefl k)
    · simp [lookup_cons, hk, ih hrest.2, Ne.symm hk]

/-- A value is found exactly if its entry is there. -/
theorem get?_eq_some_iff {d : Dict α} {key : String} {value : α} :
    d.get? key = some value ↔ (key, value) ∈ d.entries :=
  lookup_eq_some_iff d.sorted

/-- A dictionary has the keys that look-ups find. -/
theorem mem_keys {d : Dict α} {key : String} : key ∈ d.keys ↔ ∃ value, d.get? key = some value := by
  constructor
  · intro mem
    obtain ⟨⟨own, value⟩, inside, rfl⟩ := List.mem_map.1 mem
    exact ⟨value, get?_eq_some_iff.2 inside⟩
  · rintro ⟨value, found⟩
    exact List.mem_map.2 ⟨(key, value), get?_eq_some_iff.1 found, rfl⟩

/-- No key occurs twice. -/
theorem nodup_keys (d : Dict α) : d.keys.Nodup := by
  refine List.pairwise_map.2 (d.sorted.imp fun {a b} lt same => ?_)
  exact String.lt_irrefl b.1 (same ▸ lt)

end Dict

end FormCard
