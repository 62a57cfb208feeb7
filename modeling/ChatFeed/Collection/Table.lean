/-!
# Tables

A table keeps one value for each of finitely many keys. Its entries stand in
ascending key order, so the order in which keys were first used never shows.

## Main definitions

* `Table.get?`, `Table.insert`, `Table.erase`: reading and writing one key
* `Table.keys`: the keys in use, ascending

## Main results

* `Table.get?_insert`, `Table.get?_erase`: each write changes what is read at
  its own key and nowhere else
-/

namespace ChatFeed

/-- A finite map from `κ` to `α`. -/
structure Table (κ α : Type) where
  /-- The keys and their values, ascending by key. -/
  entries : List (κ × α) := []
deriving DecidableEq

namespace Table

variable {κ α : Type}

instance : EmptyCollection (Table κ α) := ⟨⟨[]⟩⟩

instance : Inhabited (Table κ α) := ⟨∅⟩

/-- The keys in use, ascending. -/
def keys (t : Table κ α) : List κ :=
  t.entries.map (·.1)

/-- The values, in the order of their keys. -/
def values (t : Table κ α) : List α :=
  t.entries.map (·.2)

/-! ### Reading -/

section Reading

variable [DecidableEq κ]

/-- The value that the first entry with key `k` carries. -/
def lookup (k : κ) : List (κ × α) → Option α
  | [] => none
  | (k', v) :: rest => if k' = k then some v else lookup k rest

/-- The value at `k`, if the key is in use. -/
def get? (t : Table κ α) (k : κ) : Option α :=
  lookup k t.entries

/-- The value at `k`, or `default` if the key is not in use. -/
def getD (t : Table κ α) (k : κ) (default : α) : α :=
  (t.get? k).getD default

/-- Whether `k` is in use. -/
def contains (t : Table κ α) (k : κ) : Bool :=
  (t.get? k).isSome

@[simp] theorem get?_empty (k : κ) : (∅ : Table κ α).get? k = none := rfl

@[simp] theorem getD_empty (k : κ) (default : α) :
    (∅ : Table κ α).getD k default = default := rfl

end Reading

/-! ### Erasing -/

section Erasing

variable [DecidableEq κ]

/-- Puts `k` out of use. -/
def erase (t : Table κ α) (k : κ) : Table κ α :=
  ⟨t.entries.filter fun entry => entry.1 ≠ k⟩

theorem lookup_filter_ne (k k' : κ) (entries : List (κ × α)) :
    lookup k' (entries.filter fun entry => entry.1 ≠ k) =
      if k = k' then none else lookup k' entries := by
  induction entries with
  | nil => simp [lookup]
  | cons entry rest ih =>
    obtain ⟨key, value⟩ := entry
    by_cases same : key = k
    · subst same
      by_cases found : key = k' <;> simp_all [lookup]
    · by_cases found : key = k'
      · subst found
        simp [lookup, same, Ne.symm same]
      · simp_all [lookup]

/-- An erased key is out of use and every other key is left alone. -/
theorem get?_erase (t : Table κ α) (k k' : κ) :
    (t.erase k).get? k' = if k = k' then none else t.get? k' :=
  lookup_filter_ne k k' t.entries

@[simp] theorem get?_erase_self (t : Table κ α) (k : κ) : (t.erase k).get? k = none := by
  simp [get?_erase]

end Erasing

/-! ### Writing -/

section Writing

variable [DecidableEq κ] [LT κ] [DecidableLT κ]

/-- Puts `(k, v)` in its place among entries that are ascending by key. -/
def place (k : κ) (v : α) : List (κ × α) → List (κ × α)
  | [] => [(k, v)]
  | (k', v') :: rest =>
    if k' = k then (k, v) :: rest
    else if k < k' then (k, v) :: (k', v') :: rest
    else (k', v') :: place k v rest

/-- Sets the value at `k`. -/
def insert (t : Table κ α) (k : κ) (v : α) : Table κ α :=
  ⟨place k v t.entries⟩

theorem lookup_place (k k' : κ) (v : α) (entries : List (κ × α)) :
    lookup k' (place k v entries) = if k = k' then some v else lookup k' entries := by
  induction entries with
  | nil => simp [place, lookup]
  | cons entry rest ih =>
    obtain ⟨key, value⟩ := entry
    by_cases same : key = k
    · subst same
      by_cases found : key = k' <;> simp [place, lookup, found]
    · by_cases before : k < key
      · simp [place, lookup, same, before]
      · by_cases found : key = k'
        · subst found
          simp [place, lookup, same, before, Ne.symm same]
        · simp [place, lookup, same, before, found, ih]

/-- A write is read back at its key and leaves every other key alone. -/
theorem get?_insert (t : Table κ α) (k k' : κ) (v : α) :
    (t.insert k v).get? k' = if k = k' then some v else t.get? k' :=
  lookup_place k k' v t.entries

@[simp] theorem get?_insert_self (t : Table κ α) (k : κ) (v : α) :
    (t.insert k v).get? k = some v := by
  simp [get?_insert]

theorem get?_insert_of_ne (t : Table κ α) {k k' : κ} (distinct : k ≠ k') (v : α) :
    (t.insert k v).get? k' = t.get? k' := by
  simp [get?_insert, distinct]

end Writing

end Table

end ChatFeed
