/-!
# Indices

Values under keys, in the order in which the keys were first put. Putting a value under a key that is
there replaces the value and keeps the place.

What an index answers is said by `get?_put_self` and `get?_put_of_ne`, its keys by `keys_put`.
-/

namespace Annotator

/-- Values under keys in the order of the first insertion. -/
structure Index (α : Type) where
  entries : List (String × α)
  deriving Repr

namespace Index

variable {α : Type}

/-- The index without keys. -/
def empty : Index α := ⟨[]⟩

/-- The keys in order. -/
def keys (i : Index α) : List String := i.entries.map Prod.fst

/-- The values in the order of their keys. -/
def values (i : Index α) : List α := i.entries.map Prod.snd

/-- The value under a key. -/
def get? (i : Index α) (key : String) : Option α := i.entries.lookup key

/-- Replaces the value under a key, or adds the key at the end. -/
def putEntry (key : String) (value : α) : List (String × α) → List (String × α)
  | [] => [(key, value)]
  | (k, v) :: later => if k = key then (key, value) :: later else (k, v) :: putEntry key value later

/-- Puts a value under a key. -/
def put (i : Index α) (key : String) (value : α) : Index α := ⟨putEntry key value i.entries⟩

/-- Puts a value under a key that is not there yet. -/
def putNew (i : Index α) (key : String) (value : α) : Index α :=
  if (i.get? key).isSome then i else i.put key value

@[simp] theorem get?_empty (key : String) : (empty : Index α).get? key = none := rfl

@[simp] theorem keys_empty : (empty : Index α).keys = [] := rfl

theorem get?_put_self (i : Index α) (key : String) (value : α) :
    (i.put key value).get? key = some value := by
  unfold put get?
  induction i.entries with
  | nil => simp [putEntry]
  | cons e later ih =>
    obtain ⟨k, v⟩ := e
    by_cases h : k = key
    · simp [putEntry, h]
    · have : (key == k) = false := by simpa using fun e => h e.symm
      simpa [putEntry, h, List.lookup_cons, this] using ih

theorem get?_put_of_ne (i : Index α) {key other : String} (value : α) (h : other ≠ key) :
    (i.put key value).get? other = i.get? other := by
  unfold put get?
  have hb : (other == key) = false := by simpa using h
  induction i.entries with
  | nil => simp [putEntry, List.lookup_cons, hb]
  | cons e later ih =>
    obtain ⟨k, v⟩ := e
    by_cases hk : k = key
    · simp [putEntry, hk, List.lookup_cons, hb]
    · by_cases ho : (other == k) = true <;> simp [putEntry, hk, List.lookup_cons, ho, ih]

/-- Putting adds its key at the end unless it is there. -/
theorem keys_put (i : Index α) (key : String) (value : α) :
    (i.put key value).keys = if key ∈ i.keys then i.keys else i.keys ++ [key] := by
  unfold put keys
  induction i.entries with
  | nil => simp [putEntry]
  | cons e later ih =>
    obtain ⟨k, v⟩ := e
    by_cases h : k = key
    · simp [putEntry, h]
    · have : ¬ key = k := fun e => h e.symm
      simp only [putEntry, h, if_false, List.map_cons, List.mem_cons, this, false_or, ih]
      split <;> simp

end Index

end Annotator
