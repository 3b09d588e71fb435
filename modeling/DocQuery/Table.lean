/-
**Tables in the order of insertion.**

A table has entries under keys and keeps them in the order in which they were added.

* `Table.get?` and `Table.set` read and write an entry; `get?_set_self` and `get?_set_of_ne` say how
  they go together, and `keys_set` that a key once present keeps its place;
* `Table.ofPairs` adds entries one by one, so that the last value of a repeated key stays, at the
  first one's place.
-/

namespace DocQuery

/-- The entries of a table in their order. -/
abbrev Table (α : Type) := List (String × α)

namespace Table

variable {α : Type}

/-- The value under a key. -/
def get? (table : Table α) (key : String) : Option α :=
  match table with
  | [] => none
  | (name, value) :: more => if name = key then some value else get? more key

/-- Replaces the value under a key in its place, or adds an entry at the end. -/
def set (table : Table α) (key : String) (value : α) : Table α :=
  match table with
  | [] => [(key, value)]
  | (name, old) :: more =>
    if name = key then (name, value) :: more else (name, old) :: set more key value

/-- Removes the entry under a key. -/
def erase (table : Table α) (key : String) : Table α := table.filter fun entry => entry.1 != key

/-- The keys in their order. -/
def keys (table : Table α) : List String := table.map Prod.fst

/-- Adds entries one after the other. -/
def setAll (table additions : Table α) : Table α :=
  additions.foldl (fun table addition => set table addition.1 addition.2) table

/-- The table to which the given pairs are added in turn. -/
def ofPairs (pairs : Table α) : Table α := setAll [] pairs

@[simp] theorem get?_set_self (table : Table α) (key : String) (value : α) :
    (table.set key value).get? key = some value := by
  induction table with
  | nil => simp [set, get?]
  | cons entry more ih =>
    by_cases same : entry.1 = key <;> simp [set, get?, same, ih]

theorem get?_set_of_ne (table : Table α) {key other : String} (value : α)
    (different : other ≠ key) : (table.set key value).get? other = table.get? other := by
  induction table with
  | nil => simp [set, get?, different.symm]
  | cons entry more ih =>
    by_cases same : entry.1 = key
    · simp [set, get?, same, different.symm]
    · simp [set, get?, same, ih]

/-- A new key stands behind the others, and an old one keeps its place. -/
theorem keys_set (table : Table α) (key : String) (value : α) :
    (table.set key value).keys =
      if key ∈ table.keys then table.keys else table.keys ++ [key] := by
  induction table with
  | nil => simp [set, keys]
  | cons entry more ih =>
    obtain ⟨name, old⟩ := entry
    simp only [keys] at ih ⊢
    by_cases same : name = key
    · simp [set, same]
    · have other : ¬ key = name := fun equal => same equal.symm
      by_cases present : key ∈ List.map Prod.fst more <;> simp [set, same, other, ih, present]

end Table

end DocQuery
