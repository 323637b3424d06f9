/-! # Tables

A table maps keys to values and remembers the order in which its keys first came in. Putting a
value for a key that is there replaces the value and keeps the key's place.
-/

namespace Bindery

/-- Pairs in the order of the first appearance of their keys, with no key twice. -/
structure Table (α : Type) where
  entries : List (String × α)
  distinct : (entries.map Prod.fst).Nodup

namespace Table

variable {κ α : Type} [DecidableEq κ]

/-- Replaces the value of a key in place, or adds the pair at the end. -/
def putEntry (key : κ) (value : α) : List (κ × α) → List (κ × α)
  | [] => [(key, value)]
  | (k, v) :: rest => if k = key then (k, value) :: rest else (k, v) :: putEntry key value rest

theorem keys_putEntry (key : κ) (value : α) (entries : List (κ × α)) :
    (putEntry key value entries).map Prod.fst =
      if key ∈ entries.map Prod.fst then entries.map Prod.fst
      else entries.map Prod.fst ++ [key] := by
  induction entries with
  | nil => simp [putEntry]
  | cons entry rest ih =>
    obtain ⟨k, v⟩ := entry
    by_cases same : k = key
    · simp [putEntry, same]
    · simp only [putEntry, same, if_false, List.map_cons, ih, List.mem_cons, Ne.symm same, false_or]
      split <;> simp

theorem distinct_putEntry (key : κ) (value : α) {entries : List (κ × α)}
    (distinct : (entries.map Prod.fst).Nodup) :
    ((putEntry key value entries).map Prod.fst).Nodup := by
  rw [keys_putEntry]
  split
  · exact distinct
  · rename_i missing
    refine List.nodup_append.mpr ⟨distinct, by simp, ?_⟩
    intro a inside b last
    rw [List.mem_singleton] at last
    subst last
    intro equal
    exact missing (equal ▸ inside)

/-- The table without entries. -/
def empty : Table α := ⟨[], by simp⟩

instance : EmptyCollection (Table α) := ⟨empty⟩

instance : Inhabited (Table α) := ⟨∅⟩

/-- Sets the value of a key. -/
def insert (table : Table α) (key : String) (value : α) : Table α :=
  ⟨putEntry key value table.entries, distinct_putEntry key value table.distinct⟩

/-- Puts pairs in one after the other. -/
def insertAll (table : Table α) (pairs : List (String × α)) : Table α :=
  pairs.foldl (fun table pair => table.insert pair.1 pair.2) table

/-- The table of a list of pairs; of pairs with one key the last one counts. -/
def ofList (pairs : List (String × α)) : Table α := (∅ : Table α).insertAll pairs

/-- Lays a table over another: its values replace those of the same keys. -/
def merge (base other : Table α) : Table α := base.insertAll other.entries

/-- The value of a key. -/
def get? (table : Table α) (key : String) : Option α := table.entries.lookup key

/-- Whether a key has a value. -/
def contains (table : Table α) (key : String) : Bool := (table.get? key).isSome

/-- The number of keys. -/
def size (table : Table α) : Nat := table.entries.length

/-- Whether there are no keys. -/
def isEmpty (table : Table α) : Bool := table.entries.isEmpty

theorem lookup_putEntry [BEq κ] [LawfulBEq κ] (key other : κ) (value : α)
    (entries : List (κ × α)) :
    (putEntry key value entries).lookup other =
      if other = key then some value else entries.lookup other := by
  induction entries with
  | nil =>
    by_cases same : other = key
    · simp [putEntry, same]
    · have differs : (other == key) = false := by simpa using same
      simp [putEntry, List.lookup_cons, differs, same]
  | cons entry rest ih =>
    obtain ⟨k, v⟩ := entry
    by_cases here : k = key
    · subst here
      by_cases same : other = k
      · simp [putEntry, same]
      · have differs : (other == k) = false := by simpa using same
        simp [putEntry, List.lookup_cons, differs, same]
    · simp only [putEntry, here, if_false, List.lookup_cons, ih]
      by_cases found : other = k
      · subst found
        simp [here]
      · have differs : (other == k) = false := by simpa using found
        simp [differs]

theorem lookup_putEntry_self [BEq κ] [LawfulBEq κ] (key : κ) (value : α)
    (entries : List (κ × α)) :
    (putEntry key value entries).lookup key = some value := by
  rw [lookup_putEntry, if_pos rfl]

theorem get?_insert (table : Table α) (key other : String) (value : α) :
    (table.insert key value).get? other = if other = key then some value else table.get? other :=
  lookup_putEntry key other value table.entries

end Table

end Bindery
