import Mathlib.Data.List.Nodup
import Bindery.Table

/-! # Looking items up by key

Where keys are pairwise different, which item a key finds depends on the items alone and not on
their order (`find?_key_congr`), and a table is made again from its own entries
(`Table.ofList_entries`).
-/

namespace Bindery

/-- An item that is not looked for may stand anywhere. -/
theorem find?_insert {α : Type} {p : α → Bool} {item : α} (unsought : p item = false)
    (before after : List α) : (before ++ item :: after).find? p = (before ++ after).find? p := by
  rw [List.find?_append, List.find?_append, List.find?_cons_of_neg (by simp [unsought])]

/-- Where keys are pairwise different, an item is found by its key wherever it stands. -/
theorem find?_key_eq_some_iff {α : Type} {key : α → String} {items : List α}
    (distinct : (items.map key).Nodup) {name : String} {item : α} :
    items.find? (key · = name) = some item ↔ item ∈ items ∧ key item = name := by
  constructor
  · intro found
    exact ⟨List.mem_of_find?_eq_some found, by simpa using List.find?_some found⟩
  · rintro ⟨inside, rfl⟩
    have exists_key : (items.find? (key · = key item)).isSome :=
      List.find?_isSome.mpr ⟨item, inside, by simp⟩
    obtain ⟨other, found⟩ := Option.isSome_iff_exists.mp exists_key
    have same : key other = key item := by simpa using List.find?_some found
    rw [found, List.inj_on_of_nodup_map distinct (List.mem_of_find?_eq_some found) inside same]

/-- Where keys are pairwise different, the order does not bear on which item has a key. -/
theorem find?_key_congr {α : Type} {key : α → String} {first second : List α}
    (perm : first.Perm second) (distinct : (first.map key).Nodup) (name : String) :
    first.find? (key · = name) = second.find? (key · = name) := by
  have too : (second.map key).Nodup := (perm.map key).nodup distinct
  refine Option.ext fun item => ?_
  rw [find?_key_eq_some_iff distinct, find?_key_eq_some_iff too, perm.mem_iff]

/-- Of items with pairwise different keys, one has the key of a given item. -/
theorem filter_key_eq {α κ : Type} [DecidableEq κ] {key : α → κ} {items : List α} {item : α}
    (member : item ∈ items) (distinct : (items.map key).Nodup) :
    items.filter (fun other => decide (key other = key item)) = [item] := by
  induction items with
  | nil => cases member
  | cons first rest ih =>
    obtain ⟨fresh, later⟩ := List.nodup_cons.mp distinct
    rcases List.mem_cons.mp member with rfl | inside
    · have others : rest.filter (fun other => decide (key other = key item)) = [] :=
        List.filter_eq_nil_iff.mpr fun other there same =>
          fresh (of_decide_eq_true same ▸ List.mem_map_of_mem there)
      rw [List.filter_cons_of_pos (by simp), others]
    · have differs : key first ≠ key item := fun same =>
        fresh (same ▸ List.mem_map_of_mem inside)
      rw [List.filter_cons_of_neg (by simpa using differs), ih inside later]

namespace Table

variable {α : Type}

/-- A key that is not there comes in last. -/
theorem putEntry_of_fresh {key : String} (value : α) {entries : List (String × α)}
    (fresh : key ∉ entries.map Prod.fst) :
    putEntry key value entries = entries ++ [(key, value)] := by
  induction entries with
  | nil => rfl
  | cons entry rest ih =>
    obtain ⟨other, held⟩ := entry
    obtain ⟨differs, freshLater⟩ := not_or.mp (mt List.mem_cons.mpr fresh)
    rw [putEntry, if_neg (Ne.symm differs), ih freshLater, List.cons_append]

/-- Pairs of keys that are not there yet come in one after the other behind the entries. -/
theorem insertAll_of_fresh {pairs : List (String × α)} {table : Table α}
    (distinct : ((table.entries ++ pairs).map Prod.fst).Nodup) :
    (table.insertAll pairs).entries = table.entries ++ pairs := by
  induction pairs generalizing table with
  | nil => exact (List.append_nil _).symm
  | cons pair pairs ih =>
    have fresh : pair.1 ∉ table.entries.map Prod.fst := by
      rw [List.map_append, List.map_cons] at distinct
      intro inside
      exact List.disjoint_of_nodup_append distinct inside List.mem_cons_self
    have entries : (table.insert pair.1 pair.2).entries = table.entries ++ [pair] :=
      putEntry_of_fresh pair.2 fresh
    have stillDistinct :
        (((table.insert pair.1 pair.2).entries ++ pairs).map Prod.fst).Nodup := by
      rwa [entries, List.append_assoc, List.singleton_append]
    calc (table.insertAll (pair :: pairs)).entries
        = ((table.insert pair.1 pair.2).insertAll pairs).entries := rfl
      _ = table.entries ++ [pair] ++ pairs := by rw [ih stillDistinct, entries]
      _ = table.entries ++ pair :: pairs := List.append_cons .. |>.symm

/-- Tables with the same entries in the same order are the same. -/
theorem eq_of_entries {first second : Table α} (same : first.entries = second.entries) :
    first = second := by
  cases first
  cases second
  congr

/-- Putting in the entries of a table one by one makes the table again, in the same order. -/
theorem ofList_entries (table : Table α) : ofList table.entries = table :=
  eq_of_entries (insertAll_of_fresh table.distinct)

end Table

end Bindery
