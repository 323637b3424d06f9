import Bindery.Table
import Bindery.Text.Raw

/-! # Trees of files

What stands at a name is a file or a directory, and a directory has entries by name again. A place
is the list of the names that lead to an entry from the top. Main statements: an entry that is put
into a directory stands there (`entryAt?_putAt`), and what stands at a place that branches off from
its place stays (`entryAt?_putAt_of_diverge`).
-/

namespace Bindery

/-- What stands at a name. -/
inductive Entry where
  | file (bytes : ByteArray)
  | directory (children : List (RawText × Entry))

namespace Entry

/-- What stands at a place below some entries. The top is a directory itself. -/
def entryAt? (children : List (RawText × Entry)) : (place : List RawText) → Option Entry
  | [] => some (.directory children)
  | name :: rest =>
    match children.lookup name, rest with
    | some entry, [] => some entry
    | some (.directory inner), next :: rest => entryAt? inner (next :: rest)
    | _, _ => none

/-- Puts an entry at a place in a directory. Where there is no such directory nothing changes. -/
def putAt (children : List (RawText × Entry)) (entry : Entry) :
    (place : List RawText) → List (RawText × Entry)
  | [] => children
  | [name] => Table.putEntry name entry children
  | name :: next :: rest =>
    match children.lookup name with
    | some (.directory inner) =>
      Table.putEntry name (.directory (putAt inner entry (next :: rest))) children
    | _ => children

/-- The directories that lead to a place, with nothing else in them. -/
def nested (place : List RawText) : List (RawText × Entry) :=
  place.foldr (fun name inner => [(name, .directory inner)]) []

mutual

/-- The files of an entry, with their places below it. -/
def files : Entry → List (List RawText × ByteArray)
  | .file bytes => [([], bytes)]
  | .directory children => filesBelow children

/-- The files in a directory, with their places. -/
def filesBelow : List (RawText × Entry) → List (List RawText × ByteArray)
  | [] => []
  | (name, entry) :: rest =>
    entry.files.map (fun file => (name :: file.1, file.2)) ++ filesBelow rest

end

mutual

/-- The number of names in an entry. -/
def size : Entry → Nat
  | .file _ => 0
  | .directory children => sizeBelow children

/-- The number of names in a directory and all directories below it. -/
def sizeBelow : List (RawText × Entry) → Nat
  | [] => 0
  | (_, entry) :: rest => 1 + entry.size + sizeBelow rest

end

theorem entryAt?_cons {children inner : List (RawText × Entry)} {name : RawText}
    (there : children.lookup name = some (.directory inner)) (place : List RawText) :
    entryAt? children (name :: place) = entryAt? inner place := by
  cases place <;> simp [entryAt?, there]

theorem putAt_cons {children inner : List (RawText × Entry)} {name : RawText}
    (there : children.lookup name = some (.directory inner)) (entry : Entry) {place : List RawText}
    (below : place ≠ []) :
    putAt children entry (name :: place) =
      Table.putEntry name (.directory (putAt inner entry place)) children := by
  cases place with
  | nil => exact absurd rfl below
  | cons next rest => simp [putAt, there]

theorem lookup_eq_of_entryAt? {children inner : List (RawText × Entry)} {name : RawText}
    {place : List RawText} (there : entryAt? children (name :: place) = some (.directory inner)) :
    ∃ below, children.lookup name = some (.directory below) ∧
      entryAt? below place = some (.directory inner) := by
  cases place with
  | nil => cases found : children.lookup name <;> simp_all [entryAt?]
  | cons next rest =>
    match found : children.lookup name with
    | some (.directory below) => exact ⟨below, rfl, entryAt?_cons found _ ▸ there⟩
    | some (.file _) => simp [entryAt?, found] at there
    | none => simp [entryAt?, found] at there

theorem entryAt?_putAt {children inner : List (RawText × Entry)} {directory : List RawText}
    (there : entryAt? children directory = some (.directory inner)) (name : RawText)
    (entry : Entry) :
    entryAt? (putAt children entry (directory ++ [name])) (directory ++ [name]) = some entry := by
  induction directory generalizing children with
  | nil => simp [putAt, entryAt?, Table.lookup_putEntry]
  | cons first rest ih =>
    obtain ⟨below, found, deeper⟩ := lookup_eq_of_entryAt? there
    rw [List.cons_append, putAt_cons found entry (by simp),
      entryAt?_cons (Table.lookup_putEntry_self ..), ih deeper]

theorem lookup_putAt_of_ne {children : List (RawText × Entry)} {name other : RawText}
    (differs : other ≠ name) (entry : Entry) (place : List RawText) :
    (putAt children entry (name :: place)).lookup other = children.lookup other := by
  cases place with
  | nil => simp [putAt, Table.lookup_putEntry, differs]
  | cons next rest =>
    simp only [putAt]
    split
    · simp [Table.lookup_putEntry, differs]
    · rfl

theorem entryAt?_putAt_of_diverge {name other : RawText} (differs : other ≠ name)
    (children : List (RawText × Entry)) (entry : Entry) (shared place rest : List RawText) :
    entryAt? (putAt children entry (shared ++ name :: place)) (shared ++ other :: rest) =
      entryAt? children (shared ++ other :: rest) := by
  induction shared generalizing children with
  | nil =>
    simp only [List.nil_append]
    unfold entryAt?
    rw [lookup_putAt_of_ne differs]
  | cons first shared ih =>
    match found : children.lookup first with
    | some (.directory below) =>
      rw [List.cons_append, List.cons_append, putAt_cons found entry (by simp),
        entryAt?_cons (Table.lookup_putEntry_self ..), entryAt?_cons found, ih]
    | some (.file _) => cases shared <;> simp [putAt, found]
    | none => cases shared <;> simp [putAt, found]

end Entry

end Bindery
