import Mathlib
import Bindery.Store.Disk

/-! # What stands on a disk

At a place of a disk stands a file, a directory or nothing. Main statements: an entry that is put
into a directory changes what stands at its place and nowhere else (`Disk.standing?_put`), and
making the directories in which a path lies adds directories and does nothing else
(`Disk.grows_makeParents`).
-/

namespace Bindery

/-- What stands at a place: a file with its bytes, or a directory whatever is in it. -/
inductive Standing where
  | file (bytes : ByteArray)
  | directory
  deriving DecidableEq

namespace Entry

/-- What an entry is. -/
def standing : Entry → Standing
  | .file bytes => .file bytes
  | .directory _ => .directory

/-- Nothing is in an entry. -/
def Bare (entry : Entry) : Prop := ∀ inner, entry = .directory inner → inner = []

theorem bare_file (bytes : ByteArray) : (Entry.file bytes).Bare := fun _ same => nomatch same

theorem bare_directory : (Entry.directory []).Bare := fun _ same => (Entry.directory.inj same).symm

variable {children inner : List (RawText × Entry)} {name : RawText} {entry : Entry}

theorem entryAt?_nil (place : List RawText) (name : RawText) :
    entryAt? [] (name :: place) = none := by
  cases place <;> rfl

theorem entryAt?_singleton (children : List (RawText × Entry)) (name : RawText) :
    entryAt? children [name] = children.lookup name := by
  unfold entryAt?
  cases children.lookup name <;> rfl

theorem entryAt?_congr {other : List (RawText × Entry)}
    (same : children.lookup name = other.lookup name) (place : List RawText) :
    entryAt? children (name :: place) = entryAt? other (name :: place) := by
  unfold entryAt?
  rw [same]

/-- Nothing stands below a file, or below nothing. -/
theorem entryAt?_cons_of_no_directory
    (no_directory : ∀ inner, children.lookup name ≠ some (.directory inner)) (next : RawText)
    (place : List RawText) : entryAt? children (name :: next :: place) = none := by
  unfold entryAt?
  split
  · next later => cases later
  · next found _ => exact absurd found (no_directory _)
  · rfl

/-- What stands below a place stands there below the directory of that place. -/
theorem entryAt?_append {place rest : List RawText} {next : RawText} {entry : Entry}
    (there : entryAt? children (place ++ next :: rest) = some entry) :
    ∃ inner, entryAt? children place = some (.directory inner) ∧
      entryAt? inner (next :: rest) = some entry := by
  induction place generalizing children with
  | nil => exact ⟨children, rfl, there⟩
  | cons first place ih =>
    match found : children.lookup first with
    | some (.directory below) =>
      rw [List.cons_append, entryAt?_cons found] at there
      obtain ⟨inner, here, deeper⟩ := ih there
      exact ⟨inner, (entryAt?_cons found place).trans here, deeper⟩
    | some (.file bytes) =>
      cases place <;> simp [entryAt?, found] at there
    | none => cases place <;> simp [entryAt?, found] at there

/-- An entry that is put where no directory stands changes what stands at its place and nowhere
else. -/
theorem standing_putAt {directory : List RawText}
    (there : entryAt? children directory = some (.directory inner))
    (free : ∀ below, entryAt? children (directory ++ [name]) ≠ some (.directory below))
    (bare : entry.Bare) (place : List RawText) :
    (entryAt? (putAt children entry (directory ++ [name])) place).map standing =
      if place = directory ++ [name] then some entry.standing
      else (entryAt? children place).map standing := by
  induction directory generalizing children place with
  | nil =>
    rw [List.nil_append] at free ⊢
    -- Nothing stood below the name, and nothing stands below it now.
    have placed : (putAt children entry [name]).lookup name = some entry :=
      Table.lookup_putEntry_self ..
    match place with
    | [] => rfl
    | other :: rest =>
      by_cases same : other = name
      · subst same
        match rest with
        | [] => rw [entryAt?_singleton, placed, if_pos rfl, Option.map_some]
        | next :: rest =>
          have before (below) : children.lookup other ≠ some (.directory below) := fun found =>
            free below ((entryAt?_singleton ..).trans found)
          rw [if_neg (by simp), entryAt?_cons_of_no_directory before]
          match entry with
          | .file bytes =>
            rw [entryAt?_cons_of_no_directory]
            simp [placed]
          | .directory below =>
            rw [entryAt?_cons placed, bare below rfl, entryAt?_nil]
      · have differs : ¬other :: rest = [name] := fun equal => same (List.cons.inj equal).1
        rw [if_neg differs, entryAt?_congr (lookup_putAt_of_ne same entry [])]
  | cons first rest ih =>
    obtain ⟨below, found, deeper⟩ := lookup_eq_of_entryAt? there
    have still : ∀ inner, entryAt? below (rest ++ [name]) ≠ some (.directory inner) := by
      intro inner stands
      exact free inner ((entryAt?_cons found _).trans stands)
    rw [List.cons_append, putAt_cons found entry (by simp)]
    match place with
    | [] => rfl
    | other :: more =>
      -- Only the directory of the first name is another one, and in it only what the rest leads to.
      by_cases same : other = first
      · subst same
        rw [entryAt?_cons (Table.lookup_putEntry_self ..), entryAt?_cons found,
          ih deeper still]
        simp
      · have differs : ¬other :: more = first :: (rest ++ [name]) := fun equal =>
          same (List.cons.inj equal).1
        rw [if_neg differs, entryAt?_congr]
        rw [Table.lookup_putEntry, if_neg same]

/-- Nothing changes where there is no directory to put an entry into. -/
theorem standing_putAt_of_absent {directory : List RawText}
    (absent : ∀ inner, entryAt? children directory ≠ some (.directory inner))
    (place : List RawText) :
    (entryAt? (putAt children entry (directory ++ [name])) place).map standing =
      (entryAt? children place).map standing := by
  induction directory generalizing children place with
  | nil => exact absurd rfl (absent children)
  | cons first rest ih =>
    match found : children.lookup first with
    | some (.directory below) =>
      have deeper : ∀ inner, entryAt? below rest ≠ some (.directory inner) := fun inner stands =>
        absent inner ((entryAt?_cons found rest).trans stands)
      rw [List.cons_append, putAt_cons found entry (by simp)]
      match place with
      | [] => rfl
      | other :: more =>
        by_cases same : other = first
        · subst same
          rw [entryAt?_cons (Table.lookup_putEntry_self ..), entryAt?_cons found, ih deeper]
        · rw [entryAt?_congr]
          rw [Table.lookup_putEntry, if_neg same]
    | some (.file bytes) => cases rest <;> simp [putAt, found]
    | none => cases rest <;> simp [putAt, found]

end Entry

namespace Disk

variable {disk before after : Disk} {place directory names : List RawText} {name : RawText}
  {entry : Entry} {path : Path}

/-- What stands at a place. -/
def standing? (disk : Disk) (place : List RawText) : Option Standing :=
  (disk.entry? place).map Entry.standing

theorem standing?_eq_directory_iff :
    disk.standing? place = some .directory ↔
      ∃ inner, disk.entry? place = some (.directory inner) := by
  rw [standing?, Option.map_eq_some_iff]
  constructor
  · rintro ⟨entry, there, standing⟩
    cases entry with
    | file => cases standing
    | directory inner => exact ⟨inner, there⟩
  · rintro ⟨inner, there⟩
    exact ⟨_, there, rfl⟩

theorem standing?_nil (disk : Disk) : disk.standing? [] = some .directory := rfl

/-- What is put into a directory stands at its place, and everything else stays. -/
theorem standing?_put (free : disk.standing? (directory ++ [name]) ≠ some .directory)
    (bare : entry.Bare) (place : List RawText) :
    (disk.put (directory ++ [name]) entry).standing? place =
      if place = directory ++ [name] ∧ disk.standing? directory = some .directory
      then some entry.standing else disk.standing? place := by
  by_cases there : disk.standing? directory = some .directory
  · obtain ⟨inner, here⟩ := standing?_eq_directory_iff.mp there
    simp only [there, and_true]
    refine Entry.standing_putAt here (fun below stands => ?_) bare place
    exact free (standing?_eq_directory_iff.mpr ⟨below, stands⟩)
  · rw [if_neg fun both => there both.2]
    refine Entry.standing_putAt_of_absent (fun inner stands => ?_) place
    exact there (standing?_eq_directory_iff.mpr ⟨inner, stands⟩)

/-! ## Making directories -/

/-- One disk has more directories than another, and is like it otherwise. -/
structure Grows (before after : Disk) : Prop where
  workingDirectory : after.workingDirectory = before.workingDirectory
  kept : ∀ place standing, before.standing? place = some standing →
    after.standing? place = some standing
  files : ∀ place bytes, after.standing? place = some (.file bytes) →
    before.standing? place = some (.file bytes)

theorem Grows.refl (disk : Disk) : disk.Grows disk := ⟨rfl, fun _ _ => id, fun _ _ => id⟩

theorem Grows.trans {middle : Disk} (first : before.Grows middle) (second : middle.Grows after) :
    before.Grows after where
  workingDirectory := second.workingDirectory.trans first.workingDirectory
  kept place standing stood := second.kept place standing (first.kept place standing stood)
  files place bytes stands := first.files place bytes (second.files place bytes stands)

theorem grows_put_directory (vacant : disk.standing? (directory ++ [name]) = none) :
    disk.Grows (disk.put (directory ++ [name]) (.directory [])) := by
  have free : disk.standing? (directory ++ [name]) ≠ some .directory := by simp [vacant]
  have stands := standing?_put free Entry.bare_directory
  refine ⟨rfl, fun place standing stood => ?_, fun place bytes now => ?_⟩
  · have other : place ≠ directory ++ [name] := by
      rintro rfl
      simp [vacant] at stood
    rw [stands, if_neg fun both => other both.1, stood]
  · rw [stands] at now
    split at now
    · cases now
    · exact now

/-- Directories are made one below the other, as far as that goes. -/
theorem grows_makeFrom (madeOne : Bool) (directory : List RawText) (path : List Component) :
    disk.Grows (disk.makeFrom madeOne directory path).1 := by
  induction path generalizing disk directory madeOne with
  | nil => exact .refl disk
  | cons component rest ih =>
    match component with
    | .root => exact ih madeOne []
    | .current => exact ih madeOne directory
    | .parent => exact ih madeOne directory.dropLast
    | .normal name =>
      simp only [makeFrom]
      split
      · exact .refl disk
      · split
        · exact ih madeOne (directory ++ [name])
        · exact .refl disk
        · next vacant =>
          have vacant : disk.standing? (directory ++ [name]) = none := by simp [standing?, vacant]
          exact (grows_put_directory vacant).trans (ih true (directory ++ [name]))

theorem grows_makeParents (disk : Disk) (path : Path) : disk.Grows (disk.makeParents path).1 := by
  unfold makeParents
  split
  · exact .refl disk
  · split
    · exact .refl disk
    · exact grows_makeFrom false _ _

end Disk

end Bindery
