import Bindery.Proofs.Output.Foretelling

/-! # Backups in a dry run

A dry run looks for the name of a backup on the disk alone, not among the texts that it keeps in
memory. Main statements: of the names that are tried one is free on the disk, whatever stands there
(`Disk.pathExists_backupPath`); a backup goes wrong only where its name is in the memory
(`DryRun.backsUp_iff`); so calls keep the backups exactly when no name of a backup is one at which a
call before has put something (`DryRun.keepsBackups_iff`).
-/

namespace Bindery

/-! ## Free names on a disk -/

namespace Entry

/-- A directory has no more entries than there are names in it and below. -/
theorem length_le_sizeBelow (children : List (RawText × Entry)) :
    children.length ≤ sizeBelow children := by
  induction children with
  | nil => exact Nat.le_refl 0
  | cons child rest ih =>
    rw [List.length_cons, sizeBelow]
    omega

theorem size_le_sizeBelow {children : List (RawText × Entry)} {name : RawText} {entry : Entry}
    (found : children.lookup name = some entry) : entry.size ≤ sizeBelow children := by
  induction children with
  | nil => cases found
  | cons child rest ih =>
    obtain ⟨known, first⟩ := child
    rw [sizeBelow]
    rw [List.lookup_cons] at found
    split at found
    · cases found
      omega
    · have := ih found
      omega

/-- A directory below another one has no more names in it. -/
theorem sizeBelow_le {children inner : List (RawText × Entry)} {place : List RawText}
    (there : entryAt? children place = some (.directory inner)) :
    sizeBelow inner ≤ sizeBelow children := by
  induction place generalizing children with
  | nil =>
    cases there
    exact Nat.le_refl _
  | cons name rest ih =>
    obtain ⟨below, found, deeper⟩ := lookup_eq_of_entryAt? there
    have smaller := size_le_sizeBelow found
    rw [size] at smaller
    exact (ih deeper).trans smaller

end Entry

namespace Disk

variable (disk : Disk)

/-- No more names lead to something in a directory than there are names on the disk. -/
theorem exists_names_of_entry? (directory : List RawText) :
    ∃ names : List RawText, names.length ≤ Entry.sizeBelow disk.top ∧
      ∀ name entry, disk.entry? (directory ++ [name]) = some entry → name ∈ names := by
  by_cases inside : ∃ inner, disk.entry? directory = some (.directory inner)
  · obtain ⟨inner, there⟩ := inside
    refine ⟨inner.map (·.1), ?_, fun name entry stands => ?_⟩
    · rw [List.length_map]
      exact (Entry.length_le_sizeBelow inner).trans (Entry.sizeBelow_le there)
    · obtain ⟨same, here, found⟩ := Entry.entryAt?_append stands
      cases there.symm.trans here
      rw [Entry.entryAt?_singleton] at found
      obtain ⟨before, after, rfl, _⟩ := List.lookup_eq_some_iff.mp found
      simp
  · exact ⟨[], Nat.zero_le _, fun name entry stands => absurd (entry?_of_below stands) inside⟩

variable {disk}

/-- Behind a name a path leads on from the directory of that name. -/
theorem follow_of_follow_cons {directory place : List RawText} {first name : RawText}
    {rest : List Component} {entry : Entry}
    (followed : disk.follow directory (.normal first :: (rest ++ [.normal name])) =
      .found place entry) :
    disk.follow (directory ++ [first]) (rest ++ [.normal name]) = .found place entry := by
  unfold follow at followed
  split at followed
  · cases followed
  · split at followed
    · exact followed
    · next ends => exact absurd ends (by simp)
    · cases followed
    · next ends => exact absurd ends (by simp)
    · cases followed

variable (disk)

/-- Behind the same components, no more names lead to something than there are names on the disk. -/
theorem exists_names_of_follow (directory : List RawText) (front : List Component) :
    ∃ names : List RawText, names.length ≤ Entry.sizeBelow disk.top ∧
      ∀ name place entry, disk.follow directory (front ++ [.normal name]) = .found place entry →
        name ∈ names := by
  induction front generalizing directory with
  | nil =>
    obtain ⟨names, bound, listed⟩ := disk.exists_names_of_entry? directory
    refine ⟨names, bound, fun name place entry followed => listed name entry ?_⟩
    have leads : disk.follow directory ([name].map .normal) = .found place entry := followed
    obtain ⟨rfl, stands, _⟩ := follow_names_eq_found_iff.mp leads
    exact stands
  | cons component rest ih =>
    cases component with
    | root => exact ih []
    | current => exact ih directory
    | parent => exact ih directory.dropLast
    | normal first =>
      obtain ⟨names, bound, listed⟩ := ih (directory ++ [first])
      exact ⟨names, bound, fun name place entry followed =>
        listed name place entry (follow_of_follow_cons followed)⟩

/-- A path that leads to something is followed to something. -/
theorem exists_follow_of_pathExists {path : Path} (stands : disk.pathExists path = true) :
    ∃ place entry, disk.follow disk.workingDirectory path.components = .found place entry := by
  unfold pathExists destination at stands
  split at stands
  · next led =>
    split at led
    · cases led
    · split at led
      · next followed => exact ⟨_, _, followed⟩
      · split at led <;> cases led
      · exact ⟨_, _, led⟩
  · cases stands

/-- There are more names for backups than names on the disk, so one of the first is free. -/
theorem exists_free_backup (path : Path) (seconds : Nat) :
    ∃ n ≤ Entry.sizeBelow disk.top, disk.pathExists (path.backup seconds n) = false := by
  refine Classical.byContradiction fun none => ?_
  obtain ⟨front, last, parts⟩ := path.components_backup
  let name (n : Nat) : RawText := last ++ RawText.ofText (Path.backupEnding seconds n)
  obtain ⟨names, bound, listed⟩ := disk.exists_names_of_follow disk.workingDirectory front
  have distinct : ((List.range (Entry.sizeBelow disk.top + 1)).map name).Nodup := by
    refine List.pairwise_map.mpr (List.nodup_range.imp fun differ same => ?_)
    exact differ (Path.backupEnding_inj (RawText.ofText_inj.mp (List.append_cancel_left same)))
  have held : (List.range (Entry.sizeBelow disk.top + 1)).map name ⊆ names := by
    intro _ member
    obtain ⟨n, inside, rfl⟩ := List.mem_map.mp member
    have taken : disk.pathExists (path.backup seconds n) = true := by
      rw [List.mem_range] at inside
      exact Bool.not_eq_false _ ▸ fun free => none ⟨n, by omega, free⟩
    obtain ⟨place, entry, followed⟩ := disk.exists_follow_of_pathExists taken
    rw [parts] at followed
    exact listed _ place entry followed
  have most := distinct.length_le_of_subset held
  rw [List.length_map, List.length_range] at most
  omega

/-- The first name for a backup of a path that is free on the disk. -/
def backupPath (path : Path) (seconds : Nat) : Path :=
  Id.run (freeBackup (fun candidate => pure (disk.pathExists candidate)) path seconds
    (Entry.sizeBelow disk.top) 0)

theorem pathExists_backupPath (path : Path) (seconds : Nat) :
    disk.pathExists (disk.backupPath path seconds) = false := by
  obtain ⟨n, bound, free⟩ := disk.exists_free_backup path seconds
  exact freeBackup_free ⟨n, Nat.zero_le _, by omega, free⟩

/-- Nothing is read at the name. -/
theorem read?_backupPath (path : Path) (seconds : Nat) :
    disk.read? (disk.backupPath path seconds) = .ok none := by
  rw [read?, pathExists_backupPath]
  rfl

end Disk

/-! ## Calls on a dry run -/

/-- A call on a store. -/
inductive Call where
  | read (path : Path)
  | write (path : Path) (content : String)
  | backup (path : Path) (content : String)

namespace Machine

variable (machine : Machine)

/-- The name that a dry run gives to a backup of a path. -/
def backupName (path : Path) : Path := machine.disk.backupPath path machine.clock.look.1

/-- The machine after a look at its clock. -/
def ticked : Machine := { machine with clock := machine.clock.look.2 }

/-- The machine after the looks at its clock that calls take. -/
def tickedBy : List Call → Machine → Machine
  | [], machine => machine
  | .backup _ _ :: rest, machine => tickedBy rest machine.ticked
  | _ :: rest, machine => tickedBy rest machine

/-- Where calls on a dry run put something. -/
def places : List Call → Machine → List Path
  | [], _ => []
  | .read _ :: rest, machine => places rest machine
  | .write path _ :: rest, machine => path :: places rest machine
  | .backup path _ :: rest, machine => machine.backupName path :: places rest machine.ticked

theorem run_freeBackup (path : Path) (seconds tries attempt : Nat) :
    Id.run ((freeBackup fileSystem.pathExists path seconds tries attempt).run machine) =
      (Id.run (freeBackup (fun candidate => pure (machine.disk.pathExists candidate)) path seconds
        tries attempt), machine) := by
  induction tries generalizing attempt with
  | zero => rfl
  | succ tries ih =>
    have looked : (fileSystem.pathExists (path.backup seconds attempt)).run machine =
      pure (machine.disk.pathExists (path.backup seconds attempt), machine) := rfl
    rw [freeBackup, StateT.run_bind, looked, pure_bind, freeBackup, pure_bind]
    dsimp only
    split
    · exact ih (attempt + 1)
    · rfl

/-- Looking for the name of a backup takes a look at the clock. -/
theorem run_backupPath (path : Path) : Id.run ((fileSystem.backupPath path).run machine) =
    (machine.backupName path, machine.ticked) :=
  machine.ticked.run_freeBackup path machine.clock.look.1 (Entry.sizeBelow machine.disk.top) 0

end Machine

/-- A machine, and what a dry run on it keeps in memory. -/
structure DryRun where
  memory : Memory
  machine : Machine

namespace DryRun

variable {α : Type} (dry : DryRun)

/-- What an operation of a dry-run store answers, and the dry run after it. -/
def ask (operation : Store (StateT Memory (StateM Machine)) →
    ExceptT Failure (StateT Memory (StateM Machine)) α) : Except Failure α × DryRun :=
  let ended := Id.run (((operation Machine.fileSystem.dryRunStore).run.run dry.memory).run
    dry.machine)
  (ended.1.1, ⟨ended.1.2, ended.2⟩)

/-- What is read at a path through the store. -/
def seen (path : Path) : Except Failure (Option String) := (dry.ask fun store => store.read path).1

/-- The dry run after a call. -/
def after : Call → DryRun
  | .read path => (dry.ask fun store => store.read path).2
  | .write path content => (dry.ask fun store => store.write path content).2
  | .backup path content => (dry.ask fun store => store.backup path content).2

/-- The dry run after calls. -/
def afterAll (calls : List Call) : DryRun := calls.foldl after dry

theorem ask_read (path : Path) : dry.ask (fun store => store.read path) =
    (match dry.memory.get? path with
      | some text => .ok (some text)
      | none => dry.machine.disk.read? path, dry) := by
  cases held : dry.memory.get? path with
  | none =>
    rw [ask, run_read_dry _ held]
    rfl
  | some text =>
    have looked : ((Machine.fileSystem.dryRunStore.read path).run.run dry.memory).run dry.machine =
        ((((match dry.memory.get? path with
          | some content => return some content
          | none => ExceptT.mk (StateT.lift (Machine.fileSystem.read? path).run)) :
            ExceptT Failure (StateT Memory (StateM Machine)) (Option String)).run.run
              dry.memory).run dry.machine) := rfl
    rw [ask, looked, held]
    rfl

theorem ask_backup (path : Path) (content : String) :
    dry.ask (fun store => store.backup path content) = (.ok (dry.machine.backupName path),
      ⟨dry.memory.put (dry.machine.backupName path) content, dry.machine.ticked⟩) := by
  have asked : dry.ask (fun store => store.backup path content) =
      (.ok (Id.run ((Machine.fileSystem.backupPath path).run dry.machine)).1,
        ⟨dry.memory.put (Id.run ((Machine.fileSystem.backupPath path).run dry.machine)).1 content,
          (Id.run ((Machine.fileSystem.backupPath path).run dry.machine)).2⟩) := rfl
  rw [asked, Machine.run_backupPath]

/-- What is put into the memory is seen, and elsewhere the disk. -/
theorem seen_eq (path : Path) : dry.seen path =
    match dry.memory.get? path with
    | some text => .ok (some text)
    | none => dry.machine.disk.read? path := by
  rw [seen, ask_read]

/-! ## One backup -/

variable {dry} {path target : Path} {content : String}

/-- A backup gets a path at which nothing was seen; after it its text is seen there, and at every
other path what was seen before. -/
structure BacksUp (dry : DryRun) (path : Path) (content : String) (target : Path) : Prop where
  answers : (dry.ask fun store => store.backup path content).1 = .ok target
  fresh : dry.seen target = .ok none
  shown : (dry.after (.backup path content)).seen target = .ok (some content)
  others : ∀ other, target.same other = false →
    (dry.after (.backup path content)).seen other = dry.seen other

theorem after_backup : dry.after (.backup path content) =
    ⟨dry.memory.put (dry.machine.backupName path) content, dry.machine.ticked⟩ := by
  rw [after, ask_backup]

/-- A backup goes wrong only where its name is in the memory. -/
theorem backsUp_iff : (∃ target, dry.BacksUp path content target) ↔
    dry.memory.contains (dry.machine.backupName path) = false := by
  constructor
  · rintro ⟨target, backsUp⟩
    have answers := backsUp.answers
    rw [ask_backup] at answers
    cases answers
    have fresh := backsUp.fresh
    rw [seen_eq] at fresh
    cases held : dry.memory.get? (dry.machine.backupName path) with
    | none => rw [Memory.contains, held, Option.isSome_none]
    | some text => rw [held] at fresh; cases fresh
  · intro vacant
    rw [Memory.contains, Option.isSome_eq_false_iff, Option.isNone_iff_eq_none] at vacant
    refine ⟨dry.machine.backupName path, by rw [ask_backup], ?_, ?_, fun other apart => ?_⟩
    · rw [seen_eq, vacant]
      exact dry.machine.disk.read?_backupPath path _
    · rw [after_backup, seen_eq, Memory.get?_put, Path.same_self]
      rfl
    · rw [after_backup, seen_eq, seen_eq, Memory.get?_put, apart]
      rfl

/-! ## Calls one after the other -/

variable {calls : List Call}

theorem machine_afterAll : (dry.afterAll calls).machine = Machine.tickedBy calls dry.machine := by
  induction calls generalizing dry with
  | nil => rfl
  | cons call rest ih =>
    rw [afterAll, List.foldl_cons, ← afterAll, ih]
    cases call with
    | read path => rw [after, ask_read]; rfl
    | write path content => rfl
    | backup path content => rw [after_backup]; rfl

theorem contains_put {memory : Memory} {other : Path} :
    (memory.put path content).contains other = true ↔
      path.same other = true ∨ memory.contains other = true := by
  rw [Memory.contains, Memory.get?_put]
  cases path.same other <;> simp [Memory.contains]

/-- The memory has something where a call has put something, and nowhere else. -/
theorem contains_afterAll : (dry.afterAll calls).memory.contains path = true ↔
    dry.memory.contains path = true ∨
      ∃ place ∈ Machine.places calls dry.machine, place.same path = true := by
  induction calls generalizing dry with
  | nil => simp [afterAll, Machine.places]
  | cons call rest ih =>
    rw [afterAll, List.foldl_cons, ← afterAll, ih]
    cases call with
    | read other => rw [after, ask_read]; rfl
    | write other content =>
      have wrote : dry.after (.write other content) =
        ⟨dry.memory.put other content, dry.machine⟩ := rfl
      rw [wrote, contains_put, Machine.places, List.exists_mem_cons_iff, or_left_comm, or_assoc]
    | backup other content =>
      rw [after_backup, contains_put, Machine.places, List.exists_mem_cons_iff, or_left_comm,
        or_assoc]

/-- Every backup among calls is as it should be. -/
def KeepsBackups (dry : DryRun) (calls : List Call) : Prop :=
  ∀ before path content later, calls = before ++ .backup path content :: later →
    ∃ target, (dry.afterAll before).BacksUp path content target

/-- For any disk, clock and calls: a dry run keeps its backups exactly when no backup has a name,
the first that is free on the disk, at which a call before it has put something. -/
theorem keepsBackups_iff (machine : Machine) (calls : List Call) :
    KeepsBackups ⟨.empty, machine⟩ calls ↔
      ∀ before path content later, calls = before ++ .backup path content :: later →
        ∀ place ∈ machine.places before,
          place.same ((machine.tickedBy before).backupName path) = false := by
  have free (before : List Call) (path : Path) :
      (afterAll ⟨.empty, machine⟩ before).memory.contains path = false ↔
        ∀ place ∈ machine.places before, place.same path = false := by
    rw [← Bool.not_eq_true, contains_afterAll]
    simp [Memory.empty, Memory.contains, Memory.get?]
  simp only [KeepsBackups, backsUp_iff, machine_afterAll, free]

/-- Two backups of one path in one second get one name. -/
theorem not_keepsBackups_of_same_second (machine : Machine) (path : Path) (first second : String)
    (standing : machine.clock.look.2.look.1 = machine.clock.look.1) :
    ¬KeepsBackups ⟨.empty, machine⟩ [.backup path first, .backup path second] := by
  intro keeps
  have vacant := backsUp_iff.mp (keeps [.backup path first] path second [] rfl)
  have same : machine.ticked.backupName path = machine.backupName path :=
    congrArg (machine.disk.backupPath path) standing
  rw [machine_afterAll, Machine.tickedBy, Machine.tickedBy, same] at vacant
  have taken : (afterAll ⟨.empty, machine⟩ [.backup path first]).memory.contains
      (machine.backupName path) = true :=
    contains_afterAll.mpr (.inr ⟨_, List.mem_cons_self, Path.same_self _⟩)
  rw [taken] at vacant
  cases vacant

/-- On a disk where nothing stands, the second of two texts that are archived in one second takes
the place of the first. -/
theorem not_keepsBackups_bare :
    ¬KeepsBackups ⟨.empty, ⟨Disk.bare ["work"], .standing 0⟩⟩
      [.backup ⟨"a.g.cs"⟩ "v1", .backup ⟨"a.g.cs"⟩ "v2"] :=
  not_keepsBackups_of_same_second _ _ _ _ rfl

end DryRun

end Bindery
