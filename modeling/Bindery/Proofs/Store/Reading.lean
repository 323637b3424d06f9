import Bindery.Proofs.Store.Joins
import Bindery.Proofs.Store.Standing

/-! # Reading and writing on a disk

A path without `..` leads to one place, whatever stands on the disk: to its names from the top or
from the working directory. Main statements: what is read at a path depends on nothing but what stands
there (`Disk.read?_eq`); what is written is put there (`Disk.writeText_eq_ok`); so files that have
been written elsewhere make no difference to a path that can be read (`Disk.After.read?`).
-/

namespace Bindery

/-! ## Where paths lead -/

/-- The name that a component is. -/
def Component.name? : Component → Option RawText
  | .normal name => some name
  | _ => none

/-- The names in a path. -/
def Path.names (path : Path) : List RawText := path.components.filterMap Component.name?

theorem Component.eq_map_names {components : List Component}
    (named : ∀ component ∈ components, ∃ name, component = .normal name) :
    components = (components.filterMap name?).map .normal := by
  induction components with
  | nil => rfl
  | cons component rest ih =>
    obtain ⟨⟨name, rfl⟩, later⟩ := List.forall_mem_cons.mp named
    have here : name? (.normal name) = some name := rfl
    rw [List.filterMap_cons_some here, List.map_cons, ← ih later]

namespace Path

theorem exists_front (path : Path) : ∃ (front : Option Component) (pieces : List RawText),
    path.components = front.toList ++ pieces.filterMap (Component.ofPiece? false) := by
  unfold components
  split
  · exact ⟨some .root, _, rfl⟩
  · dsimp only
    split
    · exact ⟨none, [], rfl⟩
    · next first rest _ => exact ⟨Component.ofPiece? true first, rest, rfl⟩

/-- Only the first component of a path can be the root or the working directory. -/
theorem components_cases {path : Path} (plain : Component.parent ∉ path.components) :
    path.components = .root :: path.names.map .normal ∨
      path.components = .current :: path.names.map .normal ∨
      path.components = path.names.map .normal := by
  obtain ⟨front, pieces, parts⟩ := path.exists_front
  have named : ∀ component ∈ pieces.filterMap (Component.ofPiece? false),
      ∃ name, component = .normal name := by
    intro component member
    obtain ⟨piece, _, read⟩ := List.mem_filterMap.mp member
    refine (Component.ofPiece?_false read).resolve_left ?_
    rintro rfl
    exact plain (parts ▸ List.mem_append_right _ member)
  have tail := Component.eq_map_names named
  unfold names
  rw [parts] at plain ⊢
  match front with
  | none => exact .inr (.inr tail)
  | some .root => exact .inl (congrArg _ tail)
  | some .current => exact .inr (.inl (congrArg _ tail))
  | some .parent => exact absurd List.mem_cons_self plain
  | some (.normal name) => exact .inr (.inr (congrArg _ tail))

end Path

namespace Disk

/-- Where the names in a path lead, from the top or from the working directory. -/
def place (disk : Disk) (path : Path) : List RawText :=
  (if path.components.head? = some .root then [] else disk.workingDirectory) ++ path.names

theorem place_congr (disk : Disk) {first second : Path} (same : first.same second = true) :
    disk.place first = disk.place second := by
  have components : first.components = second.components := of_decide_eq_true same
  rw [place, place, Path.names, Path.names, components]

variable {disk : Disk} {place directory names : List RawText} {name : RawText} {entry : Entry}
  {path : Path}

theorem follow_components (plain : Component.parent ∉ path.components) :
    disk.follow disk.workingDirectory path.components =
      disk.follow (if path.components.head? = some .root then [] else disk.workingDirectory)
        (path.names.map .normal) := by
  obtain parts | parts | parts := Path.components_cases plain
  · rw [parts]
    rfl
  · rw [parts]
    rfl
  · rw [parts, if_neg]
    cases path.names <;> simp

theorem entry?_of_below {next : RawText} {rest : List RawText} {entry : Entry}
    (there : disk.entry? (place ++ next :: rest) = some entry) :
    ∃ inner, disk.entry? place = some (.directory inner) :=
  (Entry.entryAt?_append there).imp fun _ stands => stands.1

/-- Names are followed to what stands at their end. -/
theorem follow_names_eq_found_iff : disk.follow directory (names.map .normal) = .found place entry ↔
    place = directory ++ names ∧ disk.entry? place = some entry ∧
      ∀ name ∈ names, isTooLong name = false := by
  induction names generalizing directory with
  | nil =>
    rw [List.map_nil, List.append_nil, follow]
    cases found : disk.entry? directory with
    | none =>
      refine ⟨nofun, ?_⟩
      rintro ⟨rfl, there, _⟩
      rw [found] at there
      cases there
    | some stands =>
      constructor
      · rintro ⟨⟩
        exact ⟨rfl, found, nofun⟩
      · rintro ⟨rfl, there, _⟩
        rw [Option.some.inj (found.symm.trans there)]
  | cons name rest ih =>
    have longer : directory ++ name :: rest = directory ++ [name] ++ rest := by simp
    rw [List.map_cons, List.forall_mem_cons, longer]
    unfold follow
    by_cases long : isTooLong name = true
    · simp [long]
    · rw [if_neg long]
      have short : isTooLong name = false := Bool.eq_false_iff.mpr long
      match found : disk.entry? (directory ++ [name]), rest with
      | some (.directory inner), rest => simp only [ih, short, true_and]
      | some (.file bytes), [] =>
        constructor
        · rintro ⟨⟩
          exact ⟨(List.append_nil _).symm, found, short, nofun⟩
        · rintro ⟨rfl, there, _⟩
          rw [List.append_nil, found] at there
          rw [← Option.some.inj there, List.append_nil]
          rfl
      | none, [] =>
        refine ⟨nofun, ?_⟩
        rintro ⟨rfl, there, _⟩
        rw [List.append_nil, found] at there
        cases there
      | some (.file _), next :: rest | none, next :: rest =>
        -- What names lead on from is a directory.
        refine ⟨nofun, ?_⟩
        rintro ⟨rfl, there, _⟩
        obtain ⟨inner, above⟩ := entry?_of_below there
        rw [found] at above
        cases above

/-- Where the last name is vacant, nothing stands at the end of the names. -/
theorem follow_names_eq_vacant {last : List RawText}
    (led : disk.follow directory (names.map .normal) = .vacant last name) :
    directory ++ names = last ++ [name] ∧ disk.entry? (last ++ [name]) = none := by
  induction names generalizing directory with
  | nil =>
    rw [List.map_nil, follow] at led
    split at led <;> cases led
  | cons first rest ih =>
    rw [List.map_cons] at led
    unfold follow at led
    split at led
    · cases led
    · match found : disk.entry? (directory ++ [first]), rest with
      | some (.directory inner), rest =>
        rw [found] at led
        have below := ih led
        rwa [List.append_assoc] at below
      | none, [] =>
        rw [found] at led
        obtain ⟨⟩ := led
        exact ⟨rfl, found⟩
      | some (.file _), [] | some (.file _), next :: rest | none, next :: rest =>
        rw [found] at led
        cases led

/-! ## Reading and writing -/

/-- Whether the system takes a path and all names in it. -/
def takes (path : Path) : Bool :=
  (refusal? path).isNone && path.names.all fun name => !isTooLong name

/-- Whether a path can be that of a file. -/
def namesFile (path : Path) : Bool := !(endsInSlash path || endsInDot path)

theorem takes_of_accepted (accepted : refusal? path = none)
    (short : (path.names.all fun name => !isTooLong name) = true) : takes path = true := by
  rw [takes, accepted, short]
  rfl

/-- A path without `..` leads to what stands at its place. -/
theorem destination_eq_found_iff (plain : Component.parent ∉ path.components) :
    disk.destination path = .found place entry ↔
      takes path = true ∧ place = disk.place path ∧ disk.entry? place = some entry ∧
        ((∃ bytes, entry = .file bytes) → namesFile path = true) := by
  have taken : takes path = true ↔
      refusal? path = none ∧ ∀ name ∈ path.names, isTooLong name = false := by
    simp [takes]
  unfold destination
  rw [taken, follow_components plain]
  cases refused : refusal? path with
  | some fault => simp
  | none =>
    constructor
    · intro led
      dsimp only at led
      split at led
      · next spot bytes followed =>
        split at led
        · cases led
        · next ends =>
          cases led
          obtain ⟨here, there, short⟩ := follow_names_eq_found_iff.mp followed
          exact ⟨⟨rfl, short⟩, here, there, fun _ => by simpa [namesFile] using ends⟩
      · split at led <;> cases led
      · next noFile _ =>
        obtain ⟨here, there, short⟩ := follow_names_eq_found_iff.mp led
        refine ⟨⟨rfl, short⟩, here, there, ?_⟩
        rintro ⟨bytes, rfl⟩
        exact absurd led (noFile place bytes)
    · rintro ⟨⟨_, short⟩, rfl, there, file⟩
      have followed := follow_names_eq_found_iff.mpr ⟨rfl, there, short⟩
      cases entry with
      | file bytes =>
        have ends : (endsInSlash path || endsInDot path) = false := by
          simpa [namesFile] using file ⟨bytes, rfl⟩
        rw [followed]
        simp [ends]
        rfl
      | directory inner =>
        rw [followed]
        rfl

/-- What a store on a disk reads at a path. -/
def read? (disk : Disk) (path : Path) : Except Failure (Option String) :=
  if disk.pathExists path then
    match disk.readText path with
    | .ok text => .ok (some text)
    | .error fault => .error (.file fault)
  else .ok none

/-- What is read at a path where something stands. -/
def reading (path : Path) : Option Standing → Except Failure (Option String)
  | none => .ok none
  | some .directory => .error (.file .isDirectory)
  | some (.file bytes) =>
    if namesFile path then
      match String.fromUTF8? bytes with
      | some text => .ok (some text)
      | none => .error (.file .notText)
    else .ok none

theorem reading_of_nothing (plain : Component.parent ∉ path.components)
    (nothing : ∀ place entry, disk.destination path ≠ .found place entry) :
    (if takes path then reading path (disk.standing? (disk.place path)) else .ok none) =
      .ok none := by
  split
  · next taken =>
    cases there : disk.entry? (disk.place path) with
    | none =>
      rw [standing?, there]
      rfl
    | some entry =>
      have noFile : ¬((∃ bytes, entry = .file bytes) → namesFile path = true) := fun file =>
        nothing _ _ ((destination_eq_found_iff plain).mpr ⟨taken, rfl, there, file⟩)
      obtain ⟨⟨bytes, rfl⟩, ends⟩ := Classical.not_imp.mp noFile
      rw [standing?, there]
      simp [Entry.standing, reading, ends]
  · rfl

/-- Reading depends on nothing but what stands at the place of the path. -/
theorem read?_eq (plain : Component.parent ∉ path.components) :
    disk.read? path =
      if takes path then reading path (disk.standing? (disk.place path)) else .ok none := by
  unfold read? pathExists readText
  cases led : disk.destination path with
  | found place entry =>
    obtain ⟨taken, rfl, there, file⟩ := (destination_eq_found_iff plain).mp led
    rw [if_pos taken, standing?, there]
    cases entry with
    | file bytes =>
      have ends := file ⟨bytes, rfl⟩
      simp only [Option.map_some, Entry.standing, reading, ends, if_true]
      cases String.fromUTF8? bytes <;> rfl
    | directory inner => rfl
  | vacant directory name =>
    rw [reading_of_nothing plain fun place entry found => nomatch led.symm.trans found]
    rfl
  | blocked fault =>
    rw [reading_of_nothing plain fun place entry found => nomatch led.symm.trans found]
    rfl

theorem destination_eq_vacant {last : List RawText} (plain : Component.parent ∉ path.components)
    (led : disk.destination path = .vacant last name) :
    disk.place path = last ++ [name] ∧ disk.entry? (last ++ [name]) = none := by
  unfold destination at led
  rw [follow_components plain] at led
  split at led
  · cases led
  · split at led
    · split at led <;> cases led
    · next followed =>
      split at led
      · cases led
      · cases led
        exact follow_names_eq_vacant followed
    · next noVacancy => exact absurd led (noVacancy last name)

/-- A path names a file with a text, and the directories above it are there. -/
structure Holds (disk : Disk) (path : Path) (text : String) : Prop where
  plain : Component.parent ∉ path.components
  taken : takes path = true
  names : namesFile path = true
  stands : disk.entry? (disk.place path) = some (.file text.toUTF8)
  parents : disk.makeParents path = (disk, .ok ())

namespace Holds

variable {text : String}

theorem destination (holds : disk.Holds path text) :
    disk.destination path = .found (disk.place path) (.file text.toUTF8) :=
  (destination_eq_found_iff holds.plain).mpr ⟨holds.taken, rfl, holds.stands, fun _ => holds.names⟩

theorem read? (holds : disk.Holds path text) : disk.read? path = .ok (some text) := by
  have decoded : String.fromUTF8? text.toUTF8 = some text := by
    simp [String.fromUTF8?, String.fromUTF8, text.isValidUTF8]
  rw [Disk.read?, pathExists, readText, holds.destination]
  simp only [decoded, if_true]

theorem writeText (holds : disk.Holds path text) (content : String) :
    disk.writeText path content = .ok (disk.put (disk.place path) (.file content.toUTF8)) := by
  have ends : endsInSlash path = false ∧ endsInDot path = false := by
    simpa [namesFile] using holds.names
  rw [Disk.writeText, ends.1, holds.destination]
  rfl

end Holds

/-- What is written is put at the place of its path, where no directory stood. -/
theorem writeText_eq_ok {later : Disk} {content : String}
    (plain : Component.parent ∉ path.components)
    (wrote : disk.writeText path content = .ok later) :
    ∃ directory name, disk.place path = directory ++ [name] ∧
      disk.standing? (directory ++ [name]) ≠ some .directory ∧
      later = disk.put (directory ++ [name]) (.file content.toUTF8) := by
  unfold writeText at wrote
  split at wrote
  · split at wrote <;> cases wrote
  · split at wrote
    · cases wrote
    · next place bytes led =>
      cases wrote
      obtain ⟨_, rfl, stands, _⟩ := (destination_eq_found_iff plain).mp led
      have standing : disk.standing? (disk.place path) = some (.file bytes) := by
        rw [standing?, stands]
        rfl
      rcases List.eq_nil_or_concat (disk.place path) with top | ⟨directory, name, parts⟩
      · rw [top, standing?_nil] at standing
        cases standing
      · rw [List.concat_eq_append] at parts
        rw [parts] at standing ⊢
        exact ⟨directory, name, rfl, by simp [standing], rfl⟩
    · next directory name led =>
      cases wrote
      obtain ⟨parts, vacant⟩ := destination_eq_vacant plain led
      exact ⟨directory, name, parts, by simp [standing?, vacant], rfl⟩
    · cases wrote

/-- A disk after files at some places have been written: elsewhere it has the files that it had, and
all directories are still there. -/
structure After (base : Disk) (written : List (List RawText)) (disk : Disk) : Prop where
  workingDirectory : disk.workingDirectory = base.workingDirectory
  directories : ∀ place, base.standing? place = some .directory →
    disk.standing? place = some .directory
  files : ∀ place ∉ written, ∀ bytes,
    disk.standing? place = some (.file bytes) ↔ base.standing? place = some (.file bytes)

namespace After

variable {base disk : Disk} {written : List (List RawText)} {path : Path}

theorem refl (base : Disk) : base.After [] base := ⟨rfl, fun _ => id, fun _ _ _ => Iff.rfl⟩

theorem place_eq (after : base.After written disk) (path : Path) :
    disk.place path = base.place path := by
  rw [place, place, after.workingDirectory]

theorem grows {later : Disk} (after : base.After written disk) (grown : disk.Grows later) :
    base.After written later where
  workingDirectory := grown.workingDirectory.trans after.workingDirectory
  directories place stood := grown.kept place _ (after.directories place stood)
  files place other bytes :=
    ⟨fun stands => (after.files place other bytes).mp (grown.files place bytes stands),
      fun stood => grown.kept place _ ((after.files place other bytes).mpr stood)⟩

/-- Where nothing has been written, what can be read now could be read before. -/
theorem read? (after : base.After written disk) (plain : Component.parent ∉ path.components)
    (other : base.place path ∉ written) {found : Option String}
    (read : disk.read? path = .ok found) : base.read? path = .ok found := by
  rw [read?_eq plain, after.place_eq] at read
  rw [read?_eq plain]
  split at read
  · next taken =>
    rw [if_pos taken]
    cases stands : disk.standing? (base.place path) with
    | none =>
      have stood : base.standing? (base.place path) = none := by
        cases stood : base.standing? (base.place path) with
        | none => rfl
        | some standing =>
          cases standing with
          | directory => rw [after.directories _ stood] at stands; cases stands
          | file bytes => rw [(after.files _ other bytes).mpr stood] at stands; cases stands
      rw [stood]
      rwa [stands] at read
    | some standing =>
      rw [stands] at read
      cases standing with
      | directory => cases read
      | file bytes => rwa [(after.files _ other bytes).mp stands]
  · next refused => rwa [if_neg refused]

theorem writeText {later : Disk} {content : String} (after : base.After written disk)
    (plain : Component.parent ∉ path.components)
    (wrote : disk.writeText path content = .ok later) :
    base.After (written ++ [base.place path]) later := by
  obtain ⟨directory, name, parts, free, rfl⟩ := writeText_eq_ok plain wrote
  have now := standing?_put free (Entry.bare_file content.toUTF8)
  rw [← after.place_eq, parts]
  refine ⟨after.workingDirectory, fun place stood => ?_, fun place other bytes => ?_⟩
  · have before := after.directories place stood
    have elsewhere : place ≠ directory ++ [name] := by
      rintro rfl
      exact free before
    rw [now, if_neg fun both => elsewhere both.1, before]
  · obtain ⟨unwritten, elsewhere⟩ := not_or.mp (mt List.mem_append.mpr other)
    have elsewhere := mt List.mem_singleton.mpr elsewhere
    rw [now, if_neg fun both => elsewhere both.1, after.files place unwritten]

end After

end Disk

/-! ## The store of a machine -/

theorem FileSystem.run_demand {σ α : Type} (operation : StateM σ (Except FileFault α)) (world : σ) :
    (demand operation).run.run world =
      ((operation.run world).1.mapError .file, (operation.run world).2) := by
  rw [demand, ExceptT.run_mk, StateT.run_bind]
  rcases operation.run world with ⟨fault | value, after⟩ <;> rfl

namespace Machine

variable {machine after : Machine} {path : Path} {content : String}

theorem run_read (path : Path) (machine : Machine) :
    (fileSystem.store.read path).run.run machine = (machine.disk.read? path, machine) := by
  have looked : (fileSystem.store.read path).run.run machine =
      (if machine.disk.pathExists path then (do return some (← fileSystem.load path))
        else return none : ExceptT Failure (StateM Machine) (Option String)).run.run machine := rfl
  have loaded : (fileSystem.load path).run.run machine =
      ((machine.disk.readText path).mapError .file, machine) := FileSystem.run_demand _ machine
  rw [looked, Disk.read?]
  split
  · rw [ExceptT.run_bind, StateT.run_bind, loaded]
    cases machine.disk.readText path <;> rfl
  · rfl

theorem run_makeParents (path : Path) (machine : Machine) :
    (FileSystem.demand (fileSystem.makeParents path)).run.run machine =
      ((machine.disk.makeParents path).2.mapError .file,
        { machine with disk := (machine.disk.makeParents path).1 }) := by
  rw [FileSystem.run_demand]
  rfl

theorem run_writeText (path : Path) (content : String) (machine : Machine) :
    (FileSystem.demand (fileSystem.writeText path content)).run.run machine =
      match machine.disk.writeText path content with
      | .ok disk => (.ok (), { machine with disk })
      | .error fault => (.error (.file fault), machine) := by
  have asked : (fileSystem.writeText path content).run machine =
      (match machine.disk.writeText path content with
      | .ok disk => do set { machine with disk }; return .ok ()
      | .error fault => return .error fault : StateM Machine (Except FileFault Unit)).run machine :=
    rfl
  rw [FileSystem.run_demand, asked]
  cases machine.disk.writeText path content <;> rfl

/-- What is written stands there after the directories above it have been made. -/
theorem run_write_eq_ok_iff :
    (fileSystem.store.write path content).run.run machine = (.ok (), after) ↔
      ∃ made disk, machine.disk.makeParents path = (made, .ok ()) ∧
        made.writeText path content = .ok disk ∧ after = { machine with disk } := by
  have parts : fileSystem.store.write path content = (do
    FileSystem.demand (fileSystem.makeParents path)
    FileSystem.demand (fileSystem.writeText path content)) := rfl
  rw [parts, ExceptT.run_bind, StateT.run_bind, run_makeParents]
  rcases machine.disk.makeParents path with ⟨made, fault | done⟩
  · refine ⟨nofun, ?_⟩
    rintro ⟨_, _, ⟨⟩, _⟩
  · have wrote := run_writeText path content { machine with disk := made }
    constructor
    · intro ended
      replace ended := wrote.symm.trans ended
      split at ended
      · next disk text =>
        obtain ⟨⟩ := ended
        exact ⟨made, disk, rfl, text, rfl⟩
      · cases ended
    · rintro ⟨_, disk, ⟨⟩, text, rfl⟩
      rw [text] at wrote
      exact wrote

end Machine

end Bindery
