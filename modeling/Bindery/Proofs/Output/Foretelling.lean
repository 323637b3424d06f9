import Bindery.Proofs.Output.Sessions
import Bindery.Proofs.Store.Memory
import Bindery.Proofs.Store.Reading

/-! # Sessions that foretell others

A dry-run store reads a disk that stays as it is, a real one a disk that its own writes change. A
session over the first foretells the same session over the second as long as the second one never
reads where it has written. Main statements: an update that succeeds without backups found its text
in place or wrote it (`Output.inWorld_update_eq_ok_iff`); an update is foretold (`Foretold.update`),
and so are sessions one after the other that write to different places (`Foretold.bind`,
`Foretold.inTurn`). What a real session writes is on record in a store that does nothing else
(`Store.recorded`).
-/

namespace Bindery

/-- A store that keeps a record of where it has written. -/
def Store.recorded {m : Type → Type} [Monad m] (store : Store m) :
    Store (StateT (List Path) m) where
  read path := ExceptT.mk (StateT.lift (store.read path).run)
  write path content := do
    ExceptT.mk (StateT.lift (store.write path content).run)
    modifyThe (List Path) fun written => written ++ [path]
  writeNotes := store.writeNotes
  backup path content := do
    let target ← ExceptT.mk (StateT.lift (store.backup path content).run)
    modifyThe (List Path) fun written => written ++ [target]
    return target

namespace Session

variable {σ τ α β : Type}

/-- What a session ends with whose store keeps something of its own beside the world. -/
def within (session : Session (StateT τ (StateM σ)) α) (journal : Journal) (kept : τ) (world : σ) :
    ((Except Failure α × Journal) × τ) × σ :=
  Id.run (((session.run.run journal).run kept).run world)

theorem within_bind_of_ok {first : Session (StateT τ (StateM σ)) α} {journal later : Journal}
    {kept still : τ} {world after : σ} {value : α}
    (ended : first.within journal kept world = (((.ok value, later), still), after))
    (next : α → Session (StateT τ (StateM σ)) β) :
    (first >>= next).within journal kept world = (next value).within later still after := by
  simp only [within] at ended
  simp only [within, ExceptT.run_bind, StateT.run_bind, Id.run_bind, ended]

theorem inWorld_bind_eq_ok {first : Session (StateM σ) α} {next : α → Session (StateM σ) β}
    {journal later : Journal} {world after : σ} {value : β}
    (ended : (first >>= next).inWorld journal world = ((.ok value, later), after)) :
    ∃ result middle between, first.inWorld journal world = ((.ok result, middle), between) ∧
      (next result).inWorld middle between = ((.ok value, later), after) := by
  rcases taken : first.inWorld journal world with ⟨⟨failure | result, middle⟩, between⟩
  · rw [inWorld_bind_of_error taken] at ended
    cases ended
  · rw [inWorld_bind_of_ok taken] at ended
    exact ⟨result, middle, between, rfl, ended⟩

/-- What an operation of a store does to the world is all that it does. -/
theorem inWorld_liftStore_eq_ok_iff {operation : ExceptT Failure (StateM σ) α}
    {journal later : Journal} {world after : σ} {value : α} :
    (liftStore operation).inWorld journal world = ((.ok value, later), after) ↔
      operation.run.run world = (.ok value, after) ∧ later = journal := by
  have lifted : (liftStore operation).inWorld journal world =
      (((operation.run.run world).1, journal), (operation.run.run world).2) := rfl
  rw [lifted, Prod.ext_iff, Prod.mk.injEq, Prod.ext_iff, and_right_comm, eq_comm (a := later)]

theorem within_liftStore {operation : ExceptT Failure (StateT τ (StateM σ)) α}
    {kept still : τ} {world after : σ} {value : α}
    (ended : (operation.run.run kept).run world = ((.ok value, still), after)) (journal : Journal) :
    (liftStore operation).within journal kept world = (((.ok value, journal), still), after) := by
  have lifted : (liftStore operation).within journal kept world =
      (((((operation.run.run kept).run world).1.1, journal),
        ((operation.run.run kept).run world).1.2), ((operation.run.run kept).run world).2) := rfl
  rw [lifted, ended]

end Session

namespace Journal

/-- A journal after a file was found up to date. -/
def found (journal : Journal) (file : String) : Journal where
  output := { journal.output with unchanged := journal.output.unchanged + 1 }
  events := journal.events ++ [.logged ⟨.info, s!"{file}... up-to-date."⟩]

/-- A journal after a file was written, with what was noted about that. -/
def updated (journal : Journal) (notes : List Record) (file : String) : Journal where
  output := { journal.output with written := journal.output.written + 1 }
  events := journal.events ++ notes.map .logged ++ [.logged ⟨.info, s!"{file}... updated."⟩]

/-- A journal with one more tracked path. -/
def tracking (journal : Journal) (path : Path) : Journal :=
  { journal with output := { journal.output with tracked := journal.output.tracked ++ [path] } }

end Journal

namespace Output

open Session

variable {σ τ : Type} {dir : Path} {file content : String} {journal later : Journal}

/-- An update succeeds without backups when it finds the text in place, or writes it. -/
theorem inWorld_update_eq_ok_iff {store : Store (StateM σ)} {world after : σ} {changed : Bool}
    (backupless : journal.output.keepsBackups = false) :
    (update store dir file content false).inWorld journal world = ((.ok changed, later), after) ↔
      ∃ found between,
        (store.read (journal.output.root.join (dir.join ⟨file⟩))).run.run world =
          (.ok found, between) ∧
        (found.getD "" = content ∧ changed = false ∧ after = between ∧
            later = journal.found file ∨
          found.getD "" ≠ content ∧ changed = true ∧
            (store.write (journal.output.root.join (dir.join ⟨file⟩)) content).run.run between =
              (.ok (), after) ∧
            later = journal.updated
              (store.writeNotes (journal.output.root.join (dir.join ⟨file⟩))) file) := by
  rw [update, inWorld_bind_of_ok rfl]
  simp only [Bool.false_eq_true, if_false]
  constructor
  · intro ended
    obtain ⟨found, middle, between, taken, ended⟩ := inWorld_bind_eq_ok ended
    obtain ⟨read, rfl⟩ := inWorld_liftStore_eq_ok_iff.mp taken
    refine ⟨found, between, read, ?_⟩
    split at ended
    · next same =>
      obtain ⟨⟩ := ended
      exact .inl ⟨same, rfl, rfl, rfl⟩
    · next differs =>
      rw [if_neg (by simp [backupless]), inWorld_bind_of_ok rfl] at ended
      obtain ⟨⟨⟩, noted, last, taken, ended⟩ := inWorld_bind_eq_ok ended
      obtain ⟨wrote, rfl⟩ := inWorld_liftStore_eq_ok_iff.mp taken
      obtain ⟨⟩ := ended
      exact .inr ⟨differs, rfl, wrote, rfl⟩
  · rintro ⟨found, between, read, ended⟩
    rw [inWorld_bind_of_ok (inWorld_liftStore_eq_ok_iff.mpr ⟨read, rfl⟩)]
    obtain ⟨same, rfl, rfl, rfl⟩ | ⟨differs, rfl, wrote, rfl⟩ := ended
    · rw [if_pos same]
      rfl
    · rw [if_neg differs, if_neg (by simp [backupless]), inWorld_bind_of_ok rfl,
        inWorld_bind_of_ok (inWorld_liftStore_eq_ok_iff.mpr ⟨wrote, rfl⟩)]
      rfl

section Within

variable {store : Store (StateT τ (StateM σ))} {kept still : τ} {world after : σ}
  {found : Option String}

/-- Tracking a file does not bear on what is done with it. -/
theorem within_update_tracked (store : Store (StateT τ (StateM σ))) (dir : Path)
    (file content : String) (journal : Journal) (kept : τ) (world : σ) :
    (update store dir file content true).within journal kept world =
      (update store dir file content false).within (journal.tracking (dir.join ⟨file⟩)) kept
        world := rfl

/-- An update that finds the text in place leaves it there. -/
theorem within_update_of_same
    (read : ((store.read (journal.output.root.join (dir.join ⟨file⟩))).run.run kept).run world =
      ((.ok found, kept), world)) (same : found.getD "" = content) :
    (update store dir file content false).within journal kept world =
      (((.ok false, journal.found file), kept), world) := by
  rw [update, within_bind_of_ok rfl]
  simp only [Bool.false_eq_true, if_false]
  rw [within_bind_of_ok (within_liftStore read journal), if_pos same]
  rfl

/-- Without backups, an update that finds another text writes its own. -/
theorem within_update_of_other (backupless : journal.output.keepsBackups = false)
    (read : ((store.read (journal.output.root.join (dir.join ⟨file⟩))).run.run kept).run world =
      ((.ok found, kept), world)) (differs : found.getD "" ≠ content)
    (wrote : ((store.write (journal.output.root.join (dir.join ⟨file⟩)) content).run.run kept).run
      world = ((.ok (), still), after)) :
    (update store dir file content false).within journal kept world =
      (((.ok true, journal.updated
        (store.writeNotes (journal.output.root.join (dir.join ⟨file⟩))) file), still), after) := by
  rw [update, within_bind_of_ok rfl]
  simp only [Bool.false_eq_true, if_false]
  rw [within_bind_of_ok (within_liftStore read journal), if_neg differs,
    if_neg (by simp [backupless]), within_bind_of_ok rfl,
    within_bind_of_ok (within_liftStore wrote _)]
  rfl

end Within

end Output

/-! ## Stores that foretell -/

section Stores

variable {machine after : Machine} {path : Path} {content : String}

theorem run_read_recorded (machine : Machine) (path : Path) (written : List Path) :
    ((Machine.fileSystem.store.recorded.read path).run.run written).run machine =
      ((machine.disk.read? path, written), machine) := by
  have asked : ((Machine.fileSystem.store.recorded.read path).run.run written).run machine =
      ((((Machine.fileSystem.store.read path).run.run machine).1, written),
        ((Machine.fileSystem.store.read path).run.run machine).2) := rfl
  rw [asked, Machine.run_read]

theorem run_write_recorded
    (wrote : (Machine.fileSystem.store.write path content).run.run machine = (.ok (), after))
    (written : List Path) :
    ((Machine.fileSystem.store.recorded.write path content).run.run written).run machine =
      ((.ok (), written ++ [path]), after) := by
  let writing : ExceptT Failure (StateT (List Path) (StateM Machine)) Unit :=
    ExceptT.mk (StateT.lift (Machine.fileSystem.store.write path content).run)
  have parts : Machine.fileSystem.store.recorded.write path content = (do
      writing
      modifyThe (List Path) fun written => written ++ [path]) := rfl
  have written : (writing.run.run written).run machine =
      ((((Machine.fileSystem.store.write path content).run.run machine).1, written),
        ((Machine.fileSystem.store.write path content).run.run machine).2) := rfl
  rw [parts, ExceptT.run_bind, StateT.run_bind, StateT.run_bind, written, wrote]
  rfl

theorem run_read_dry (machine : Machine) {memory : Memory} (vacant : memory.get? path = none) :
    ((Machine.fileSystem.dryRunStore.read path).run.run memory).run machine =
      ((machine.disk.read? path, memory), machine) := by
  have looked : (((getThe Memory : ExceptT Failure (StateT Memory (StateM Machine)) Memory).run.run
      memory).run machine) = (pure ((.ok memory, memory), machine) : Id _) := rfl
  have behind : ((ExceptT.mk (StateT.lift (Machine.fileSystem.read? path).run) :
      ExceptT Failure (StateT Memory (StateM Machine)) (Option String)).run.run memory).run
        machine =
        ((((Machine.fileSystem.store.read path).run.run machine).1, memory),
          ((Machine.fileSystem.store.read path).run.run machine).2) := rfl
  rw [FileSystem.dryRunStore, ExceptT.run_bind, StateT.run_bind, StateT.run_bind, looked,
    pure_bind]
  simp only [vacant]
  rw [behind, Machine.run_read]

theorem run_write_dry (machine : Machine) (path : Path) (content : String) (memory : Memory) :
    ((Machine.fileSystem.dryRunStore.write path content).run.run memory).run machine =
      ((.ok (), memory.put path content), machine) := rfl

end Stores

/-- An update replaces a file that is there with another text. -/
theorem Output.inWorld_update_of_holds {journal : Journal} {dir : Path} {file text : String}
    (backupless : journal.output.keepsBackups = false)
    (reaches : journal.output.root.join (dir.join ⟨file⟩) = path)
    (holds : machine.disk.Holds path text) (differs : text ≠ content) :
    (update Machine.fileSystem.store dir file content false).inWorld journal machine =
      ((.ok true, journal.updated [] file), { machine with
        disk := machine.disk.put (machine.disk.place path) (.file content.toUTF8) }) := by
  subst reaches
  have wrote := Machine.run_write_eq_ok_iff.mpr
    ⟨machine.disk, _, holds.parents, holds.writeText content, rfl⟩
  refine (inWorld_update_eq_ok_iff backupless).mpr
    ⟨some text, machine, ?_, .inr ⟨differs, rfl, wrote, rfl⟩⟩
  rw [Machine.run_read, holds.read?]

/-! ## Dry sessions beside real ones -/

/-- A dry session has come as far as a real one that began on the same disk: the books are the same,
and its memory holds texts for the paths that the real one has written. -/
structure Abreast (base : Disk) (root : Path) (written : List Path) (disk : Disk)
    (real dry : Journal) (memory : Memory) : Prop where
  root : real.output.root = root
  backupless : real.output.keepsBackups = false
  output : dry.output = real.output
  pending : memory.files.map (·.1) = written
  after : base.After (written.map base.place) disk

theorem Abreast.refl (base : Disk) (journal : Journal)
    (backupless : journal.output.keepsBackups = false) :
    Abreast base journal.output.root [] base journal journal .empty :=
  ⟨rfl, backupless, rfl, rfl, .refl base⟩

/-- What has not been written is not in the memory. -/
theorem Abreast.contains_eq_false {base disk : Disk} {root path : Path} {written : List Path}
    {real dry : Journal} {memory : Memory}
    (abreast : Abreast base root written disk real dry memory)
    (fresh : base.place path ∉ written.map base.place) : memory.contains path = false := by
  refine Memory.contains_eq_false_iff.mpr fun file member => ?_
  refine Bool.eq_false_iff.mpr fun same => fresh ?_
  rw [← base.place_congr same, ← abreast.pending]
  exact List.mem_map_of_mem (List.mem_map_of_mem member)

/-- The books may go on, alike on both sides. -/
theorem Abreast.books {base disk : Disk} {root : Path} {written : List Path}
    {real dry later last : Journal} {memory : Memory}
    (abreast : Abreast base root written disk real dry memory)
    (kept : later.output.root = real.output.root)
    (backups : later.output.keepsBackups = real.output.keepsBackups)
    (same : last.output = later.output) : Abreast base root written disk later last memory where
  root := kept.trans abreast.root
  backupless := backups.trans abreast.backupless
  output := same
  pending := abreast.pending
  after := abreast.after

/-- A file that is written on one side and kept in mind on the other. -/
theorem Abreast.wrote {base disk made later : Disk} {root path : Path} {written : List Path}
    {real dry : Journal} {memory : Memory} {content : String}
    (abreast : Abreast base root written disk real dry memory)
    (plain : Component.parent ∉ path.components)
    (fresh : base.place path ∉ written.map base.place)
    (parents : disk.makeParents path = (made, .ok ()))
    (text : made.writeText path content = .ok later) :
    Abreast base root (written ++ [path]) later real dry (memory.put path content) where
  root := abreast.root
  backupless := abreast.backupless
  output := abreast.output
  pending := by
    have vacant := abreast.contains_eq_false fresh
    rw [Memory.put_of_vacant content vacant, List.map_append, abreast.pending]
    rfl
  after := by
    have grown := abreast.after.grows (Disk.grows_makeParents disk path)
    rw [parents] at grown
    rw [List.map_append]
    exact grown.writeText plain text

/-- Wherever a real session on a machine succeeds and writes to no other than given paths, so do the
same session with a record of its writes and the dry one: the first ends like the real one, and the
second with the same answer, abreast of it and on the machine as it was. -/
def Foretold {α : Type} (base : Machine) (root : Path) (paths : List Path)
    (real : Session (StateM Machine) α) (recorded : Session (StateT (List Path) (StateM Machine)) α)
    (dry : Session (StateT Memory (StateM Machine)) α) : Prop :=
  ∀ ⦃written : List Path⦄ ⦃machine after : Machine⦄ ⦃journal foretold later : Journal⦄
    ⦃memory : Memory⦄ ⦃value : α⦄,
    Abreast base.disk root written machine.disk journal foretold memory →
    (∀ path ∈ paths, base.disk.place path ∉ written.map base.disk.place) →
    real.inWorld journal machine = ((.ok value, later), after) →
    ∃ more last kept, (∀ path ∈ more, path ∈ paths) ∧
      recorded.within journal written machine = (((.ok value, later), written ++ more), after) ∧
      dry.within foretold memory base = (((.ok value, last), kept), base) ∧
      Abreast base.disk root (written ++ more) after.disk later last kept

namespace Foretold

variable {α β : Type} {base : Machine} {root : Path} {first second : List Path}

/-- Sessions that only change the journal, and not its books, write nowhere. -/
theorem modify {change : Journal → Journal}
    (keeps : ∀ journal, (change journal).output = journal.output) :
    Foretold base root [] (modifyThe Journal change) (modifyThe Journal change)
      (modifyThe Journal change) := by
  intro written machine after journal foretold later memory value abreast _ ended
  obtain ⟨⟩ := ended
  refine ⟨[], change foretold, memory, nofun, ?_, rfl, ?_⟩
  · rw [List.append_nil]
    rfl
  · rw [List.append_nil]
    exact abreast.books (congrArg Output.root (keeps journal))
      (congrArg Output.keepsBackups (keeps journal))
      ((keeps foretold).trans (abreast.output.trans (keeps journal).symm))

theorem reach (file : String) : Foretold base root [] (Session.reach file) (Session.reach file)
    (Session.reach file) := modify fun _ => rfl

theorem pure (value : α) : Foretold base root [] (Pure.pure value) (Pure.pure value)
    (Pure.pure value) := by
  intro written machine after journal foretold later memory result abreast _ ended
  obtain ⟨⟩ := ended
  refine ⟨[], foretold, memory, nofun, ?_, rfl, ?_⟩
  · rw [List.append_nil]
    rfl
  · rwa [List.append_nil]

/-- Sessions one after the other that write to different places. -/
theorem bind {real : Session (StateM Machine) α}
    {recorded : Session (StateT (List Path) (StateM Machine)) α}
    {dry : Session (StateT Memory (StateM Machine)) α} {realNext : α → Session (StateM Machine) β}
    {recordedNext : α → Session (StateT (List Path) (StateM Machine)) β}
    {dryNext : α → Session (StateT Memory (StateM Machine)) β}
    (begins : Foretold base root first real recorded dry)
    (goesOn : ∀ value, Foretold base root second (realNext value) (recordedNext value)
      (dryNext value))
    (apart : ∀ path ∈ second, base.disk.place path ∉ first.map base.disk.place) :
    Foretold base root (first ++ second) (real >>= realNext) (recorded >>= recordedNext)
      (dry >>= dryNext) := by
  intro written machine after journal foretold later memory value abreast fresh ended
  obtain ⟨result, middle, between, begun, ended⟩ := Session.inWorld_bind_eq_ok ended
  obtain ⟨freshFirst, freshSecond⟩ := List.forall_mem_append.mp fresh
  obtain ⟨more, midway, kept, inside, recordedOk, dryOk, abreast⟩ :=
    begins abreast freshFirst begun
  have freshNow : ∀ path ∈ second,
      base.disk.place path ∉ (written ++ more).map base.disk.place := by
    intro path member
    rw [List.map_append, List.mem_append, not_or]
    refine ⟨freshSecond path member, fun there => apart path member ?_⟩
    obtain ⟨other, already, same⟩ := List.mem_map.mp there
    exact List.mem_map.mpr ⟨other, inside other already, same⟩
  obtain ⟨others, last, stillKept, insideToo, recordedToo, dryToo, abreast⟩ :=
    goesOn result abreast freshNow ended
  rw [List.append_assoc] at recordedToo abreast
  refine ⟨more ++ others, last, stillKept, ?_, ?_, ?_, abreast⟩
  · intro path member
    exact (List.mem_append.mp member).elim (fun here => List.mem_append_left _ (inside path here))
      fun there => List.mem_append_right _ (insideToo path there)
  · rw [Session.within_bind_of_ok recordedOk, recordedToo]
  · rw [Session.within_bind_of_ok dryOk, dryToo]

/-- Sessions in turn, each of which writes to a place of its own. -/
theorem inTurn {ι : Type} {real : ι → Session (StateM Machine) Bool}
    {recorded : ι → Session (StateT (List Path) (StateM Machine)) Bool}
    {dry : ι → Session (StateT Memory (StateM Machine)) Bool} {path : ι → Path} {items : List ι}
    (each : ∀ item ∈ items, Foretold base root [path item] (real item) (recorded item) (dry item))
    (apart : ((items.map path).map base.disk.place).Nodup) :
    Foretold base root (items.map path) (Session.inTurn (items.map real))
      (Session.inTurn (items.map recorded)) (Session.inTurn (items.map dry)) := by
  induction items with
  | nil => exact .pure 0
  | cons item rest ih =>
    obtain ⟨here, later⟩ := List.forall_mem_cons.mp each
    obtain ⟨fresh, distinct⟩ := List.nodup_cons.mp apart
    have others (changed : Bool) := (ih later distinct).bind
      (fun count => Foretold.pure (count + if changed then 1 else 0)) nofun
    simp only [List.append_nil] at others
    refine here.bind others fun other member same => fresh ?_
    obtain same := List.mem_singleton.mp same
    exact List.mem_map.mpr ⟨other, member, same⟩

/-- An update reads what was there at the beginning, unless its path has been written. -/
theorem update (base : Machine) {dir : Path} {file : String} (content : String)
    (plain : Component.parent ∉ (root.join (dir.join ⟨file⟩)).components) :
    Foretold base root [root.join (dir.join ⟨file⟩)]
      (Output.update Machine.fileSystem.store dir file content false)
      (Output.update Machine.fileSystem.store.recorded dir file content false)
      (Output.update Machine.fileSystem.dryRunStore dir file content false) := by
  intro written machine after journal foretold later memory changed abreast fresh ended
  obtain ⟨found, between, read, ended⟩ :=
    (Output.inWorld_update_eq_ok_iff abreast.backupless).mp ended
  rw [abreast.root] at read ended
  have fresh := fresh _ List.mem_cons_self
  have unheld : memory.get? (root.join (dir.join ⟨file⟩)) = none := by
    simpa [Memory.contains] using abreast.contains_eq_false fresh
  have foretoldRoot : foretold.output.root = root := by rw [abreast.output, abreast.root]
  have backupless : foretold.output.keepsBackups = false := by
    rw [abreast.output, abreast.backupless]
  rw [Machine.run_read, Prod.mk.injEq] at read
  obtain ⟨read, rfl⟩ := read
  have readBefore := abreast.after.read? plain fresh read
  have recorded := run_read_recorded machine (root.join (dir.join ⟨file⟩)) written
  have dry := run_read_dry base unheld
  rw [read, ← abreast.root] at recorded
  rw [readBefore, ← foretoldRoot] at dry
  obtain ⟨same, rfl, rfl, rfl⟩ | ⟨differs, rfl, wrote, rfl⟩ := ended
  · refine ⟨[], foretold.found file, memory, List.forall_mem_nil _, ?_,
      Output.within_update_of_same dry same, ?_⟩
    · rw [List.append_nil]
      exact Output.within_update_of_same recorded same
    · rw [List.append_nil]
      exact abreast.books rfl rfl (by rw [Journal.found, Journal.found, abreast.output])
  · obtain ⟨made, disk, parents, text, rfl⟩ := Machine.run_write_eq_ok_iff.mp wrote
    have wroteToo := run_write_recorded wrote written
    have wroteDry := run_write_dry base (root.join (dir.join ⟨file⟩)) content memory
    rw [← foretoldRoot] at wroteDry
    rw [← abreast.root] at wroteToo
    refine ⟨[root.join (dir.join ⟨file⟩)], _, _, fun _ => id, ?_,
      Output.within_update_of_other backupless dry differs wroteDry, ?_⟩
    · have ended := Output.within_update_of_other abreast.backupless recorded differs wroteToo
      rwa [abreast.root] at ended
    · rw [foretoldRoot]
      exact (abreast.wrote plain fresh parents text).books rfl rfl
        (by rw [Journal.updated, Journal.updated, abreast.output])

theorem updateTracked (base : Machine) {dir : Path} {file : String} (content : String)
    (plain : Component.parent ∉ (root.join (dir.join ⟨file⟩)).components) :
    Foretold base root [root.join (dir.join ⟨file⟩)]
      (Output.update Machine.fileSystem.store dir file content true)
      (Output.update Machine.fileSystem.store.recorded dir file content true)
      (Output.update Machine.fileSystem.dryRunStore dir file content true) := by
  intro written machine after journal foretold later memory changed abreast fresh ended
  have tracking : Abreast base.disk root written machine.disk (journal.tracking (dir.join ⟨file⟩))
      (foretold.tracking (dir.join ⟨file⟩)) memory :=
    abreast.books rfl rfl (by rw [Journal.tracking, Journal.tracking, abreast.output])
  rw [Output.inWorld_update_tracked] at ended
  obtain ⟨more, last, kept, inside, recorded, dry, ends⟩ :=
    update base content plain tracking fresh ended
  refine ⟨more, last, kept, inside, ?_, ?_, ends⟩
  · rw [Output.within_update_tracked, recorded]
  · rw [Output.within_update_tracked, dry]

/-- What depends on the books does the same in a dry session. -/
theorem withOutput {real : Output → Session (StateM Machine) α}
    {recorded : Output → Session (StateT (List Path) (StateM Machine)) α}
    {dry : Output → Session (StateT Memory (StateM Machine)) α}
    (goesOn : ∀ output, Foretold base root first (real output) (recorded output) (dry output)) :
    Foretold base root first (getThe Journal >>= fun journal => real journal.output)
      (getThe Journal >>= fun journal => recorded journal.output)
      (getThe Journal >>= fun journal => dry journal.output) := by
  intro written machine after journal foretold later memory value abreast fresh ended
  rw [Session.inWorld_bind_of_ok rfl] at ended
  obtain ⟨more, last, kept, inside, recordedOk, dryOk, abreast'⟩ :=
    goesOn journal.output abreast fresh ended
  rw [← abreast.output] at dryOk
  refine ⟨more, last, kept, inside, ?_, ?_, abreast'⟩
  · rw [Session.within_bind_of_ok rfl, recordedOk]
  · rw [Session.within_bind_of_ok rfl, dryOk]

end Foretold

end Bindery
