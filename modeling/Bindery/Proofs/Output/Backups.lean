import Bindery.Proofs.Output.InMemory

/-! # Backups

An output that keeps backups archives what it replaces under a name that nothing has. Main
statement: whatever such an output is asked to write into a memory, and whatever the clock shows,
each update adds at most one file, an archive of what it replaces, and changes no other file, so
that no text that the memory holds at some time is lost (`updates_lose_nothing`).
-/

namespace Bindery

variable {path : Path} {content text : String} {seconds attempt : Nat} {before after : Memory}

/-- A text is replaced at a path, and what was there is archived beside it, under the first name for
backups at these seconds that nothing has. -/
structure Archives (path : Path) (content text : String) (seconds attempt : Nat)
    (before after : Memory) : Prop where
  searched : ∀ earlier < attempt, before.contains (path.backup seconds earlier) = true
  free : before.contains (path.backup seconds attempt) = false
  ending : (path.backup seconds attempt).isBackup = true
  get?_eq : ∀ other, after.get? other =
    if path.same other then some content
    else if (path.backup seconds attempt).same other then some text else before.get? other
  added : after.files.length = before.files.length + 1

/-- What an update with backups makes of a memory: nothing where the text is in its place, a file
with the text where nothing or an empty text is, and else also an archive of the text that is
there. -/
structure Updates (path : Path) (content : String) (changed : Bool) (before after : Memory) :
    Prop where
  changed_iff : changed = true ↔ (before.get? path).getD "" ≠ content
  idle : changed = false → after = before
  unarchived : changed = true → (before.get? path).getD "" = "" → after = before.put path content
  archived : changed = true → ∀ text, before.get? path = some text → text ≠ "" →
    ∃ seconds, ∃ attempt ≤ before.files.length,
      Archives path content text seconds attempt before after

namespace Memory

/-- A text that is held somewhere. -/
def Holds (memory : Memory) (text : String) : Prop := ∃ path, memory.get? path = some text

end Memory

/-- What was archived stands beside what is written. -/
theorem Archives.get?_backup (archives : Archives path content text seconds attempt before after)
    (held : before.get? path = some text) :
    after.get? (path.backup seconds attempt) = some text := by
  have apart : path.same (path.backup seconds attempt) = false := by
    rw [Bool.eq_false_iff]
    intro same
    have vacant := archives.free
    rw [Memory.contains, ← before.get?_congr same, held] at vacant
    contradiction
  rw [archives.get?_eq, apart, Path.same_self]
  rfl

namespace Updates

variable {changed : Bool}

/-- At every other path stays what is there. -/
theorem get?_of_other (updates : Updates path content changed before after) {other : Path}
    (apart : path.same other = false) (held : before.get? other = some text) :
    after.get? other = some text := by
  cases changed with
  | false => rw [updates.idle rfl, held]
  | true =>
    by_cases empty : (before.get? path).getD "" = ""
    · rw [updates.unarchived rfl empty, Memory.get?_put, if_neg (by simp [apart]), held]
    · obtain ⟨old, there⟩ : ∃ old, before.get? path = some old := by
        cases there : before.get? path with
        | none => rw [there] at empty; contradiction
        | some old => exact ⟨old, rfl⟩
      rw [there] at empty
      obtain ⟨seconds, attempt, _, archives⟩ := updates.archived rfl old there empty
      have differs : (path.backup seconds attempt).same other = false := by
        rw [Bool.eq_false_iff]
        intro same
        have vacant := archives.free
        rw [Memory.contains, before.get?_congr same, held] at vacant
        contradiction
      rw [archives.get?_eq, apart, differs, held]
      rfl

/-- No text is lost. -/
theorem holds (updates : Updates path content changed before after) (filled : text ≠ "")
    (held : before.Holds text) : after.Holds text := by
  obtain ⟨other, there⟩ := held
  cases same : path.same other with
  | false => exact ⟨other, updates.get?_of_other same there⟩
  | true =>
    have here : before.get? path = some text := (before.get?_congr same).trans there
    cases changed with
    | false => exact ⟨other, by rw [updates.idle rfl, there]⟩
    | true =>
      obtain ⟨seconds, attempt, _, archives⟩ := updates.archived rfl text here filled
      exact ⟨_, archives.get?_backup here⟩

end Updates

/-! ## Updates of a memory -/

namespace ClockedMemory

variable {world : ClockedMemory} {item : Item}

/-- Where another text is, it is archived before the item takes its place. -/
theorem archives_settle (there : world.memory.get? item.path = some text) (filled : text ≠ "")
    (differs : world.lacks item = true) :
    ∃ seconds, ∃ attempt ≤ world.memory.files.length,
      Archives item.path item.content text seconds attempt world.memory
        (world.settle true item).memory := by
  obtain ⟨attempt, bound, named, passed⟩ :=
    world.memory.exists_backupPath_eq item.path world.clock.look.1
  have free := world.memory.contains_backupPath item.path world.clock.look.1
  rw [named] at free
  let kept := world.memory.put (item.path.backup world.clock.look.1 attempt) text
  have settled : (world.settle true item).memory = kept.put item.path item.content := by
    have archived : ClockedMemory.archived true world item = world.archive item.path text := by
      simp only [ClockedMemory.archived, there, Option.getD_some]
      rw [if_pos (by simpa using filled)]
    rw [settle, if_pos differs, archived, archive, named]
  have longer : kept.files.length = world.memory.files.length + 1 := by
    have last := Memory.put_of_vacant text free
    simp only [kept, last, List.length_append, List.length_singleton]
  have stays : kept.contains item.path = true := by
    rw [Memory.contains, Memory.get?_put]
    split
    · rfl
    · rw [there, Option.isSome_some]
  refine ⟨world.clock.look.1, attempt, bound, passed, free, Path.isBackup_backup _ _ _, ?_, ?_⟩
  · intro other
    rw [settled, Memory.get?_put, Memory.get?_put]
  · rw [settled, Memory.length_put_of_contains _ stays, longer]

/-- Settling an item with backups is an update. -/
theorem updates_settle (world : ClockedMemory) (item : Item) :
    Updates item.path item.content (world.lacks item) world.memory
      (world.settle true item).memory where
  changed_iff := bne_iff_ne
  idle stands := by rw [settle_of_lacks_eq_false stands]
  unarchived differs empty := by
    have nothing : archived true world item = world := by simp [archived, empty]
    rw [settle, if_pos differs, nothing]
  archived differs text there filled := archives_settle there filled differs

/-- Settling items with backups loses no text. -/
theorem holds_foldl_settle {world : ClockedMemory} (items : List Item) (filled : text ≠ "")
    (held : world.memory.Holds text) :
    (items.foldl (settle true) world).memory.Holds text := by
  induction items generalizing world with
  | nil => exact held
  | cons item rest ih => exact ih ((updates_settle world item).holds filled held)

end ClockedMemory

/-! ## Updates in turn -/

/-- What an output is asked to bring up to date. -/
structure Request where
  dir : Path
  file : String
  content : String
  track : Bool

namespace Request

/-- The update that is asked for. -/
def update (request : Request) : Session (StateM ClockedMemory) Bool :=
  Output.update memoryStore request.dir request.file request.content request.track

/-- What the update settles below a root. -/
def item (root : Path) (request : Request) : Item :=
  ⟨root.join (request.dir.join ⟨request.file⟩), request.content⟩

/-- An update settles its item, and keeps root and policy. -/
theorem inMemory_update (request : Request) (journal : Journal) (world : ClockedMemory) :
    ∃ later, request.update.inMemory journal world =
        ((.ok (world.lacks (request.item journal.output.root)), later),
          world.settle journal.output.keepsBackups (request.item journal.output.root)) ∧
      later.output.root = journal.output.root ∧
      later.output.keepsBackups = journal.output.keepsBackups := by
  obtain ⟨later, updated, follows⟩ := Output.inMemory_update request.dir request.file
    request.content request.track journal world
  exact ⟨later, updated, follows.root, follows.keepsBackups⟩

/-- What updates in turn end with. -/
def performed (requests : List Request) (journal : Journal) (world : ClockedMemory) :
    (Except Failure Nat × Journal) × ClockedMemory :=
  (Session.inTurn (requests.map update)).inMemory journal world

/-- Updates in turn settle their items in turn. -/
theorem performed_eq (requests : List Request) (journal : Journal) (world : ClockedMemory) :
    ∃ count later, performed requests journal world = ((.ok count, later),
        (requests.map (item journal.output.root)).foldl
          (ClockedMemory.settle journal.output.keepsBackups) world) ∧
      later.output.root = journal.output.root ∧
      later.output.keepsBackups = journal.output.keepsBackups := by
  induction requests generalizing journal world with
  | nil => exact ⟨0, journal, rfl, rfl, rfl⟩
  | cons request rest ih =>
    obtain ⟨middle, updated, sameRoot, sameKeeps⟩ := request.inMemory_update journal world
    obtain ⟨count, later, ended, root, keeps⟩ := ih middle
      (world.settle journal.output.keepsBackups (request.item journal.output.root))
    rw [sameRoot, sameKeeps] at ended
    refine ⟨count + if world.lacks (request.item journal.output.root) then 1 else 0, later, ?_,
      root.trans sameRoot, keeps.trans sameKeeps⟩
    rw [performed, List.map_cons, Session.inTurn, Session.inMemory_bind_of_ok updated,
      Session.inMemory_bind_of_ok ended]
    rfl

/-- What becomes of a memory while an output that keeps backups updates files in it. -/
structure LoseNothing (journal : Journal) (world : ClockedMemory) : Prop where
  /-- No update fails. -/
  succeed : ∀ requests : List Request, ∃ count later after,
    performed requests journal world = ((.ok count, later), after)
  /-- Each update changes its file, adds an archive of what it replaces, and does nothing else. -/
  step : ∀ (requests : List Request) (request : Request) count middle between,
    performed requests journal world = ((.ok count, middle), between) →
      ∃ changed later after,
        request.update.inMemory middle between = ((.ok changed, later), after) ∧
        Updates (journal.output.root.join (request.dir.join ⟨request.file⟩)) request.content changed
          between.memory after.memory
  /-- What is held after some updates is held after all. -/
  keep : ∀ (requests others : List Request) count middle between total later after,
    performed requests journal world = ((.ok count, middle), between) →
    performed (requests ++ others) journal world = ((.ok total, later), after) →
      ∀ text, text ≠ "" → between.memory.Holds text → after.memory.Holds text

/-- An output that keeps backups loses no text that a memory holds at any time. -/
theorem updates_lose_nothing {journal : Journal} (keeps : journal.output.keepsBackups = true)
    (world : ClockedMemory) : LoseNothing journal world where
  succeed requests := by
    obtain ⟨count, later, ended, _⟩ := performed_eq requests journal world
    exact ⟨count, later, _, ended⟩
  step requests request count middle between ended := by
    obtain ⟨_, _, same, root, still⟩ := performed_eq requests journal world
    rw [ended] at same
    cases same
    generalize (requests.map (item journal.output.root)).foldl
      (ClockedMemory.settle journal.output.keepsBackups) world = between
    obtain ⟨later, updated, _⟩ := request.inMemory_update middle between
    rw [root, still, keeps] at updated
    have settled := ClockedMemory.updates_settle between (request.item journal.output.root)
    exact ⟨_, later, _, updated, settled⟩
  keep requests others count middle between total later after ended all text filled held := by
    obtain ⟨_, _, first, _⟩ := performed_eq requests journal world
    obtain ⟨_, _, second, _⟩ := performed_eq (requests ++ others) journal world
    rw [ended] at first
    rw [all, List.map_append, List.foldl_append] at second
    cases first
    cases second
    rw [keeps] at held ⊢
    exact ClockedMemory.holds_foldl_settle _ filled held

/-- A memory with one file, at a time that stands still. -/
def stopped : ClockedMemory := ⟨⟨[(⟨"out/a.g.cs"⟩, "v1")]⟩, .standing 7⟩

/-- Two texts for one file in one second, and one for what is an archive by then. -/
def crowding : List Request :=
  [⟨⟨""⟩, "a.g.cs", "v2", true⟩, ⟨⟨"."⟩, "a.g.cs", "v3", true⟩, ⟨⟨""⟩, "a.g.cs.7.bak", "v4", false⟩]

theorem updates_lose_nothing_crowding :
    (Output.fresh ⟨"out"⟩ true).keepsBackups = true ∧
      LoseNothing ⟨.fresh ⟨"out"⟩ true, []⟩ stopped ∧
      (performed crowding ⟨.fresh ⟨"out"⟩ true, []⟩ stopped).2.memory.files =
        [(⟨"out/a.g.cs"⟩, "v3"), (⟨"out/a.g.cs.7.bak"⟩, "v4"), (⟨"out/./a.g.cs.7.1.bak"⟩, "v2"),
          (⟨"out/a.g.cs.7.bak.7.bak"⟩, "v1")] :=
  ⟨rfl, updates_lose_nothing rfl stopped, by decide +kernel⟩

end Request

end Bindery
