import Bindery.Proofs.Store.Memory

/-! # Settling items in a memory

What an output does with one file after the other can be said of the memory alone: an item whose
path does not hold its text yet is put there, after what it replaces has been archived. Main
statements: settling items in order leaves at each path the last of its texts, keeps every other
file and adds nothing but archives (`Settles.foldl`); and after that all of them are in their places
exactly when no two of them disagree on what stands at one path (`Settles.stand_iff_agree`).
-/

namespace Bindery

/-- A text, and the path at which it is to stand. -/
structure Item where
  path : Path
  content : String
  deriving DecidableEq

/-- The text of the last item for a path. -/
def lastText? (items : List Item) (path : Path) : Option String :=
  (items.findRev? fun item => item.path.same path).map Item.content

/-- Items for one path have one text. -/
def Agree (items : List Item) : Prop :=
  ∀ a ∈ items, ∀ b ∈ items, a.path.same b.path = true → a.content = b.content

theorem lastText?_concat (items : List Item) (item : Item) (path : Path) :
    lastText? (items ++ [item]) path =
      if item.path.same path then some item.content else lastText? items path := by
  simp only [lastText?, List.findRev?_eq_find?_reverse, List.reverse_append, List.reverse_singleton,
    List.singleton_append, List.find?_cons]
  cases item.path.same path <;> rfl

theorem lastText?_congr (items : List Item) {a b : Path} (same : a.same b = true) :
    lastText? items a = lastText? items b := by
  simp only [lastText?, Path.same_comm _ a, Path.same_comm _ b, Path.same_congr same]

theorem exists_of_lastText?_eq_some {items : List Item} {path : Path} {text : String}
    (last : lastText? items path = some text) :
    ∃ item ∈ items, item.path.same path = true ∧ item.content = text := by
  obtain ⟨item, found, rfl⟩ := Option.map_eq_some_iff.mp last
  rw [List.findRev?_eq_find?_reverse] at found
  have same : item.path.same path = true := by simpa using List.find?_some found
  exact ⟨item, List.mem_reverse.mp (List.mem_of_find?_eq_some found), same, rfl⟩

theorem lastText?_eq_none_iff {items : List Item} {path : Path} :
    lastText? items path = none ↔ ∀ item ∈ items, item.path.same path = false := by
  simp [lastText?]

/-- The path of an item has a last text. -/
theorem exists_lastText?_of_mem {items : List Item} {item : Item} (member : item ∈ items) :
    ∃ text, lastText? items item.path = some text := by
  cases last : lastText? items item.path with
  | none =>
    have other := lastText?_eq_none_iff.mp last item member
    rw [Path.same_self] at other
    contradiction
  | some text => exact ⟨text, rfl⟩

theorem lastText?_concat_eq_none_iff {items : List Item} {item : Item} {path : Path} :
    lastText? (items ++ [item]) path = none ↔
      lastText? items path = none ∧ item.path.same path = false := by
  simp only [lastText?_eq_none_iff, List.forall_mem_append, List.forall_mem_singleton]

/-- Items agree exactly when each of them has the last text of its path. -/
theorem agree_iff {items : List Item} :
    Agree items ↔ ∀ item ∈ items, lastText? items item.path = some item.content := by
  constructor
  · intro agree item member
    obtain ⟨text, last⟩ := exists_lastText?_of_mem member
    obtain ⟨latest, planned, same, rfl⟩ := exists_of_lastText?_eq_some last
    rw [last, agree latest planned item member same]
  · intro lasting a first b second same
    have equal := lastText?_congr items same
    rw [lasting a first, lasting b second] at equal
    exact Option.some.inj equal

namespace ClockedMemory

variable {keeps : Bool} {world : ClockedMemory} {item : Item} {path : Path} {content : String}

/-- Archives a text beside a path. -/
def archive (world : ClockedMemory) (path : Path) (content : String) : ClockedMemory :=
  ⟨world.memory.put (world.memory.backupPath path world.clock.look.1) content, world.clock.look.2⟩

/-- Whether the path of an item does not hold its text. Where nothing is counts as empty. -/
def lacks (world : ClockedMemory) (item : Item) : Bool :=
  (world.memory.get? item.path).getD "" != item.content

/-- What is archived before an item is settled: the text at its path, unless it is empty. -/
def archived (keeps : Bool) (world : ClockedMemory) (item : Item) : ClockedMemory :=
  let existing := (world.memory.get? item.path).getD ""
  if keeps && !existing.isEmpty then world.archive item.path existing else world

/-- Puts an item in its place, where it is not there yet. -/
def settle (keeps : Bool) (world : ClockedMemory) (item : Item) : ClockedMemory :=
  if world.lacks item then
    let kept := archived keeps world item
    { kept with memory := kept.memory.put item.path item.content }
  else world

/-- How many of some items are not in their places when their turn comes. -/
def changes (keeps : Bool) (world : ClockedMemory) : List Item → Nat
  | [] => 0
  | item :: rest => changes keeps (world.settle keeps item) rest + if world.lacks item then 1 else 0

theorem get?_archive_of_contains (held : world.memory.contains path = true) (beside : Path)
    (content : String) :
    (world.archive beside content).memory.get? path = world.memory.get? path := by
  have vacant := world.memory.contains_backupPath beside world.clock.look.1
  simp only [archive, Memory.get?_put]
  split
  · next same =>
    rw [Memory.contains, Memory.get?, Option.isSome_map, List.find?_isSome] at held
    obtain ⟨file, stored, here⟩ := held
    have other := Memory.contains_eq_false_iff.mp vacant file stored
    rw [Path.same_congr here, Path.same_comm, same] at other
    contradiction
  · rfl

theorem files_archive (world : ClockedMemory) (path : Path) (content : String) :
    (world.archive path content).memory.files =
      world.memory.files ++ [(world.memory.backupPath path world.clock.look.1, content)] := by
  rw [archive, Memory.put_of_vacant content (Memory.contains_backupPath _ _ _)]

theorem get?_archived_of_contains (held : world.memory.contains path = true) :
    (archived keeps world item).memory.get? path = world.memory.get? path := by
  simp only [archived]
  split
  · exact get?_archive_of_contains held _ _
  · rfl

theorem mem_archived {file : Path × String} :
    file ∈ world.memory.files → file ∈ (archived keeps world item).memory.files := by
  intro member
  simp only [archived]
  split
  · rw [files_archive]
    exact List.mem_append_left _ member
  · exact member

/-- A file that comes with an archive has a name of a backup. -/
theorem mem_or_backup_of_mem_archived {file : Path × String}
    (member : file ∈ (archived keeps world item).memory.files) :
    file ∈ world.memory.files ∨
      keeps = true ∧ ∃ seconds attempt, file.1 = item.path.backup seconds attempt := by
  simp only [archived] at member
  split at member
  · next wanted =>
    rw [files_archive, List.mem_append, List.mem_singleton] at member
    obtain old | rfl := member
    · exact .inl old
    · obtain ⟨attempt, _, named, _⟩ :=
        world.memory.exists_backupPath_eq item.path world.clock.look.1
      exact .inr ⟨(Bool.and_eq_true _ _ ▸ wanted).1, _, attempt, named⟩
  · exact .inl member

/-- An item without an empty text is in its place exactly when its text is at its path. -/
theorem lacks_eq_false_iff (filled : item.content ≠ "") :
    world.lacks item = false ↔ world.memory.get? item.path = some item.content := by
  simp only [lacks, bne_eq_false_iff_eq]
  cases world.memory.get? item.path with
  | none => simp [filled.symm]
  | some text => simp

theorem settle_of_lacks_eq_false (stands : world.lacks item = false) :
    world.settle keeps item = world := by
  simp only [settle, stands, Bool.false_eq_true, if_false]

theorem get?_settle_self (filled : item.content ≠ "") :
    (world.settle keeps item).memory.get? item.path = some item.content := by
  cases stands : world.lacks item with
  | false => rw [settle_of_lacks_eq_false stands, (lacks_eq_false_iff filled).mp stands]
  | true => simp only [settle, stands, if_true, Memory.get?_put, Path.same_self]

/-- What is at other paths stays, archives included. -/
theorem get?_settle_of_other (other : item.path.same path = false)
    (held : world.memory.contains path = true) :
    (world.settle keeps item).memory.get? path = world.memory.get? path := by
  simp only [settle]
  split
  · simp only [Memory.get?_put, other, Bool.false_eq_true, if_false, get?_archived_of_contains held]
  · rfl

theorem mem_settle_of_other {file : Path × String} (member : file ∈ world.memory.files)
    (other : item.path.same file.1 = false) : file ∈ (world.settle keeps item).memory.files := by
  simp only [settle]
  split
  · exact Memory.mem_putFile_of_other (mem_archived member) (by rw [Path.same_comm, other])
  · exact member

theorem mem_or_backup_of_mem_settle {file : Path × String}
    (member : file ∈ (world.settle keeps item).memory.files)
    (other : item.path.same file.1 = false) :
    file ∈ world.memory.files ∨
      keeps = true ∧ ∃ seconds attempt, file.1 = item.path.backup seconds attempt := by
  simp only [settle] at member
  split at member
  · obtain kept | same := Memory.mem_putFile member
    · exact mem_or_backup_of_mem_archived kept
    · rw [Path.same_comm, same] at other
      contradiction
  · exact .inl member

theorem changes_concat (keeps : Bool) (world : ClockedMemory) (items : List Item) (item : Item) :
    changes keeps world (items ++ [item]) = changes keeps world items +
      if (items.foldl (settle keeps) world).lacks item then 1 else 0 := by
  induction items generalizing world with
  | nil => rfl
  | cons first rest ih =>
    simp only [List.cons_append, changes, ih, List.foldl_cons]
    exact Nat.add_right_comm _ _ _

/-- Nothing changes exactly when every item is in its place from the beginning. -/
theorem changes_eq_zero_iff {items : List Item} :
    changes keeps world items = 0 ↔ ∀ item ∈ items, world.lacks item = false := by
  induction items generalizing world with
  | nil => simp [changes]
  | cons item rest ih =>
    cases stands : world.lacks item with
    | true => simp [changes, stands]
    | false => simp [changes, stands, settle_of_lacks_eq_false stands, ih]

theorem foldl_settle_of_stands (keeps : Bool) {items : List Item}
    (stand : ∀ item ∈ items, world.lacks item = false) :
    items.foldl (settle keeps) world = world := by
  induction items with
  | nil => rfl
  | cons item rest ih =>
    obtain ⟨here, later⟩ := List.forall_mem_cons.mp stand
    rw [List.foldl_cons, settle_of_lacks_eq_false here, ih later]

end ClockedMemory

/-- What a memory holds after some items were settled in it. -/
structure Settles (keeps : Bool) (items : List Item) (before after : Memory) : Prop where
  latest : ∀ path text, lastText? items path = some text → after.get? path = some text
  stays : ∀ path, lastText? items path = none → before.contains path = true →
    after.get? path = before.get? path
  kept : ∀ file ∈ before.files, lastText? items file.1 = none → file ∈ after.files
  added : ∀ file ∈ after.files, lastText? items file.1 = none → file ∈ before.files ∨
    keeps = true ∧ file.1.isBackup = true ∧
      ∃ item ∈ items, ∃ seconds attempt, file.1 = item.path.backup seconds attempt

namespace Settles

variable {keeps : Bool} {items : List Item} {before after : Memory}

theorem nil (memory : Memory) : Settles keeps [] memory memory where
  latest := by
    intro path text last
    contradiction
  stays _ _ _ := rfl
  kept _ member _ := member
  added _ member _ := .inl member

/-- One more item is settled. -/
theorem concat {world : ClockedMemory} (settles : Settles keeps items before world.memory)
    {item : Item} (filled : item.content ≠ "") :
    Settles keeps (items ++ [item]) before (world.settle keeps item).memory where
  latest := by
    intro path text last
    rw [lastText?_concat] at last
    split at last
    · next same =>
      rw [← Memory.get?_congr _ same, ClockedMemory.get?_settle_self filled]
      exact last
    · next other =>
      have held := settles.latest path text last
      rw [ClockedMemory.get?_settle_of_other (Bool.eq_false_iff.mpr other), held]
      rw [Memory.contains, held, Option.isSome_some]
  stays := by
    intro path unplanned held
    obtain ⟨earlier, other⟩ := lastText?_concat_eq_none_iff.mp unplanned
    have same := settles.stays path earlier held
    rw [ClockedMemory.get?_settle_of_other other, same]
    rw [Memory.contains, same]
    exact held
  kept := by
    intro file member unplanned
    obtain ⟨earlier, other⟩ := lastText?_concat_eq_none_iff.mp unplanned
    exact ClockedMemory.mem_settle_of_other (settles.kept file member earlier) other
  added := by
    intro file member unplanned
    obtain ⟨earlier, other⟩ := lastText?_concat_eq_none_iff.mp unplanned
    -- A file that is new and no item's is the old text of the last one under a name of a backup.
    obtain stayed | ⟨archives, named⟩ := ClockedMemory.mem_or_backup_of_mem_settle member other
    · refine (settles.added file stayed earlier).imp_right fun archive => ?_
      obtain ⟨archives, ending, old, planned, named⟩ := archive
      exact ⟨archives, ending, old, List.mem_append_left _ planned, named⟩
    · obtain ⟨seconds, attempt, name⟩ := named
      have ending := Path.isBackup_backup item.path seconds attempt
      rw [← name] at ending
      exact .inr ⟨archives, ending, item, List.mem_concat_self, seconds, attempt, name⟩

/-- At the path of each item there is a text. -/
theorem contains (settles : Settles keeps items before after) {path : Path} {content : String}
    (member : ⟨path, content⟩ ∈ items) : after.contains path = true := by
  obtain ⟨text, last⟩ := exists_lastText?_of_mem member
  rw [Memory.contains, settles.latest _ _ last, Option.isSome_some]

/-- Settling items in order settles all of them. -/
theorem append_foldl {world : ClockedMemory} (settles : Settles keeps items before world.memory)
    {more : List Item} (filled : ∀ item ∈ more, item.content ≠ "") :
    Settles keeps (items ++ more) before
      (more.foldl (ClockedMemory.settle keeps) world).memory := by
  induction more generalizing items world with
  | nil =>
    rw [List.append_nil]
    exact settles
  | cons item rest ih =>
    obtain ⟨here, later⟩ := List.forall_mem_cons.mp filled
    have settled := ih (settles.concat here) later
    rwa [List.append_assoc, List.singleton_append] at settled

theorem foldl (keeps : Bool) (world : ClockedMemory) {items : List Item}
    (filled : ∀ item ∈ items, item.content ≠ "") :
    Settles keeps items world.memory (items.foldl (ClockedMemory.settle keeps) world).memory :=
  (Settles.nil world.memory).append_foldl filled

/-- Where items are settled, each of them is in its place exactly when they agree. -/
theorem stand_iff_agree {world : ClockedMemory} (settles : Settles keeps items before world.memory)
    (filled : ∀ item ∈ items, item.content ≠ "") :
    (∀ item ∈ items, world.lacks item = false) ↔ Agree items := by
  rw [agree_iff]
  refine forall_congr' fun item => forall_congr' fun member => ?_
  rw [ClockedMemory.lacks_eq_false_iff (filled item member)]
  constructor
  · intro held
    obtain ⟨text, last⟩ := exists_lastText?_of_mem member
    rw [settles.latest _ _ last] at held
    rw [last]
    exact held
  · exact settles.latest item.path item.content

end Settles

end Bindery
