import Mathlib.Data.List.Induction
import Bindery.Proofs.Output.Backups
import Bindery.Proofs.Output.Tracked
import Bindery.Proofs.Store.Reading

/-! # The books of an output

An output counts what it writes and what it finds in place when that has succeeded, and tracks a
path before it does anything else. Main statements: after requests of which any may fail, the books
are those that the answers make (`output_answered`); so the counts are always right, and the tracked
paths are those of the requests that succeeded exactly when a tracked request fails only for a file
that is listed like one that a request before it has brought up to date, no tracked path starts at
the root, and the paths of what was brought up to date are texts (`keepsBooks_iff`).
-/

namespace Bindery

open Session

/-- What a request ends with. -/
abbrev Answer := Except Failure Bool

/-- Whether a request has succeeded, and has changed its file or not. -/
def Answer.tells (answer : Answer) (changed : Bool) : Bool :=
  match answer with
  | .ok said => said == changed
  | .error _ => false

namespace Request

/-- The path of the file below the root. -/
def path (request : Request) : Path := request.dir.join ⟨request.file⟩

/-- The update that is asked for, through any store. -/
def through {m : Type → Type} [Monad m] (store : Store m) (request : Request) : Session m Bool :=
  Output.update store request.dir request.file request.content request.track

end Request

namespace Output

variable {σ : Type}

/-! ## One request -/

/-- The books after an answer was counted. -/
def counted (output : Output) (answer : Answer) : Output :=
  { output with
    written := output.written + if answer.tells true then 1 else 0
    unchanged := output.unchanged + if answer.tells false then 1 else 0 }

/-- The books after a request was answered: a path is tracked whatever the answer is. -/
def booked (output : Output) (request : Request) (answer : Answer) : Output :=
  { output.counted answer with
    tracked := output.tracked ++ if request.track then [request.path] else [] }

@[simp] theorem counted_error (output : Output) (failure : Failure) :
    output.counted (.error failure) = output := rfl

/-- A session leaves the books as they are, whatever it ends with. -/
def Keeps {α : Type} (session : Session (StateM σ) α) : Prop :=
  ∀ journal world, (session.inWorld journal world).1.2.output = journal.output

/-- A session counts what it answers, and does nothing else to the books. -/
def Counts (session : Session (StateM σ) Bool) : Prop :=
  ∀ journal world, (session.inWorld journal world).1.2.output =
    journal.output.counted (session.inWorld journal world).1.1

theorem keeps_get : Keeps (getThe Journal : Session (StateM σ) Journal) := fun _ _ => rfl

theorem keeps_note (level : Level) (text : String) :
    Keeps (note level text : Session (StateM σ) Unit) := fun _ _ => rfl

theorem keeps_liftLogged {α : Type} (computation : Logged α) :
    Keeps (liftLogged computation : Session (StateM σ) α) := fun _ _ => rfl

theorem keeps_liftStore {α : Type} (operation : ExceptT Failure (StateM σ) α) :
    Keeps (liftStore operation) := fun _ _ => rfl

/-- What comes before counts for nothing, and where it fails there is nothing to be counted. -/
theorem Counts.after {α : Type} {first : Session (StateM σ) α}
    {next : α → Session (StateM σ) Bool} (keeps : Keeps first)
    (counts : ∀ value, Counts (next value)) : Counts (first >>= next) := by
  intro journal world
  have kept := keeps journal world
  rcases ended : first.inWorld journal world with ⟨⟨failure | value, later⟩, between⟩
  · rw [ended] at kept
    rw [inWorld_bind_of_error ended]
    exact kept
  · rw [ended] at kept
    rw [inWorld_bind_of_ok ended, ← kept]
    exact counts value later between

/-- Writing a file is counted. -/
theorem counts_write (store : Store (StateM σ)) (path : Path) (content file : String) :
    Counts (do
      liftLogged (Logged.write (store.writeNotes path))
      liftStore (store.write path content)
      note .info s!"{file}... updated."
      revise fun output => { output with written := output.written + 1 }
      return true) := by
  refine .after (keeps_liftLogged _) fun _ => ?_
  refine .after (keeps_liftStore _) fun _ => ?_
  exact .after (keeps_note _ _) fun _ _ _ => rfl

theorem counts_update_untracked (store : Store (StateM σ)) (dir : Path) (file content : String) :
    Counts (update store dir file content false) := by
  unfold update
  refine .after keeps_get fun journal => ?_
  simp only [Bool.false_eq_true, if_false]
  refine .after (keeps_liftStore _) fun existing => ?_
  split
  · exact .after (keeps_note _ _) fun _ _ _ => rfl
  · split
    · refine .after (keeps_liftStore _) fun target => ?_
      exact .after (keeps_note _ _) fun _ => counts_write store _ content file
    · exact counts_write store _ content file

/-- The books after a request, whatever the store answers. -/
theorem output_through (store : Store (StateM σ)) (request : Request) (journal : Journal)
    (world : σ) : ((request.through store).inWorld journal world).1.2.output =
      journal.output.booked request ((request.through store).inWorld journal world).1.1 := by
  obtain ⟨dir, file, content, track⟩ := request
  cases track with
  | false =>
    have none (output : Output) (answer : Answer) :
        output.booked ⟨dir, file, content, false⟩ answer = output.counted answer := by
      simp [booked, counted]
    rw [none]
    exact counts_update_untracked store dir file content journal world
  | true =>
    simp only [Request.through, inWorld_update_tracked]
    exact counts_update_untracked store dir file content _ world

/-- Where a file cannot be read, its update fails in the same way. -/
theorem answer_of_read_fails {store : Store (StateM σ)} {request : Request} {journal : Journal}
    {world between : σ} {failure : Failure}
    (fails : (store.read (journal.output.root.join request.path)).run.run world =
      (.error failure, between)) :
    ((request.through store).inWorld journal world).1.1 = .error failure := by
  obtain ⟨dir, file, content, track⟩ := request
  have untracked (later : Journal) (root : later.output.root = journal.output.root) :
      ((update store dir file content false).inWorld later world).1.1 = .error failure := by
    have lifted : (liftStore (store.read (later.output.root.join (dir.join ⟨file⟩)))).inWorld later
        world = ((.error failure, later), between) := by
      rw [root]
      exact congrArg (fun ended => ((ended.1, later), ended.2)) fails
    rw [update, inWorld_bind_of_ok rfl]
    simp only [Bool.false_eq_true, if_false]
    rw [inWorld_bind_of_error lifted]
  cases track with
  | false => exact untracked journal rfl
  | true =>
    simp only [Request.through, inWorld_update_tracked]
    exact untracked _ rfl

/-! ## Requests one after the other -/

/-- The books after answered requests. -/
def bookedAll (output : Output) (answered : List (Request × Answer)) : Output :=
  answered.foldl (fun output moment => output.booked moment.1 moment.2) output

variable {output : Output} {answered : List (Request × Answer)}

theorem written_bookedAll : (output.bookedAll answered).written =
    output.written + answered.countP fun moment => moment.2.tells true := by
  induction answered generalizing output with
  | nil => rfl
  | cons moment rest ih =>
    rw [bookedAll, List.foldl_cons, ← bookedAll, ih, List.countP_cons]
    simp only [booked, counted]
    omega

theorem unchanged_bookedAll : (output.bookedAll answered).unchanged =
    output.unchanged + answered.countP fun moment => moment.2.tells false := by
  induction answered generalizing output with
  | nil => rfl
  | cons moment rest ih =>
    rw [bookedAll, List.foldl_cons, ← bookedAll, ih, List.countP_cons]
    simp only [booked, counted]
    omega

theorem mem_tracked_bookedAll {path : Path} : path ∈ (output.bookedAll answered).tracked ↔
    path ∈ output.tracked ∨
      ∃ moment ∈ answered, moment.1.track = true ∧ moment.1.path = path := by
  induction answered generalizing output with
  | nil => simp [bookedAll]
  | cons moment rest ih =>
    rw [bookedAll, List.foldl_cons, ← bookedAll, ih]
    simp only [List.mem_cons, exists_eq_or_imp, ← or_assoc]
    refine or_congr_left ?_
    cases tracked : moment.1.track <;> simp [booked, tracked, eq_comm]

end Output

namespace Request

variable {σ : Type}

/-- Requests one after the other, each of them whether or not those before it failed: with what they
were answered, the journal and the world after them. -/
def answered (store : Store (StateM σ)) :
    List Request → Journal → σ → List (Request × Answer) × Journal × σ
  | [], journal, world => ([], journal, world)
  | request :: rest, journal, world =>
    let ended := (request.through store).inWorld journal world
    let others := answered store rest ended.1.2 ended.2
    ((request, ended.1.1) :: others.1, others.2)

/-- What a request is answered after others. -/
def answerAfter (store : Store (StateM σ)) (earlier : List Request) (request : Request)
    (journal : Journal) (world : σ) : Answer :=
  let before := (answered store earlier journal world).2
  ((request.through store).inWorld before.1 before.2).1.1

variable {store : Store (StateM σ)} {requests earlier later : List Request} {request : Request}
  {journal : Journal} {world : σ}

theorem answered_append : answered store (earlier ++ later) journal world =
    let before := answered store earlier journal world
    let after := answered store later before.2.1 before.2.2
    (before.1 ++ after.1, after.2) := by
  induction earlier generalizing journal world with
  | nil => rfl
  | cons first rest ih => simp only [List.cons_append, answered, ih]

theorem answered_concat : (answered store (earlier ++ [request]) journal world).1 =
    (answered store earlier journal world).1 ++
      [(request, answerAfter store earlier request journal world)] := by
  rw [answered_append]
  rfl

/-- A moment at which a request was answered splits the requests in two. -/
theorem mem_answered {moment : Request × Answer} :
    moment ∈ (answered store requests journal world).1 ↔
      ∃ earlier later, requests = earlier ++ moment.1 :: later ∧
        answerAfter store earlier moment.1 journal world = moment.2 := by
  induction requests generalizing journal world with
  | nil => simp [answered]
  | cons first rest ih =>
    rw [answered, List.mem_cons, ih]
    constructor
    · rintro (rfl | ⟨earlier, later, rfl, told⟩)
      · exact ⟨[], rest, rfl, rfl⟩
      · exact ⟨first :: earlier, later, rfl, told⟩
    · rintro ⟨_ | ⟨_, earlier⟩, later, split, told⟩
      · obtain ⟨rfl, rfl⟩ := List.cons.inj split
        exact .inl (Prod.ext rfl told.symm)
      · obtain ⟨rfl, rfl⟩ := List.cons.inj split
        exact .inr ⟨earlier, later, rfl, told⟩

theorem mem_answered_of_append {moment : Request × Answer}
    (member : moment ∈ (answered store earlier journal world).1) :
    moment ∈ (answered store (earlier ++ later) journal world).1 := by
  rw [answered_append]
  exact List.mem_append_left _ member

/-- The books after requests are those that their answers make. -/
theorem output_answered : (answered store requests journal world).2.1.output =
    journal.output.bookedAll (answered store requests journal world).1 := by
  induction requests generalizing journal world with
  | nil => rfl
  | cons first rest ih =>
    rw [answered, ih, Output.output_through]
    rfl

theorem output_answered_concat :
    (answered store (earlier ++ [request]) journal world).2.1.output =
      (answered store earlier journal world).2.1.output.booked request
        (answerAfter store earlier request journal world) := by
  rw [output_answered, output_answered, answered_concat, Output.bookedAll, List.foldl_append]
  rfl

end Request

/-! ## What the books should say -/

open Request

variable {σ : Type} {store : Store (StateM σ)} {requests : List Request} {journal : Journal}
  {world : σ} {name : String}

/-- A request that was to be tracked has succeeded. -/
def Delivered (moment : Request × Answer) : Prop :=
  moment.1.track = true ∧ moment.2.isOk = true

/-- The books account for what has happened: the counts are those of the answers, the tracked paths
are those of the requests that succeeded, as they are, and a failed request changes none of the
three. -/
structure KeepsBooks (store : Store (StateM σ)) (requests : List Request) (journal : Journal)
    (world : σ) : Prop where
  written : (answered store requests journal world).2.1.output.written =
    (answered store requests journal world).1.countP fun moment => moment.2.tells true
  unchanged : (answered store requests journal world).2.1.output.unchanged =
    (answered store requests journal world).1.countP fun moment => moment.2.tells false
  tracked : ∀ name : RawText,
    (∃ listed ∈ (answered store requests journal world).2.1.output.trackedPaths,
      RawText.ofText listed = name) ↔
      ∃ moment ∈ (answered store requests journal world).1,
        Delivered moment ∧ moment.1.path.tidy = name
  failed : ∀ earlier request later failure, requests = earlier ++ request :: later →
    answerAfter store earlier request journal world = .error failure →
    let before := (answered store earlier journal world).2.1.output
    let after := (answered store (earlier ++ [request]) journal world).2.1.output
    after.written = before.written ∧ after.unchanged = before.unchanged ∧
      after.trackedPaths = before.trackedPaths

/-- A tracked request that fails comes behind one that has succeeded and whose path is listed
alike. -/
def FailsBehind (store : Store (StateM σ)) (requests : List Request) (journal : Journal)
    (world : σ) : Prop :=
  ∀ earlier request later failure, requests = earlier ++ request :: later →
    request.track = true → answerAfter store earlier request journal world = .error failure →
    ∃ moment ∈ (answered store earlier journal world).1,
      Delivered moment ∧ moment.1.path.slashed = request.path.slashed

/-- What was delivered has paths that are texts. -/
def DeliversTexts (store : Store (StateM σ)) (requests : List Request) (journal : Journal)
    (world : σ) : Prop :=
  ∀ moment ∈ (answered store requests journal world).1, Delivered moment →
    moment.1.path.isText = true

/-- Everything that was to be tracked is among the tracked paths, and nothing else is. -/
theorem mem_trackedPaths_answered (new : journal.output.tracked = []) :
    name ∈ (answered store requests journal world).2.1.output.trackedPaths ↔
      ∃ moment ∈ (answered store requests journal world).1,
        moment.1.track = true ∧ moment.1.path.slashed = name := by
  rw [Output.mem_trackedPaths, output_answered]
  simp only [Output.mem_tracked_bookedAll, new, List.not_mem_nil, false_or]
  constructor
  · rintro ⟨path, ⟨moment, member, track, rfl⟩, spelled⟩
    exact ⟨moment, member, track, spelled⟩
  · rintro ⟨moment, member, track, spelled⟩
    exact ⟨_, ⟨moment, member, track, rfl⟩, spelled⟩

/-- Where no failed request changes the tracked paths, each of them was delivered. -/
theorem KeepsBooks.delivered (keeps : KeepsBooks store requests journal world)
    (new : journal.output.tracked = []) {earlier later : List Request}
    (split : requests = earlier ++ later)
    (tracked : name ∈ (answered store earlier journal world).2.1.output.trackedPaths) :
    ∃ moment ∈ (answered store earlier journal world).1,
      Delivered moment ∧ moment.1.path.slashed = name := by
  induction earlier using List.reverseRecOn generalizing later with
  | nil =>
    obtain ⟨moment, member, _⟩ := (mem_trackedPaths_answered new).mp tracked
    cases member
  | append_singleton earlier request ih =>
    rw [List.append_assoc, List.singleton_append] at split
    have before (there : name ∈ (answered store earlier journal world).2.1.output.trackedPaths) :
        ∃ moment ∈ (answered store (earlier ++ [request]) journal world).1,
          Delivered moment ∧ moment.1.path.slashed = name := by
      obtain ⟨moment, member, delivered⟩ := ih split there
      exact ⟨moment, mem_answered_of_append member, delivered⟩
    cases told : answerAfter store earlier request journal world with
    | error failure =>
      rw [(keeps.failed earlier request later failure split told).2.2] at tracked
      exact before tracked
    | ok said =>
      obtain ⟨moment, member, track, spelled⟩ := (mem_trackedPaths_answered new).mp tracked
      rw [answered_concat, List.mem_append, List.mem_singleton] at member
      rcases member with member | rfl
      · exact before ((mem_trackedPaths_answered new).mpr ⟨moment, member, track, spelled⟩)
      · refine ⟨_, ?_, ⟨track, ?_⟩, spelled⟩
        · rw [answered_concat]
          exact List.mem_append_right _ List.mem_cons_self
        · rw [told]
          rfl

/-- What was to be tracked is tracked, whether or not it has succeeded. -/
theorem slashed_mem_trackedPaths (new : journal.output.tracked = []) {request : Request}
    (track : request.track = true) (earlier later : List Request) : request.path.slashed ∈
      (answered store (earlier ++ request :: later) journal world).2.1.output.trackedPaths :=
  (mem_trackedPaths_answered new).mpr ⟨(request, answerAfter store earlier request journal world),
    mem_answered.mpr ⟨earlier, later, rfl, rfl⟩, track, rfl⟩

/-- Where every failure comes behind a success, no path goes on from the root and what was delivered
has texts for paths, the tracked paths are those of what was delivered. -/
theorem mem_trackedPaths_iff_delivered (new : journal.output.tracked = [])
    (behind : FailsBehind store requests journal world)
    (inside : ∀ request ∈ requests, request.track = true → ¬request.path.FromRoot)
    (texts : DeliversTexts store requests journal world) {spelling : RawText} :
    (∃ listed ∈ (answered store requests journal world).2.1.output.trackedPaths,
      RawText.ofText listed = spelling) ↔
      ∃ moment ∈ (answered store requests journal world).1,
        Delivered moment ∧ moment.1.path.tidy = spelling := by
  have plain (moment) (member : moment ∈ (answered store requests journal world).1)
      (delivered : Delivered moment) :
      RawText.ofText moment.1.path.slashed = moment.1.path.tidy := by
    obtain ⟨earlier, later, rfl, _⟩ := mem_answered.mp member
    exact (Path.ofText_slashed_eq_tidy (inside _ (by simp) delivered.1)).mpr
      (texts moment member delivered)
  constructor
  · rintro ⟨listed, tracked, rfl⟩
    obtain ⟨moment, member, track, rfl⟩ := (mem_trackedPaths_answered new).mp tracked
    cases told : moment.2 with
    | ok said =>
      have delivered : Delivered moment := ⟨track, by rw [told]; rfl⟩
      exact ⟨moment, member, delivered, (plain moment member delivered).symm⟩
    | error failure =>
      obtain ⟨earlier, later, split, answer⟩ := mem_answered.mp member
      obtain ⟨first, before, delivered, alike⟩ :=
        behind earlier moment.1 later failure split track (answer.trans told)
      have there : first ∈ (answered store requests journal world).1 := by
        rw [split]
        exact mem_answered_of_append before
      refine ⟨first, there, delivered, ?_⟩
      rw [← plain first there delivered, alike]
  · rintro ⟨moment, member, delivered, rfl⟩
    exact ⟨_, (mem_trackedPaths_answered new).mpr ⟨moment, member, delivered.1, rfl⟩,
      plain moment member delivered⟩

/-- A failed request behind a success for its path changes nothing in the books. -/
theorem books_of_fails (new : journal.output.tracked = [])
    (behind : FailsBehind store requests journal world) {earlier later : List Request}
    {request : Request} {failure : Failure} (split : requests = earlier ++ request :: later)
    (fails : answerAfter store earlier request journal world = .error failure) :
    let before := (answered store earlier journal world).2.1.output
    let after := (answered store (earlier ++ [request]) journal world).2.1.output
    after.written = before.written ∧ after.unchanged = before.unchanged ∧
      after.trackedPaths = before.trackedPaths := by
  dsimp only
  rw [output_answered_concat, fails]
  refine ⟨rfl, rfl, ?_⟩
  rw [Output.trackedPaths, Output.trackedPaths]
  cases track : request.track with
  | false => simp [Output.booked, track]
  | true =>
    obtain ⟨first, member, delivered, alike⟩ :=
      behind earlier request later failure split track fails
    have there : request.path.slashed ∈
        (answered store earlier journal world).2.1.output.tracked.map Path.slashed := by
      rw [← alike, ← Text.mem_sortedOnce]
      exact (mem_trackedPaths_answered new).mpr ⟨first, member, delivered.1, rfl⟩
    refine Text.sortedOnce_congr fun name => ?_
    simp only [Output.booked, track, Output.counted_error, if_true, List.map_append, List.map_cons,
      List.map_nil, List.mem_append, List.mem_singleton]
    constructor
    · rintro (before | rfl)
      · exact before
      · exact there
    · exact .inl

/-- For any store, whatever fails in it: the books of a new output account for what has happened
exactly when a tracked request fails only behind one that has succeeded and is listed alike, no
tracked path goes on from the root, and what was delivered has texts for paths. -/
theorem keepsBooks_iff (store : Store (StateM σ)) (requests : List Request) (root : Path)
    (keepsBackups : Bool) (events : List Event) (world : σ) :
    KeepsBooks store requests ⟨.fresh root keepsBackups, events⟩ world ↔
      FailsBehind store requests ⟨.fresh root keepsBackups, events⟩ world ∧
        (∀ request ∈ requests, request.track = true → ¬request.path.FromRoot) ∧
          DeliversTexts store requests ⟨.fresh root keepsBackups, events⟩ world := by
  constructor
  · intro keeps
    have inside (request) (member : request ∈ requests) (track : request.track = true) :
        ¬request.path.FromRoot := by
      intro fromRoot
      obtain ⟨earlier, later, rfl⟩ := List.append_of_mem member
      obtain ⟨moment, _, _, spelled⟩ :=
        (keeps.tracked _).mp ⟨_, slashed_mem_trackedPaths rfl track earlier later, rfl⟩
      exact Path.ofText_slashed_ne_tidy fromRoot _ spelled.symm
    refine ⟨?_, inside, ?_⟩
    · intro earlier request later failure split track fails
      have tracked : request.path.slashed ∈ (answered store (earlier ++ [request])
          ⟨.fresh root keepsBackups, events⟩ world).2.1.output.trackedPaths :=
        slashed_mem_trackedPaths rfl track earlier []
      rw [(keeps.failed earlier request later failure split fails).2.2] at tracked
      exact keeps.delivered rfl split tracked
    · intro moment member delivered
      obtain ⟨listed, _, spelled⟩ := (keeps.tracked _).mpr ⟨moment, member, delivered, rfl⟩
      obtain ⟨earlier, later, rfl, _⟩ := mem_answered.mp member
      rw [← Path.isText_tidy (inside _ (by simp) delivered.1), ← spelled]
      exact RawText.isText_ofText listed
  · rintro ⟨behind, inside, texts⟩
    refine ⟨?_, ?_, fun name => mem_trackedPaths_iff_delivered rfl behind inside texts, ?_⟩
    · rw [output_answered, Output.written_bookedAll]
      exact Nat.zero_add _
    · rw [output_answered, Output.unchanged_bookedAll]
      exact Nat.zero_add _
    · intro earlier request later failure split fails
      exact books_of_fails rfl behind split fails

/-- A request for a tracked file in a directory. -/
def aFileIn (dir : String) : Request := ⟨⟨dir⟩, "a.g.cs", "x", true⟩

/-- A machine on which a directory stands where such a file is to be written. -/
def blocked : Machine := ⟨⟨[("out", .directory [("a.g.cs", .directory [])])], []⟩, .standing 0⟩

theorem read?_blocked :
    blocked.disk.read? (Path.join ⟨"out"⟩ (aFileIn "").path) = .error (.file .isDirectory) := by
  have leads : Path.join ⟨"out"⟩ (aFileIn "").path = ⟨"out/a.g.cs"⟩ := by decide
  rw [leads, Disk.read?_eq (by decide), if_pos (Disk.takes_of_accepted (by cbv) (by decide))]
  rfl

/-- A file that cannot be read is tracked all the same, and a path that goes on from the root is
tracked with a slash too many. -/
theorem not_keepsBooks :
    ¬KeepsBooks Machine.fileSystem.store [aFileIn ""] ⟨.fresh ⟨"out"⟩ false, []⟩ blocked ∧
      ¬KeepsBooks memoryStore [aFileIn "/abs"] ⟨.fresh ⟨"out"⟩ false, []⟩
        ⟨.empty, .standing 0⟩ := by
  constructor
  · intro keeps
    have unread : (Machine.fileSystem.store.read (Path.join ⟨"out"⟩ (aFileIn "").path)).run.run
        blocked = (.error (.file .isDirectory), blocked) := by
      rw [Machine.run_read, read?_blocked]
    have same := (keeps.failed [] _ [] _ rfl (Output.answer_of_read_fails unread)).2.2
    have tracked : (aFileIn "").path.slashed ∈ (answered Machine.fileSystem.store [aFileIn ""]
        ⟨.fresh ⟨"out"⟩ false, []⟩ blocked).2.1.output.trackedPaths :=
      slashed_mem_trackedPaths rfl rfl [] []
    rw [List.nil_append] at same
    rw [same] at tracked
    obtain ⟨moment, member, _⟩ := (mem_trackedPaths_answered rfl).mp tracked
    cases member
  · intro keeps
    obtain ⟨moment, member, _, spelled⟩ := (keeps.tracked (RawText.ofText "//abs/a.g.cs")).mp
      ⟨"//abs/a.g.cs", by decide +kernel, rfl⟩
    have named : moment.1.path.tidy = RawText.ofText "/abs/a.g.cs" := by
      rw [List.mem_singleton.mp member]
      decide +kernel
    exact absurd (named.symm.trans spelled) (by decide)

end Bindery
