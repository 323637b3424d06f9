import Bindery.Proofs.Output.Sessions
import Bindery.Proofs.Output.Settling

/-! # Sessions over a memory

A session over a memory is a function of a journal and a memory, as over any world. Main statement:
updating a file settles an item, answers whether that changed something, and has no other effect on
the memory; of the books of the output only the counts and the tracked paths change
(`inMemory_update`).
-/

namespace Bindery

namespace Session

variable {α β : Type}

/-- What a session over a memory ends with. -/
def inMemory (session : Session (StateM ClockedMemory) α) (journal : Journal)
    (world : ClockedMemory) : (Except Failure α × Journal) × ClockedMemory :=
  Id.run ((session.run.run journal).run world)

theorem inMemory_bind_of_ok {first : Session (StateM ClockedMemory) α} {journal later : Journal}
    {world after : ClockedMemory} {value : α}
    (ended : first.inMemory journal world = ((.ok value, later), after))
    (next : α → Session (StateM ClockedMemory) β) :
    (first >>= next).inMemory journal world = (next value).inMemory later after :=
  inWorld_bind_of_ok ended next

theorem inMemory_bind_of_error {first : Session (StateM ClockedMemory) α} {journal later : Journal}
    {world after : ClockedMemory} {failure : Failure}
    (ended : first.inMemory journal world = ((.error failure, later), after))
    (next : α → Session (StateM ClockedMemory) β) :
    (first >>= next).inMemory journal world = ((.error failure, later), after) :=
  inWorld_bind_of_error ended next

end Session

/-- The books of an output later on: they are kept for the same place in the same way, and some more
paths are tracked. -/
structure Output.Follows (before : Output) (more : List Path) (after : Output) : Prop where
  root : after.root = before.root
  keepsBackups : after.keepsBackups = before.keepsBackups
  tracked : after.tracked = before.tracked ++ more

namespace Output

/-- What an output is asked to settle with a file. -/
def item (output : Output) (dir : Path) (file content : String) : Item :=
  ⟨output.root.join (dir.join ⟨file⟩), content⟩

/-- Tracking a file does not bear on what is done with it. -/
theorem inMemory_update_tracked (dir : Path) (file content : String) (journal : Journal)
    (world : ClockedMemory) :
    (update memoryStore dir file content true).inMemory journal world =
      (update memoryStore dir file content false).inMemory
        { journal with
          output := { journal.output with tracked := journal.output.tracked ++ [dir.join ⟨file⟩] } }
        world :=
  inWorld_update_tracked memoryStore dir file content journal world

/-- Updating a file settles it. -/
theorem inMemory_update_untracked (dir : Path) (file content : String) (journal : Journal)
    (world : ClockedMemory) : ∃ later,
      (update memoryStore dir file content false).inMemory journal world =
        ((.ok (world.lacks (journal.output.item dir file content)), later),
          world.settle journal.output.keepsBackups (journal.output.item dir file content)) ∧
        journal.output.Follows [] later.output := by
  have untracked := (List.append_nil journal.output.tracked).symm
  rw [update, Session.inMemory_bind_of_ok rfl]
  simp only [Bool.false_eq_true, if_false]
  rw [Session.inMemory_bind_of_ok rfl]
  cases stands : world.lacks (journal.output.item dir file content) with
  | false =>
    have equal :
        (world.memory.get? (journal.output.root.join (dir.join ⟨file⟩))).getD "" = content :=
      bne_eq_false_iff_eq.mp stands
    rw [ClockedMemory.settle_of_lacks_eq_false stands, if_pos equal]
    exact ⟨_, rfl, rfl, rfl, untracked⟩
  | true =>
    have differs :
        (world.memory.get? (journal.output.root.join (dir.join ⟨file⟩))).getD "" ≠ content :=
      bne_iff_ne.mp stands
    simp only [ClockedMemory.settle, stands, if_true]
    rw [if_neg differs]
    by_cases archives : (journal.output.keepsBackups &&
        !((world.memory.get? (journal.output.root.join (dir.join ⟨file⟩))).getD "").isEmpty) = true
    · have archived : ClockedMemory.archived journal.output.keepsBackups world
          (journal.output.item dir file content) =
          world.archive (journal.output.root.join (dir.join ⟨file⟩))
            ((world.memory.get? (journal.output.root.join (dir.join ⟨file⟩))).getD "") :=
        if_pos archives
      rw [archived, if_pos archives]
      exact ⟨_, rfl, rfl, rfl, untracked⟩
    · have archived : ClockedMemory.archived journal.output.keepsBackups world
          (journal.output.item dir file content) = world := if_neg archives
      rw [archived, if_neg archives]
      exact ⟨_, rfl, rfl, rfl, untracked⟩

theorem inMemory_update (dir : Path) (file content : String) (track : Bool) (journal : Journal)
    (world : ClockedMemory) : ∃ later,
      (update memoryStore dir file content track).inMemory journal world =
        ((.ok (world.lacks (journal.output.item dir file content)), later),
          world.settle journal.output.keepsBackups (journal.output.item dir file content)) ∧
        journal.output.Follows (if track then [dir.join ⟨file⟩] else []) later.output := by
  cases track with
  | false => exact inMemory_update_untracked dir file content journal world
  | true =>
    rw [inMemory_update_tracked]
    obtain ⟨later, ended, root, keeps, tracked⟩ := inMemory_update_untracked dir file content
      { journal with
        output := { journal.output with tracked := journal.output.tracked ++ [dir.join ⟨file⟩] } }
      world
    exact ⟨later, ended, root, keeps, tracked.trans (List.append_nil _)⟩

end Output
end Bindery
