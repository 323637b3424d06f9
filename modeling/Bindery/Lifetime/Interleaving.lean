import Bindery.Lifetime.Operations

/-! # Operations section by section

Threads that work on the same receivers take turns between sections. An operation is a first
section, which settles its result, and jobs that are left to do after it; other threads may come
between any two of them. Doing the jobs without a break gives the operation as a whole.
-/

namespace Bindery.Lifetime

variable {V : Type}

/-- What is left to do of an operation, each job beginning with one section. -/
inductive Job where
  | letGo (id : ReceiverId)
  | finishRelease (id : ReceiverId)
  | dispose (id : ReceiverId)
  | unroot (id : ReceiverId)
  | freeBlock (id : ReceiverId)
  | announce (id : ReceiverId)
  deriving DecidableEq, Repr

namespace Job

/-- The section with which a job begins: the world after it, and the jobs that it leaves. -/
def perform (world : World V) : Job → World V × List Job
  | .letGo id =>
    match world.unhold id with
    | (true, world) => (world, [.dispose id])
    | (false, world) => (world, [])
  | .finishRelease id =>
    match world.noteRelease id with
    | (true, world) => (world, [.dispose id])
    | (false, world) => (world, [])
  | .dispose id =>
    match world.takeGuard id with
    | (true, world) => (world, [.unroot id, .freeBlock id, .announce id])
    | (false, world) => (world, [])
  | .unroot id => (world.unroot id, [])
  | .freeBlock id => (world.freeBlock id, [])
  | .announce id => (world.announce id, [])

/-- A job from its beginning to its end. -/
def complete (world : World V) : Job → World V
  | .letGo id => world.letGo id
  | .finishRelease id => world.finishRelease id
  | .dispose id => (world.dispose id).2
  | .unroot id => world.unroot id
  | .freeBlock id => world.freeBlock id
  | .announce id => world.announce id

/-- Jobs one after the other. -/
def completeAll (world : World V) (jobs : List Job) : World V := jobs.foldl complete world

theorem complete_eq_perform (world : World V) (job : Job) :
    complete world job = completeAll (job.perform world).1 (job.perform world).2 := by
  cases job with
  | letGo id =>
    simp only [complete, perform, World.letGo]
    rcases world.unhold id with ⟨_ | _, next⟩ <;> rfl
  | finishRelease id =>
    simp only [complete, perform, World.finishRelease]
    rcases world.noteRelease id with ⟨_ | _, next⟩ <;> rfl
  | dispose id =>
    simp only [complete, perform, World.dispose]
    rcases world.takeGuard id with ⟨_ | _, next⟩ <;> rfl
  | unroot id => rfl
  | freeBlock id => rfl
  | announce id => rfl

/-- The job of giving up what a registry held. -/
def ofItem : Option (Item V) → List Job
  | some (.receiver id) => [.letGo id]
  | _ => []

theorem completeAll_ofItem (world : World V) (item : Option (Item V)) :
    completeAll world (ofItem item) = world.letItemGo item := by
  rcases item with _ | _ | _ <;> rfl

end Job

/-- The jobs that a release leaves after its section. -/
def releaseJobs (id : ReceiverId) (last : Bool) (removed : Option (Item V)) : List Job :=
  Job.ofItem removed ++ if last then [.finishRelease id] else []

theorem completeAll_releaseJobs (world : World V) (id : ReceiverId) (last : Bool)
    (removed : Option (Item V)) :
    Job.completeAll world (releaseJobs id last removed) =
      if last then (world.letItemGo removed).finishRelease id else world.letItemGo removed := by
  have first : List.foldl Job.complete world (Job.ofItem removed) = world.letItemGo removed :=
    Job.completeAll_ofItem world removed
  cases last <;> simp [Job.completeAll, releaseJobs, List.foldl_append, first, Job.complete]

/-- A release is its section and its jobs. -/
theorem World.release_eq (world : World V) (id : ReceiverId) :
    world.release id =
      match world.releaseSection (world.registryOf id) id with
      | (.error fault, next) => (.error fault, next)
      | (.ok (last, removed), next) =>
        (.ok last, Job.completeAll next (releaseJobs id last removed)) := by
  simp only [completeAll_releaseJobs]
  rfl

/-- A lookup is its section and its jobs. -/
theorem World.lookup_eq (world : World V) (registry : RegistryId) (expected : V → Bool)
    (handle : Handle) :
    world.lookup registry expected handle =
      match world.lookupSection registry expected handle with
      | (.error fault, next) => (.error fault, next)
      | (.ok (id, last, removed), next) =>
        (.ok id, Job.completeAll next (releaseJobs id last removed)) := by
  simp only [completeAll_releaseJobs]
  rfl

/-- A retain is its section and its jobs. -/
theorem World.retain_eq (world : World V) (id : ReceiverId) :
    world.retain id =
      match world.retainSection id with
      | (.error fault, next) => (.error fault, next)
      | (.ok (count, displaced), next) =>
        (.ok count, Job.completeAll next (Job.ofItem displaced)) := by
  simp only [Job.completeAll_ofItem]
  rfl

end Bindery.Lifetime
