import Bindery.Proofs.Store.BackupNames
import Bindery.Store.Memory

/-! # Memories that change

A memory answers with what was put last. Main statements: putting a text changes what is at its path
and nothing else (`get?_put`), and an archive gets a path at which nothing is
(`contains_backupPath`).
-/

namespace Bindery

namespace Path

theorem same_iff {a b : Path} : a.same b = true ↔ a.components = b.components :=
  decide_eq_true_iff

@[simp] theorem same_self (path : Path) : path.same path = true := same_iff.mpr rfl

/-- Paths that are the same are the same as the same paths. -/
theorem same_congr {a b : Path} (same : a.same b = true) (other : Path) :
    a.same other = b.same other := by
  simp only [Path.same, same_iff.mp same]

theorem same_comm (a b : Path) : a.same b = b.same a := by
  simp only [Path.same, eq_comm]

end Path

/-- A free name is looked for among the attempts from one on, and no name that is not taken is
passed by. -/
theorem exists_freeBackup_eq (taken : Path → Bool) (path : Path) (seconds tries attempt : Nat) :
    ∃ later ≤ attempt + tries,
      Id.run (freeBackup (fun candidate => pure (taken candidate)) path seconds tries attempt) =
          path.backup seconds later ∧
        ∀ n, attempt ≤ n → n < later → taken (path.backup seconds n) = true := by
  induction tries generalizing attempt with
  | zero => exact ⟨attempt, by omega, rfl, fun n least most => absurd most (by omega)⟩
  | succ tries ih =>
    simp only [freeBackup, pure_bind]
    split
    · next held =>
      obtain ⟨later, bound, named, passed⟩ := ih (attempt + 1)
      refine ⟨later, by omega, named, fun n least most => ?_⟩
      rcases Nat.eq_or_lt_of_le least with rfl | behind
      · exact held
      · exact passed n behind most
    · exact ⟨attempt, by omega, rfl, fun n least most => absurd most (by omega)⟩

/-- A free name is found where one of those that are tried is free. -/
theorem freeBackup_free {taken : Path → Bool} {path : Path} {seconds tries attempt : Nat}
    (free : ∃ n, attempt ≤ n ∧ n ≤ attempt + tries ∧ taken (path.backup seconds n) = false) :
    taken (Id.run
      (freeBackup (fun candidate => pure (taken candidate)) path seconds tries attempt)) =
        false := by
  induction tries generalizing attempt with
  | zero =>
    obtain ⟨n, least, most, free⟩ := free
    obtain rfl : n = attempt := by omega
    exact free
  | succ tries ih =>
    simp only [freeBackup, pure_bind]
    split
    · next held =>
      obtain ⟨n, least, most, free⟩ := free
      have later : n ≠ attempt := by
        rintro rfl
        rw [held] at free
        contradiction
      exact ih ⟨n, by omega, by omega, free⟩
    · next vacant => exact Bool.eq_false_iff.mpr vacant

namespace Memory

/-- What is found first after a file was put is that file, or what was found before. -/
theorem find?_putFile (path other : Path) (content : String) (files : List (Path × String)) :
    ((putFile path content files).find? fun file => file.1.same other).map (·.2) =
      if path.same other then some content
      else (files.find? fun file => file.1.same other).map (·.2) := by
  induction files with
  | nil => cases wanted : path.same other <;> simp [putFile, wanted]
  | cons file rest ih =>
    obtain ⟨known, old⟩ := file
    cases here : known.same path with
    | true =>
      cases wanted : path.same other <;>
        simp [putFile, here, Path.same_congr here other, wanted]
    | false =>
      simp only [putFile, here, Bool.false_eq_true, if_false, List.find?_cons]
      cases found : known.same other with
      | false => exact ih
      | true =>
        have differs : path.same other = false := by
          rw [Path.same_comm, ← Path.same_congr found, here]
        simp [differs]

theorem get?_put (memory : Memory) (path other : Path) (content : String) :
    (memory.put path content).get? other =
      if path.same other then some content else memory.get? other :=
  find?_putFile path other content memory.files

theorem get?_congr (memory : Memory) {a b : Path} (same : a.same b = true) :
    memory.get? a = memory.get? b := by
  simp only [get?, Path.same_comm _ a, Path.same_comm _ b, Path.same_congr same]

theorem contains_eq_false_iff {memory : Memory} {path : Path} :
    memory.contains path = false ↔ ∀ file ∈ memory.files, file.1.same path = false := by
  simp only [contains, get?, Option.isSome_map, List.find?_isSome, Bool.eq_false_iff, ne_eq,
    not_exists, not_and]

/-- A file that is put replaces one at its path, or comes last. -/
theorem mem_putFile {path : Path} {content : String} {files : List (Path × String)}
    {file : Path × String} (member : file ∈ putFile path content files) :
    file ∈ files ∨ file.1.same path = true := by
  induction files with
  | nil =>
    rw [putFile, List.mem_singleton] at member
    subst member
    exact .inr path.same_self
  | cons first rest ih =>
    obtain ⟨known, old⟩ := first
    cases here : known.same path with
    | true =>
      simp only [putFile, here, if_true, List.mem_cons] at member
      obtain rfl | later := member
      · exact .inr here
      · exact .inl (List.mem_cons_of_mem _ later)
    | false =>
      simp only [putFile, here, Bool.false_eq_true, if_false, List.mem_cons] at member
      obtain rfl | later := member
      · exact .inl List.mem_cons_self
      · exact (ih later).imp_left (List.mem_cons_of_mem _)

/-- Files at other paths stay. -/
theorem mem_putFile_of_other {path : Path} {content : String} {files : List (Path × String)}
    {file : Path × String} (member : file ∈ files) (other : file.1.same path = false) :
    file ∈ putFile path content files := by
  induction files with
  | nil => contradiction
  | cons first rest ih =>
    obtain ⟨known, old⟩ := first
    cases here : known.same path with
    | true =>
      simp only [putFile, here, if_true, List.mem_cons]
      obtain rfl | later := List.mem_cons.mp member
      · rw [here] at other
        contradiction
      · exact .inr later
    | false =>
      simp only [putFile, here, Bool.false_eq_true, if_false, List.mem_cons]
      exact (List.mem_cons.mp member).imp_right ih

/-- Where nothing is, a file comes last. -/
theorem put_of_vacant {memory : Memory} {path : Path} (content : String)
    (vacant : memory.contains path = false) :
    memory.put path content = ⟨memory.files ++ [(path, content)]⟩ := by
  have others := contains_eq_false_iff.mp vacant
  suffices added : ∀ files : List (Path × String), (∀ file ∈ files, file.1.same path = false) →
      putFile path content files = files ++ [(path, content)] from
    congrArg Memory.mk (added _ others)
  intro files others
  induction files with
  | nil => rfl
  | cons first rest ih =>
    obtain ⟨here, later⟩ := List.forall_mem_cons.mp others
    simp only [putFile, here, Bool.false_eq_true, if_false, ih later, List.cons_append]

/-- There are more names for backups than files, so one of the first is free. -/
theorem exists_free_backup (memory : Memory) (path : Path) (seconds : Nat) :
    ∃ n ≤ memory.files.length, memory.contains (path.backup seconds n) = false := by
  refine Classical.byContradiction fun none => ?_
  have taken : ∀ n ≤ memory.files.length, memory.contains (path.backup seconds n) = true := by
    intro n bound
    cases free : memory.contains (path.backup seconds n) with
    | true => rfl
    | false => exact absurd ⟨n, bound, free⟩ none
  let names := (List.range (memory.files.length + 1)).map fun n =>
    (path.backup seconds n).components
  have distinct : names.Nodup := by
    refine List.pairwise_map.mpr (List.nodup_range.imp fun differ same => ?_)
    exact differ ((Path.same_backup_iff path).mp (Path.same_iff.mpr same))
  have held : names ⊆ memory.files.map fun file => file.1.components := by
    intro components member
    obtain ⟨n, inside, rfl⟩ := List.mem_map.mp member
    have here := taken n (by rw [List.mem_range] at inside; omega)
    rw [contains, get?, Option.isSome_map, List.find?_isSome] at here
    obtain ⟨file, stored, same⟩ := here
    rw [← Path.same_iff.mp same]
    exact List.mem_map_of_mem stored
  have bound := distinct.length_le_of_subset held
  simp only [names, List.length_map, List.length_range] at bound
  omega

/-- An archive gets a path at which nothing is. -/
theorem contains_backupPath (memory : Memory) (path : Path) (seconds : Nat) :
    memory.contains (memory.backupPath path seconds) = false := by
  obtain ⟨n, bound, free⟩ := memory.exists_free_backup path seconds
  exact freeBackup_free ⟨n, by omega, by omega, free⟩

/-- An archive of a path gets the first of the names of its backups at which nothing is, and one of
the first of them is. -/
theorem exists_backupPath_eq (memory : Memory) (path : Path) (seconds : Nat) :
    ∃ attempt ≤ memory.files.length, memory.backupPath path seconds = path.backup seconds attempt ∧
      ∀ earlier < attempt, memory.contains (path.backup seconds earlier) = true := by
  obtain ⟨attempt, bound, named, passed⟩ :=
    exists_freeBackup_eq memory.contains path seconds memory.files.length 0
  exact ⟨attempt, by omega, named, fun earlier before => passed earlier (Nat.zero_le _) before⟩

/-- Where something is, a file that is put there takes its place. -/
theorem length_put_of_contains {memory : Memory} {path : Path} (content : String)
    (held : memory.contains path = true) :
    (memory.put path content).files.length = memory.files.length := by
  suffices replaced : ∀ files : List (Path × String), (∃ file ∈ files, file.1.same path = true) →
      (putFile path content files).length = files.length by
    rw [contains, get?, Option.isSome_map, List.find?_isSome] at held
    exact replaced _ held
  intro files there
  induction files with
  | nil => simp at there
  | cons file rest ih =>
    obtain ⟨known, old⟩ := file
    cases here : known.same path with
    | true => simp [putFile, here]
    | false =>
      have later : ∃ file ∈ rest, file.1.same path = true := by simpa [here] using there
      simp [putFile, here, ih later]

end Memory

end Bindery
