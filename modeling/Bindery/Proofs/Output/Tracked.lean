import Bindery.Output
import Bindery.Proofs.Store.Slashed
import Bindery.Proofs.Text.Ordered

/-! # Tracked paths as texts

An output lists the paths that it tracks with slashes between their components. That is how a path
below a directory is written, where it is a text, but one that goes on from the root gets a second
slash at its start (`ofText_slashed_eq_tidy`, `ofText_slashed_ne_tidy`).
-/

namespace Bindery

namespace Path

/-- A path with one slash between each two names, and one slash for the root. -/
def tidy (path : Path) : RawText :=
  match path.components with
  | .root :: rest => .char '/' :: [.char '/'].intercalate (rest.map Component.spelling)
  | components => [.char '/'].intercalate (components.map Component.spelling)

/-- A path starts at the root and goes on from there. -/
def FromRoot (path : Path) : Prop := ∃ next rest, path.components = .root :: next :: rest

instance (path : Path) : Decidable path.FromRoot :=
  match parts : path.components with
  | .root :: next :: rest => .isTrue ⟨next, rest, parts⟩
  | [] | [_] | .current :: _ :: _ | .parent :: _ :: _ | .normal _ :: _ :: _ =>
    .isFalse fun ⟨_, _, fromRoot⟩ => nomatch parts.symm.trans fromRoot

variable {path : Path}

theorem tidy_eq_respelled (inside : ¬path.FromRoot) : path.tidy = path.respelled := by
  rw [respelled, tidy]
  split
  · next rest split =>
    cases rest with
    | nil => rw [split]; rfl
    | cons next rest => exact absurd ⟨next, rest, split⟩ inside
  · rfl

/-- A path that does not go on from the root is listed as it is, exactly where it is a text. -/
theorem ofText_slashed_eq_tidy (inside : ¬path.FromRoot) :
    RawText.ofText path.slashed = path.tidy ↔ path.isText = true := by
  rw [tidy_eq_respelled inside, ofText_slashed]

theorem isText_tidy (inside : ¬path.FromRoot) : path.tidy.isText = path.isText := by
  rw [tidy_eq_respelled inside]
  exact isText_of_same path.same_respelled

theorem slashed_fromRoot (fromRoot : path.FromRoot) :
    ∃ tail, RawText.ofText path.slashed = .char '/' :: .char '/' :: tail := by
  obtain ⟨next, rest, split⟩ := fromRoot
  have spelled : path.respelled = .char '/' :: .char '/' ::
      [.char '/'].intercalate ((next :: rest).map Component.spelling) := by
    rw [respelled, split]
    rfl
  rw [← text_respelled, spelled, RawText.ofText_text]
  exact ⟨_, rfl⟩

/-- Components with slashes between them begin like the first of them. -/
theorem intercalate_spellings (first : Component) (rest : List Component) :
    ∃ tail, [.char '/'].intercalate ((first :: rest).map Component.spelling) =
      first.spelling ++ tail := by
  cases rest with
  | nil => exact ⟨[], by simp⟩
  | cons next rest =>
    refine ⟨.char '/' :: [.char '/'].intercalate ((next :: rest).map Component.spelling), ?_⟩
    simp [List.intercalate_cons_cons]

theorem intercalate_ne_slash {atStart : Bool} {first : Component} (stands : first.Stands atStart)
    (rest : List Component) (tail : RawText) :
    [.char '/'].intercalate ((first :: rest).map Component.spelling) ≠ .char '/' :: tail := by
  obtain ⟨behind, spelled⟩ := intercalate_spellings first rest
  intro slash
  rw [spelled] at slash
  cases spelling : first.spelling with
  | nil => exact stands.spelling_ne_nil spelling
  | cons glyph glyphs =>
    rw [spelling] at slash
    have free := stands.free
    rw [spelling, (List.cons.inj slash).1] at free
    exact free List.mem_cons_self

/-- No tidy path begins with two slashes. -/
theorem tidy_ne (path : Path) (tail : RawText) : path.tidy ≠ .char '/' :: .char '/' :: tail := by
  rw [tidy]
  obtain ⟨rest, split, stand⟩ | none | ⟨first, rest, split, begins, _⟩ :=
    path.exists_components_eq
  · rw [split]
    intro slashes
    have behind := (List.cons.inj slashes).2
    cases rest with
    | nil => cases behind
    | cons next rest =>
      exact intercalate_ne_slash (List.forall_mem_cons.mp stand).1 rest tail behind
  · rw [none]
    exact nofun
  · have notRoot : first ≠ .root := by
      rintro rfl
      exact begins.free (by decide)
    rw [split]
    split
    · next equal => exact absurd (List.cons.inj equal).1 notRoot
    · exact intercalate_ne_slash begins rest _

/-- A path that goes on from the root is listed as no tidy path. -/
theorem ofText_slashed_ne_tidy (fromRoot : path.FromRoot) (other : Path) :
    RawText.ofText path.slashed ≠ other.tidy := by
  intro equal
  obtain ⟨tail, spelled⟩ := slashed_fromRoot fromRoot
  exact other.tidy_ne tail (equal.symm.trans spelled)

end Path

namespace Output

variable {output : Output}

theorem mem_trackedPaths {name : String} :
    name ∈ output.trackedPaths ↔ ∃ path ∈ output.tracked, path.slashed = name := by
  rw [trackedPaths, Text.mem_sortedOnce, List.mem_map]

end Output

end Bindery
