import Bindery.Proofs.Store.Memory
import Bindery.Proofs.Text.Splitting

/-! # Names below directories

Joining paths is associative (`join_assoc`). Where a joined path leads does not depend on how it is
spelled (`same_join_of_same`), and a file name that is joined to a path becomes its last component
(`components_join_name`). So two files are at the same place exactly when their directories and
their names are the same (`same_join_name`).
-/

namespace Bindery

namespace Component

/-- A piece that is not at the start stands for the directory above or for a name. -/
theorem ofPiece?_false {piece : RawText} {component : Component}
    (read : ofPiece? false piece = some component) :
    component = .parent ∨ ∃ name, component = .normal name := by
  simp only [ofPiece?, Bool.false_eq_true, if_false] at read
  split at read
  · cases read
  · split at read
    · cases read
    · split at read
      · exact .inl (Option.some.inj read).symm
      · exact .inr ⟨_, (Option.some.inj read).symm⟩

/-- At the start, a piece stands for what it stands for elsewhere or for the current directory. -/
theorem filter_ofPiece?_true (piece : RawText) :
    (ofPiece? true piece).toList.filter (· ≠ .current) =
      (ofPiece? false piece).toList := by
  unfold ofPiece?
  split
  · rfl
  split
  · rfl
  split <;> rfl

theorem ofPiece?_ne_root (atStart : Bool) (piece : RawText) :
    ofPiece? atStart piece ≠ some .root := by
  unfold ofPiece?
  split
  · simp
  split
  · split <;> simp
  split <;> simp

end Component

namespace Path

/-! ## Joining -/

/-- What is put between a path and another that is appended to it. -/
def separator (base : Path) : RawText :=
  if base.spelling.isEmpty ∨ base.spelling.getLast? = some (.char '/') then [] else [.char '/']

theorem join_of_absolute (base : Path) {path : Path} (absolute : path.isAbsolute = true) :
    base.join path = path := by
  rw [join, if_pos absolute]

theorem join_of_relative (base : Path) {path : Path} (relative : path.isAbsolute = false) :
    base.join path = ⟨base.spelling ++ base.separator ++ path.spelling⟩ := by
  rw [join, if_neg (by simp [relative]), separator]
  split
  · rw [List.append_nil]
  · rw [List.append_assoc, List.singleton_append]

theorem isAbsolute_append_of_filled {first : RawText} (filled : first ≠ []) (second : RawText) :
    isAbsolute ⟨first ++ second⟩ = isAbsolute ⟨first⟩ := by
  cases first with
  | nil => exact absurd rfl filled
  | cons glyph rest => rfl

theorem isAbsolute_join_of_relative (base : Path) {path : Path}
    (relative : path.isAbsolute = false) : (base.join path).isAbsolute = base.isAbsolute := by
  obtain ⟨spelling⟩ := base
  rw [join_of_relative _ relative, List.append_assoc]
  by_cases filled : spelling = []
  · subst filled
    exact relative
  · exact isAbsolute_append_of_filled filled _

/-- What comes after a joined path depends on the path that was joined last. -/
theorem separator_join (base path : Path) :
    separator ⟨base.spelling ++ base.separator ++ path.spelling⟩ = path.separator := by
  obtain ⟨spelling⟩ := path
  by_cases filled : spelling = []
  · subst filled
    rw [List.append_nil]
    by_cases ended : base.spelling.isEmpty ∨ base.spelling.getLast? = some (.char '/')
    · have none : base.separator = [] := if_pos ended
      rw [none, List.append_nil]
      exact none
    · have slash : base.separator = [.char '/'] := if_neg ended
      rw [slash]
      simp [separator]
  · cases last : spelling.getLast? with
    | none => exact absurd (List.getLast?_eq_none_iff.mp last) filled
    | some glyph => simp [separator, last, filled, List.getLast?_append]

theorem join_assoc (root dir file : Path) :
    root.join (dir.join file) = (root.join dir).join file := by
  cases fromRoot : file.isAbsolute with
  | true =>
    rw [join_of_absolute _ fromRoot, join_of_absolute _ fromRoot, join_of_absolute _ fromRoot]
  | false =>
    have below := isAbsolute_join_of_relative dir fromRoot
    cases absolute : dir.isAbsolute with
    | true => rw [join_of_absolute root (below.trans absolute), join_of_absolute root absolute]
    | false =>
      rw [join_of_relative root (below.trans absolute), join_of_relative root absolute,
        join_of_relative _ fromRoot, join_of_relative _ fromRoot, separator_join]
      simp only [List.append_assoc]

/-- What was joined to a path is a text where the joined path is one. -/
theorem isText_of_isText_join {base path : Path} (text : (base.join path).isText = true) :
    path.isText = true := by
  cases absolute : path.isAbsolute with
  | true => rwa [join_of_absolute _ absolute] at text
  | false =>
    rw [join_of_relative _ absolute, isText, RawText.isText_append] at text
    exact text.2

theorem isText_join {base path : Path} (above : base.isText = true) (below : path.isText = true) :
    (base.join path).isText = true := by
  cases absolute : path.isAbsolute with
  | true => rwa [join_of_absolute _ absolute]
  | false =>
    have between : base.separator.isText = true := by
      unfold separator
      split <;> rfl
    rw [join_of_relative _ absolute, isText, RawText.isText_append, RawText.isText_append]
    exact ⟨⟨above, between⟩, below⟩

/-! ## Components of joined paths -/

/-- The components that pieces between slashes stand for. -/
def componentsOf (absolute : Bool) (pieces : List RawText) : List Component :=
  if absolute then .root :: pieces.filterMap (Component.ofPiece? false)
  else
    match pieces with
    | [] => []
    | first :: rest =>
      (Component.ofPiece? true first).toList ++ rest.filterMap (Component.ofPiece? false)

theorem components_eq (path : Path) :
    path.components =
      componentsOf path.isAbsolute (Text.splitOn (.char '/') path.spelling) := rfl

theorem componentsOf_append (absolute : Bool) {pieces : List RawText} (some : pieces ≠ [])
    (more : List RawText) : componentsOf absolute (pieces ++ more) =
      componentsOf absolute pieces ++ more.filterMap (Component.ofPiece? false) := by
  cases pieces with
  | nil => exact absurd rfl some
  | cons first rest =>
    cases absolute with
    | true =>
      simp only [componentsOf, if_true, List.filterMap_append, List.cons_append]
      rw [← List.cons_append, List.filterMap_append]
    | false =>
      simp only [componentsOf, Bool.false_eq_true, if_false, List.cons_append,
        List.filterMap_append, List.append_assoc]

/-- Pieces that are not at the start stand for the same components, but for a current directory. -/
theorem filterMap_ofPiece?_false {pieces : List RawText} (some : pieces ≠ []) :
    pieces.filterMap (Component.ofPiece? false) =
      (componentsOf false pieces).filter (· ≠ .current) := by
  have solid (pieces : List RawText) : (pieces.filterMap (Component.ofPiece? false)).filter
      (· ≠ .current) = pieces.filterMap (Component.ofPiece? false) := by
    refine List.filter_eq_self.mpr fun component member => ?_
    obtain ⟨piece, _, named⟩ := List.mem_filterMap.mp member
    rw [decide_eq_true_eq]
    rcases Component.ofPiece?_false named with rfl | ⟨name, rfl⟩
    · exact Component.noConfusion
    · exact Component.noConfusion
  cases pieces with
  | nil => exact absurd rfl some
  | cons piece rest =>
    have apart : (piece :: rest).filterMap (Component.ofPiece? false) =
        (Component.ofPiece? false piece).toList ++ rest.filterMap (Component.ofPiece? false) := by
      cases named : Component.ofPiece? false piece <;> simp [named]
    rw [apart, componentsOf, if_neg Bool.false_ne_true, List.filter_append,
      Component.filter_ofPiece?_true, solid]

/-- Below a path, a relative path adds its components, but for a current directory. -/
theorem components_join_of_relative {base path : Path} (filled : base.spelling ≠ [])
    (relative : path.isAbsolute = false) : (base.join path).components =
      base.components ++ path.components.filter (· ≠ .current) := by
  have pieces := Text.splitOn_ne_nil (Glyph.char '/')
  rw [components_eq, isAbsolute_join_of_relative base relative, join_of_relative base relative,
    components_eq base, components_eq path, relative, ← filterMap_ofPiece?_false (pieces _)]
  obtain ⟨spelling⟩ := base
  by_cases ended : spelling.getLast? = some (.char '/')
  · obtain ⟨front, spelled⟩ := List.getLast?_eq_some_iff.mp ended
    have none : separator ⟨spelling⟩ = [] := if_pos (.inr ended)
    have shorter : Text.splitOn (.char '/') spelling = Text.splitOn (.char '/') front ++ [[]] := by
      rw [spelled, Text.splitOn_append_cons]
      rfl
    have longer : Text.splitOn (.char '/') (spelling ++ separator ⟨spelling⟩ ++ path.spelling) =
        Text.splitOn (.char '/') front ++ Text.splitOn (.char '/') path.spelling := by
      rw [none, List.append_nil, spelled, List.append_assoc, List.singleton_append,
        Text.splitOn_append_cons]
    have nothing : [[]].filterMap (Component.ofPiece? false) = [] := rfl
    rw [longer, shorter, componentsOf_append _ (pieces front), componentsOf_append _ (pieces front),
      nothing, List.append_nil]
  · have slash : separator ⟨spelling⟩ = [.char '/'] := if_neg (by simpa using ⟨filled, ended⟩)
    have longer : Text.splitOn (.char '/') (spelling ++ separator ⟨spelling⟩ ++ path.spelling) =
        Text.splitOn (.char '/') spelling ++ Text.splitOn (.char '/') path.spelling := by
      rw [slash, ← Text.splitOn_append_cons]
      simp
    rw [longer, componentsOf_append _ (pieces _)]

theorem join_of_blank (path : Path) : join ⟨""⟩ path = path := by
  cases absolute : path.isAbsolute with
  | true => exact join_of_absolute _ absolute
  | false =>
    rw [join_of_relative _ absolute]
    rfl

/-- Absolute paths are those with a root among their components. -/
theorem root_mem_components_iff {path : Path} :
    .root ∈ path.components ↔ path.isAbsolute = true := by
  rw [components_eq]
  cases path.isAbsolute with
  | true => simp [componentsOf]
  | false =>
    have notThere (atStart : Bool) (pieces : List RawText) :
        .root ∉ pieces.filterMap (Component.ofPiece? atStart) := by
      intro member
      obtain ⟨piece, _, named⟩ := List.mem_filterMap.mp member
      exact Component.ofPiece?_ne_root atStart piece named
    have unrooted : .root ∉ componentsOf false (Text.splitOn (.char '/') path.spelling) := by
      cases Text.splitOn (.char '/') path.spelling with
      | nil => exact List.not_mem_nil
      | cons first rest =>
        refine List.not_mem_append ?_ (notThere false rest)
        simpa using Component.ofPiece?_ne_root true first
    simpa using unrooted

theorem isAbsolute_eq_of_same {a b : Path} (same : a.same b = true) :
    a.isAbsolute = b.isAbsolute := by
  rw [Bool.eq_iff_iff, ← root_mem_components_iff, ← root_mem_components_iff, same_iff.mp same]

/-- However a path is spelled, joining it leads to the same place. -/
theorem same_join_of_same (base : Path) {a b : Path} (same : a.same b = true) :
    (base.join a).same (base.join b) = true := by
  have alike := isAbsolute_eq_of_same same
  cases absolute : a.isAbsolute with
  | true =>
    rw [join_of_absolute base absolute, join_of_absolute base (alike.symm.trans absolute)]
    exact same
  | false =>
    by_cases filled : base.spelling = []
    · obtain ⟨spelling⟩ := base
      obtain rfl : spelling = [] := filled
      rwa [show (⟨[]⟩ : Path) = ⟨""⟩ from rfl, join_of_blank, join_of_blank]
    · rw [same_iff, components_join_of_relative filled absolute,
        components_join_of_relative filled (alike.symm.trans absolute), same_iff.mp same]

/-- A text that can be the name of a file. -/
structure IsFileName (file : String) : Prop where
  free : '/' ∉ file.toList
  filled : file ≠ ""
  notCurrent : file ≠ "."
  notParent : file ≠ ".."

theorem IsFileName.ofPiece?_eq {file : String} (name : IsFileName file) (atStart : Bool) :
    Component.ofPiece? atStart (RawText.ofText file) = some (.normal file) := by
  have filled : (RawText.ofText file).isEmpty = false := by
    simpa [RawText.ofText] using name.filled
  have notCurrent : RawText.ofText file ≠ [.char '.'] := fun same =>
    name.notCurrent (RawText.ofText_inj.mp same)
  have notParent : RawText.ofText file ≠ [.char '.', .char '.'] := fun same =>
    name.notParent (RawText.ofText_inj.mp same)
  rw [Component.ofPiece?, filled, if_neg Bool.false_ne_true, if_neg notCurrent, if_neg notParent]

theorem IsFileName.not_mem {file : String} (name : IsFileName file) :
    .char '/' ∉ RawText.ofText file := by
  simpa [RawText.ofText] using name.free

theorem IsFileName.isAbsolute_eq {file : String} (name : IsFileName file) :
    isAbsolute ⟨file⟩ = false := by
  have free := name.not_mem
  rw [isAbsolute]
  cases spelled : RawText.ofText file with
  | nil => rfl
  | cons glyph rest =>
    have differs := (List.ne_and_not_mem_of_not_mem_cons (spelled ▸ free)).1
    simpa using differs.symm

theorem IsFileName.components_eq {file : String} (name : IsFileName file) :
    components ⟨file⟩ = [.normal file] := by
  rw [Path.components_eq, name.isAbsolute_eq, Text.splitOn_of_not_mem name.not_mem, componentsOf,
    if_neg Bool.false_ne_true, name.ofPiece?_eq]
  rfl

/-- The name of a file is the last component of its path. -/
theorem components_join_name (dir : Path) {file : String} (name : IsFileName file) :
    (dir.join ⟨file⟩).components = dir.components ++ [.normal file] := by
  by_cases filled : dir.spelling = []
  · obtain ⟨spelling⟩ := dir
    obtain rfl : spelling = [] := filled
    have nowhere : components ⟨""⟩ = [] := by decide
    rw [show (⟨[]⟩ : Path) = ⟨""⟩ from rfl, join_of_blank, nowhere, name.components_eq,
      List.nil_append]
  · rw [components_join_of_relative filled name.isAbsolute_eq, name.components_eq]
    rfl

/-- Files are at the same place when their directories and their names are the same. -/
theorem same_join_name {first second : String} (name : IsFileName first)
    (nameToo : IsFileName second) (dir other : Path) :
    (dir.join ⟨first⟩).same (other.join ⟨second⟩) = true ↔
      dir.same other = true ∧ first = second := by
  rw [same_iff, same_iff, components_join_name dir name, components_join_name other nameToo]
  constructor
  · intro same
    obtain ⟨dirs, names⟩ := List.append_inj' same rfl
    exact ⟨dirs, RawText.ofText_inj.mp (Component.normal.inj (List.singleton_inj.mp names))⟩
  · rintro ⟨dirs, rfl⟩
    rw [dirs]

end Path

end Bindery
