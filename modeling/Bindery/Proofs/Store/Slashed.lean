import Bindery.Proofs.Store.Joins

/-! # Paths with slashes between their components

A path that is spelled anew, with one slash between each two components, is the same path, although
one that starts at the root gets a slash more (`same_respelled`). What is listed of a path is this
spelling as it is shown, and leads back to the path exactly where the path is a text
(`ofText_slashed`, `isText_of_same`).
-/

namespace Bindery

/-- A component is what its own spelling stands for. -/
structure Component.Stands (atStart : Bool) (component : Component) : Prop where
  read : ofPiece? atStart component.spelling = some component
  free : .char '/' ∉ component.spelling

namespace Component

variable {first : Bool} {piece : RawText} {component : Component}

/-- A component is spelled like the piece that it comes from. -/
theorem spelling_of_ofPiece? (named : ofPiece? first piece = some component) :
    component.spelling = piece := by
  unfold ofPiece? at named
  split at named
  · contradiction
  split at named
  · next current =>
    split at named
    · obtain rfl := Option.some.inj named
      exact current.symm
    · contradiction
  split at named
  · next parent =>
    obtain rfl := Option.some.inj named
    exact parent.symm
  · obtain rfl := Option.some.inj named
    rfl

theorem stands_of_ofPiece? (named : ofPiece? first piece = some component)
    (free : .char '/' ∉ piece) : Stands first component where
  read := by rwa [spelling_of_ofPiece? named]
  free := by rwa [spelling_of_ofPiece? named]

theorem Stands.spelling_ne_nil (stands : Stands first component) : component.spelling ≠ [] := by
  intro blank
  have named := stands.read
  rw [blank] at named
  contradiction

/-- What a piece stands for elsewhere it stands for at the start too. -/
theorem Stands.atStart (stands : Stands false component) : Stands true component where
  read := by
    have named := stands.read
    unfold ofPiece? at named ⊢
    split at named
    · contradiction
    split at named
    · contradiction
    · next filled notCurrent =>
      rw [if_neg filled, if_neg notCurrent]
      exact named
  free := stands.free

/-- A piece in which something is no character stands for a name. -/
theorem ofPiece?_of_stray {atStart : Bool} {bytes : List UInt8} (stray : .stray bytes ∈ piece) :
    ofPiece? atStart piece = some (.normal piece) := by
  have filled : piece.isEmpty ≠ true := by
    rw [ne_eq, List.isEmpty_iff]
    rintro rfl
    cases stray
  have notCurrent : piece ≠ [.char '.'] := by
    rintro rfl
    simp at stray
  have notParent : piece ≠ [.char '.', .char '.'] := by
    rintro rfl
    simp at stray
  rw [ofPiece?, if_neg filled, if_neg notCurrent, if_neg notParent]

end Component

namespace Path

/-- The spelling of a path with one slash between each two components. -/
def respelled (path : Path) : RawText :=
  [.char '/'].intercalate (path.components.map Component.spelling)

theorem stands_of_mem_pieces {pieces : List RawText} (free : ∀ piece ∈ pieces, .char '/' ∉ piece)
    {atStart : Bool} {component : Component}
    (member : component ∈ pieces.filterMap (Component.ofPiece? atStart)) :
    component.Stands atStart := by
  obtain ⟨piece, inside, named⟩ := List.mem_filterMap.mp member
  exact Component.stands_of_ofPiece? named (free piece inside)

/-- The components of a path: perhaps the root, and otherwise such as their spellings stand for. -/
theorem exists_components_eq (path : Path) :
    (∃ rest, path.components = .root :: rest ∧ ∀ c ∈ rest, c.Stands false) ∨
      path.components = [] ∨
      ∃ first rest, path.components = first :: rest ∧ first.Stands true ∧
        ∀ c ∈ rest, c.Stands false := by
  have free : ∀ piece ∈ Text.splitOn (.char '/') path.spelling, .char '/' ∉ piece :=
    fun piece member => Text.not_mem_of_mem_splitOn member
  rw [components_eq]
  cases path.isAbsolute with
  | true => exact .inl ⟨_, rfl, fun c member => stands_of_mem_pieces free member⟩
  | false =>
    right
    cases pieces : Text.splitOn (.char '/') path.spelling with
    | nil => exact .inl rfl
    | cons piece more =>
      rw [pieces] at free
      obtain ⟨here, later⟩ := List.forall_mem_cons.mp free
      have others : ∀ c ∈ more.filterMap (Component.ofPiece? false), c.Stands false :=
        fun c member => stands_of_mem_pieces later member
      have split : componentsOf false (piece :: more) = (Component.ofPiece? true piece).toList ++
          more.filterMap (Component.ofPiece? false) := rfl
      rw [split]
      cases named : Component.ofPiece? true piece with
      | some first =>
        exact .inr ⟨first, _, rfl, Component.stands_of_ofPiece? named here, others⟩
      | none =>
        rw [Option.toList_none, List.nil_append]
        cases left : more.filterMap (Component.ofPiece? false) with
        | nil => exact .inl rfl
        | cons first rest =>
          rw [left] at others
          obtain ⟨leading, behind⟩ := List.forall_mem_cons.mp others
          exact .inr ⟨first, rest, rfl, leading.atStart, behind⟩

/-- Spellings that stand for components are read for them. -/
theorem filterMap_spellings {components : List Component}
    (stand : ∀ c ∈ components, c.Stands false) :
    (components.map Component.spelling).filterMap (Component.ofPiece? false) = components := by
  induction components with
  | nil => rfl
  | cons component rest ih =>
    obtain ⟨here, later⟩ := List.forall_mem_cons.mp stand
    rw [List.map_cons, List.filterMap_cons_some here.read, ih later]

theorem splitOn_spellings {first : Component} {rest : List Component}
    (free : .char '/' ∉ first.spelling) (stand : ∀ c ∈ rest, c.Stands false) :
    Text.splitOn (.char '/') ([.char '/'].intercalate ((first :: rest).map Component.spelling)) =
      first.spelling :: rest.map Component.spelling := by
  refine Text.splitOn_intercalate (List.forall_mem_cons.mpr ⟨free, ?_⟩)
  intro piece member
  obtain ⟨component, inside, rfl⟩ := List.mem_map.mp member
  exact (stand component inside).free

/-- A path whose first piece is not empty does not start at the root. -/
theorem isAbsolute_eq_false {spelling piece : RawText} {more : List RawText}
    (filled : piece ≠ []) (pieces : Text.splitOn (.char '/') spelling = piece :: more) :
    isAbsolute ⟨spelling⟩ = false := by
  cases spelling with
  | nil => rfl
  | cons glyph rest =>
    by_cases slash : glyph = .char '/'
    · rw [Text.splitOn, if_pos slash] at pieces
      exact absurd (List.cons.inj pieces).1.symm filled
    · simpa [isAbsolute] using slash

/-- A path with one slash between each two components has the same components. -/
theorem components_respelled (path : Path) : components ⟨path.respelled⟩ = path.components := by
  rw [respelled]
  obtain ⟨rest, split, stand⟩ | none | ⟨first, rest, split, begins, stand⟩ :=
    path.exists_components_eq
  · rw [split]
    cases rest with
    | nil => decide
    | cons next rest =>
      obtain ⟨here, later⟩ := List.forall_mem_cons.mp stand
      have spelled : [.char '/'].intercalate ((.root :: next :: rest).map Component.spelling) =
          .char '/' :: .char '/' ::
            [.char '/'].intercalate ((next :: rest).map Component.spelling) := rfl
      have absolute : isAbsolute
          ⟨[.char '/'].intercalate ((.root :: next :: rest).map Component.spelling)⟩ = true := by
        rw [spelled]
        rfl
      rw [components_eq, absolute, spelled, Text.splitOn, if_pos rfl, Text.splitOn, if_pos rfl,
        splitOn_spellings here.free later, ← List.map_cons]
      exact congrArg (Component.root :: ·) (filterMap_spellings stand)
  · rw [none]
    decide
  · have pieces := splitOn_spellings begins.free stand
    rw [split, components_eq, isAbsolute_eq_false begins.spelling_ne_nil pieces, pieces,
      componentsOf, if_neg Bool.false_ne_true, begins.read, Option.toList_some,
      filterMap_spellings stand, List.singleton_append]

/-- A path with one slash between each two components is the same path. -/
theorem same_respelled (path : Path) : same ⟨path.respelled⟩ path = true :=
  same_iff.mpr path.components_respelled

/-! ## Paths that are texts -/

/-- What a piece stands for wherever it is, that is among the components. -/
theorem mem_components_of_piece {path : Path} {piece : RawText} {component : Component}
    (inside : piece ∈ Text.splitOn (.char '/') path.spelling)
    (named : ∀ atStart, Component.ofPiece? atStart piece = some component) :
    component ∈ path.components := by
  have later {pieces : List RawText} (inside : piece ∈ pieces) :
      component ∈ pieces.filterMap (Component.ofPiece? false) :=
    List.mem_filterMap.mpr ⟨piece, inside, named false⟩
  rw [components_eq]
  unfold componentsOf
  split
  · exact List.mem_cons_of_mem _ (later inside)
  · cases pieces : Text.splitOn (.char '/') path.spelling with
    | nil => exact absurd pieces (Text.splitOn_ne_nil _ _)
    | cons first rest =>
      rw [pieces] at inside
      rcases List.mem_cons.mp inside with rfl | behind
      · exact List.mem_append_left _ (by simp [named])
      · exact List.mem_append_right _ (later behind)

/-- A component other than the root is spelled like one of the pieces. -/
theorem spelling_mem_of_mem_components {path : Path} {component : Component}
    (member : component ∈ path.components) (other : component ≠ .root) :
    component.spelling ∈ Text.splitOn (.char '/') path.spelling := by
  have spelled {atStart : Bool} {pieces : List RawText}
      (named : component ∈ pieces.filterMap (Component.ofPiece? atStart)) :
      component.spelling ∈ pieces := by
    obtain ⟨piece, inside, named⟩ := List.mem_filterMap.mp named
    rwa [Component.spelling_of_ofPiece? named]
  rw [components_eq] at member
  unfold componentsOf at member
  split at member
  · exact spelled (List.mem_of_ne_of_mem other member)
  · cases pieces : Text.splitOn (.char '/') path.spelling with
    | nil => exact absurd pieces (Text.splitOn_ne_nil _ _)
    | cons first rest =>
      rw [pieces] at member
      rcases List.mem_append.mp member with here | later
      · rw [Component.spelling_of_ofPiece? (Option.mem_toList.mp here)]
        exact List.mem_cons_self
      · exact List.mem_cons_of_mem _ (spelled later)

/-- What is no character in a path is in its components. -/
theorem stray_mem_iff {path : Path} {bytes : List UInt8} :
    .stray bytes ∈ path.spelling ↔ ∃ c ∈ path.components, .stray bytes ∈ c.spelling := by
  constructor
  · intro member
    have solid : Glyph.stray bytes ≠ .char '/' := nofun
    obtain ⟨piece, inside, stray⟩ := Text.mem_splitOn member solid
    have named (atStart : Bool) : Component.ofPiece? atStart piece = some (.normal piece) :=
      Component.ofPiece?_of_stray stray
    exact ⟨.normal piece, mem_components_of_piece inside named, stray⟩
  · rintro ⟨component, member, stray⟩
    have other : component ≠ .root := by
      rintro rfl
      simp [Component.spelling] at stray
    exact Text.mem_of_mem_splitOn (spelling_mem_of_mem_components member other) stray

/-- Whether a path is a text depends on nothing but its components. -/
theorem isText_of_same {a b : Path} (same : a.same b = true) : a.isText = b.isText := by
  rw [Bool.eq_iff_iff, isText, isText, RawText.isText_iff, RawText.isText_iff]
  simp only [stray_mem_iff, same_iff.mp same]

/-- What is listed of a path is its new spelling, as it is shown. -/
theorem text_respelled (path : Path) : path.respelled.text = path.slashed := by
  rw [respelled, slashed]
  induction path.components with
  | nil => rfl
  | cons first rest ih =>
    cases rest with
    | nil => simp [Text.joined, Component.text]
    | cons next rest =>
      rw [Text.joined] at ih ⊢
      rw [List.map_cons, List.map_cons, List.map_cons, List.map_cons, List.intercalate_cons_cons,
        String.intercalate_cons_cons, RawText.text_append, RawText.text_append,
        ← List.map_cons, ← List.map_cons, ih]
      rfl

/-- A path can be spelled anew from what is listed of it exactly where it is a text. -/
theorem ofText_slashed {path : Path} :
    RawText.ofText path.slashed = path.respelled ↔ path.isText = true := by
  rw [← text_respelled, RawText.ofText_text_eq_iff, ← isText_of_same path.same_respelled]
  rfl

end Path

end Bindery
