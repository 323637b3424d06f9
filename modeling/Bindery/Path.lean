import Bindery.Text.Raw

/-! # Paths

A path is kept as it was spelled. Its components are what counts when paths are compared: repeated
and trailing slashes do not matter, nor does a `.` that is not the first component; `..` is kept.
The system does not ask for texts in a path. Where a path is shown, listed or given a backup, what
is no text in it is lost.
-/

namespace Bindery

/-- A path as it was spelled. -/
structure Path where
  spelling : RawText
  deriving DecidableEq, Inhabited

/-- A component of a path. -/
inductive Component where
  | root
  | current
  | parent
  | normal (name : RawText)
  deriving DecidableEq

namespace Component

/-- The spelling of a component. -/
def spelling : Component → RawText
  | .root => [.char '/']
  | .current => [.char '.']
  | .parent => [.char '.', .char '.']
  | .normal name => name

/-- What a component is shown as. -/
def text (component : Component) : String := component.spelling.text

/-- The place of a kind of component in the order of paths. -/
def rank : Component → Nat
  | .root => 0
  | .current => 1
  | .parent => 2
  | .normal _ => 3

/-- Components are ordered by kind, and names by their bytes. -/
def order (a b : Component) : Ordering :=
  match a, b with
  | .normal x, .normal y => x.order y
  | _, _ => compare a.rank b.rank

/-- The component that a piece between slashes stands for, where it stands for one. -/
def ofPiece? (atStart : Bool) (piece : RawText) : Option Component :=
  if piece.isEmpty then none
  else if piece = [.char '.'] then if atStart then some .current else none
  else if piece = [.char '.', .char '.'] then some .parent
  else some (.normal piece)

end Component

namespace Path

/-- What a path is shown as. -/
def text (path : Path) : String := path.spelling.text

/-- Whether a path is a text. -/
def isText (path : Path) : Bool := path.spelling.isText

/-- Whether a path starts at the root. -/
def isAbsolute (path : Path) : Bool := path.spelling.head? == some (.char '/')

/-- The components of a path, from left to right. -/
def components (path : Path) : List Component :=
  let pieces := Text.splitOn (.char '/') path.spelling
  if path.isAbsolute then .root :: pieces.filterMap (Component.ofPiece? false)
  else
    match pieces with
    | [] => []
    | first :: rest =>
      (Component.ofPiece? true first).toList ++ rest.filterMap (Component.ofPiece? false)

/-- Whether two spellings name the same path. -/
def same (a b : Path) : Bool := a.components = b.components

/-- The order of lists of components: the first difference counts, and a shorter list comes before
its extensions. -/
def orderComponents : List Component → List Component → Ordering
  | [], [] => .eq
  | [], _ :: _ => .lt
  | _ :: _, [] => .gt
  | a :: as, b :: bs => (a.order b).then (orderComponents as bs)

/-- The order of paths. -/
def order (a b : Path) : Ordering := orderComponents a.components b.components

/-- Appends a path to another. An absolute path replaces the one it is appended to; otherwise a
slash is put between them unless the first is empty or ends in one. -/
def join (base path : Path) : Path :=
  if path.isAbsolute then path
  else if base.spelling.isEmpty ∨ base.spelling.getLast? = some (.char '/') then
    ⟨base.spelling ++ path.spelling⟩
  else ⟨base.spelling ++ .char '/' :: path.spelling⟩

/-- What the components of a path are shown as, with slashes between them. -/
def slashed (path : Path) : String := Text.joined "/" (path.components.map Component.text)

/-- The name in the last component, where that is a name. -/
def fileName? (path : Path) : Option RawText :=
  match path.components.getLast? with
  | some (.normal name) => some name
  | _ => none

/-- What follows the last dot of a file name; a dot at its start does not count. -/
def extension? (path : Path) : Option RawText := do
  let reversed := (← path.fileName?).reverse
  let ending := reversed.takeWhile (· ≠ .char '.')
  match reversed.drop ending.length with
  | _ :: _ :: _ => some ending.reverse
  | _ => none

/-- Pieces between slashes, the last one first, without those at the end that stand for no
component. The first piece of all stays. -/
def dropIdle : (reversed : List RawText) → List RawText
  | [] => []
  | [first] => [first]
  | piece :: next :: rest =>
    if piece.isEmpty || piece == [.char '.'] then dropIdle (next :: rest)
    else piece :: next :: rest

/-- The path of the directory in which a path lies, as far as it is spelled there. It is empty where
nothing stands before the last component. -/
def parent (path : Path) : Path :=
  match dropIdle (Text.splitOn (.char '/') path.spelling).reverse with
  | _ :: next :: rest =>
    match dropIdle (next :: rest) with
    | [[]] => ⟨"/"⟩
    | pieces => ⟨[.char '/'].intercalate pieces.reverse⟩
  | _ => ⟨""⟩

/-- Whether a path has the ending of backups. -/
def isBackup (path : Path) : Bool := path.extension? == some (RawText.ofText "bak")

/-- The name of a backup of a path, as the path is shown. Where a name is taken, the next attempt
has another one. -/
def backup (path : Path) (seconds attempt : Nat) : Path :=
  if attempt = 0 then ⟨s!"{path.text}.{seconds}.bak"⟩
  else ⟨s!"{path.text}.{seconds}.{attempt}.bak"⟩

end Path

end Bindery
