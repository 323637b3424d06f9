import Bindery.Text.Blank
import Bindery.Text.Search

/-! # Native type spellings

A native type is spelled as a bare name between qualifiers, a tag keyword on its left and
indirection marks on its right, with blanks anywhere between them. Reading a spelling takes the
marks off the right end, together with a `const` before each, then the words `const`, `struct` and
`enum` off the left end, each at most once and in this order, then one leading underscore.
-/

namespace Bindery

/-- A native type without its qualifiers: the bare name and the number of indirections. -/
structure Spelling where
  bare : List Char
  depth : Nat
  deriving DecidableEq

namespace Spelling

/-- The mark of one indirection. -/
def mark : Char := '*'

/-- The letters of the qualifier that may stand before an indirection mark. -/
def constWord : List Char := ['c', 'o', 'n', 's', 't']

/-- The words that may stand on the left of a name, in the order they are taken off. -/
def leftWords : List (List Char) :=
  [constWord, ['s', 't', 'r', 'u', 'c', 't'], ['e', 'n', 'u', 'm']]

/-- Takes a word off the left end, with the blanks after it. At least one has to follow. -/
def dropLeftWord (word s : List Char) : List Char :=
  match Text.after? word s with
  | some (c :: rest) => if Text.isBlank c then Text.trimStart (c :: rest) else s
  | _ => s

/-- Takes a final `const` off a reversed spelling, with the blanks before it. Nothing, a blank or an
indirection mark has to stand before the word. -/
def dropConst (reversed : List Char) : List Char :=
  match Text.after? constWord.reverse reversed with
  | some [] => []
  | some (c :: rest) =>
    if Text.isBlank c ∨ c = mark then Text.trimStart (c :: rest) else reversed
  | none => reversed

theorem length_dropConst_le (s : List Char) : (dropConst s).length ≤ s.length := by
  unfold dropConst
  split
  · simp
  · rename_i c rest found
    split
    · have length := congrArg List.length (Text.after?_eq_some_iff.mp found)
      have trimmed := Text.length_trimStart_le (c :: rest)
      simp only [List.length_append] at length
      omega
    · exact Nat.le_refl _
  · exact Nat.le_refl _

/-- Takes the indirection marks off a reversed spelling, and a `const` before each. -/
def peel (reversed : List Char) : Spelling :=
  match reversed with
  | [] => ⟨[], 0⟩
  | c :: rest =>
    if c = mark then
      let inner := peel (dropConst (Text.trimStart rest))
      ⟨inner.bare, inner.depth + 1⟩
    else ⟨c :: rest, 0⟩
termination_by reversed.length
decreasing_by
  have := length_dropConst_le (Text.trimStart rest)
  have := Text.length_trimStart_le rest
  simp only [List.length_cons]
  omega

/-- Takes the words off the left end of a spelling, then one underscore and the blanks after it. -/
def dropLeft (s : List Char) : List Char :=
  match leftWords.foldl (fun s word => dropLeftWord word s) s with
  | '_' :: rest => Text.trimStart rest
  | s => s

/-- Reads a native spelling. -/
def ofChars (native : List Char) : Spelling :=
  let peeled := peel (Text.trim native).reverse
  ⟨dropLeft peeled.bare.reverse, peeled.depth⟩

/-- Reads a native spelling. -/
def ofText (native : String) : Spelling := ofChars native.toList

/-- The bare name as a string. -/
def name (s : Spelling) : String := String.ofList s.bare

end Spelling

end Bindery
