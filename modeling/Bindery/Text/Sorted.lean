/-! # Sorted lists of strings

Lists that are shown to others are put into the order of their characters, each string once.
-/

namespace Bindery.Text

/-- A list without the items that equal their right neighbour. -/
def dropRepeats : List String → List String
  | [] => []
  | [item] => [item]
  | item :: next :: rest =>
    if item = next then dropRepeats (next :: rest) else item :: dropRepeats (next :: rest)

/-- The strings of a list in order, each of them once. -/
def sortedOnce (items : List String) : List String := dropRepeats (items.mergeSort fun a b => a ≤ b)

end Bindery.Text
