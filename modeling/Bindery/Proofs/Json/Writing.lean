import Bindery.Json.Reader
import Bindery.Json.Value

/-! # The texts of a value

A value has many texts, which differ in the blanks between their tokens. Strings, keys and members
are the same in all of them, and in the same order. Main statement: the text without blanks is one
of them (`Value.writes_chars`).
-/

namespace Bindery.Json

/-- A text of nothing but characters that may stand between tokens. -/
def Gap (s : List Char) : Prop := ∀ c ∈ s, Reader.isSpace c = true

theorem gap_nil : Gap [] := List.forall_mem_nil _

/-- The text between brackets: parts with a comma between neighbours. Behind a part (not `first`)
what is left begins with a comma. -/
inductive Parted {α : Type} (writes : α → List Char → Prop) : Bool → List α → List Char → Prop
  | none {first : Bool} {gap : List Char} : Gap gap → Parted writes first [] gap
  | first {gap text inner : List Char} {part : α} {parts : List α} :
      Gap gap → writes part text → Parted writes false parts inner →
      Parted writes true (part :: parts) (gap ++ (text ++ inner))
  | next {before behind text inner : List Char} {part : α} {parts : List α} :
      Gap before → Gap behind → writes part text → Parted writes false parts inner →
      Parted writes false (part :: parts) (before ++ ',' :: (behind ++ (text ++ inner)))

/-- A key and a value with a colon between them. -/
inductive Keyed (writes : Value → List Char → Prop) : String × Value → List Char → Prop
  | mk {key : String} {value : Value} {before behind text : List Char} :
      Gap before → Gap behind → writes value text →
      Keyed writes (key, value) (Value.literal key ++ (before ++ ':' :: (behind ++ text)))

namespace Value

/-- The texts of a value. -/
inductive Writes : Value → List Char → Prop
  | null : Writes .null ['n', 'u', 'l', 'l']
  | yes : Writes (.bool true) ['t', 'r', 'u', 'e']
  | no : Writes (.bool false) ['f', 'a', 'l', 's', 'e']
  | number {written : String} : Writes (.number written) written.toList
  | text {s : String} : Writes (.text s) (literal s)
  | list {items : List Value} {inner : List Char} :
      Parted Writes true items inner → Writes (.list items) ('[' :: (inner ++ [']']))
  | object {members : List (String × Value)} {inner : List Char} :
      Parted (Keyed Writes) true members inner →
      Writes (.object members) ('\x7b' :: (inner ++ ['\x7d']))

/-- Written parts are the first one, and each of the others after a comma. -/
theorem separated_cons (part : List Char) (parts : List (List Char)) :
    separated (part :: parts) = part ++ parts.flatMap (',' :: ·) := by
  induction parts generalizing part with
  | nil => exact (List.append_nil part).symm
  | cons next parts ih => rw [separated, ih, List.flatMap_cons, List.cons_append]; simp

mutual

/-- The text without blanks is one of the texts of a value. -/
theorem writes_chars : (v : Value) → v.Writes v.chars
  | .null => .null
  | .bool true => .yes
  | .bool false => .no
  | .number _ => .number
  | .text _ => .text
  | .list [] => .list (.none gap_nil)
  | .list (item :: rest) => by
    have parted := Parted.first gap_nil (writes_chars item) (parted_itemChars rest)
    rw [chars, itemChars, separated_cons]
    exact .list parted
  | .object [] => .object (.none gap_nil)
  | .object ((key, value) :: rest) => by
    have member : Keyed Writes (key, value) (literal key ++ ':' :: value.chars) :=
      .mk gap_nil gap_nil (writes_chars value)
    have parted := Parted.first gap_nil member (parted_memberChars rest)
    rw [chars, memberChars, separated_cons]
    exact .object parted

theorem parted_itemChars : (items : List Value) →
    Parted Writes false items ((itemChars items).flatMap (',' :: ·))
  | [] => .none gap_nil
  | item :: rest => by
    have others := Parted.next gap_nil gap_nil (writes_chars item) (parted_itemChars rest)
    rw [itemChars, List.flatMap_cons]
    exact others

theorem parted_memberChars : (members : List (String × Value)) →
    Parted (Keyed Writes) false members ((memberChars members).flatMap (',' :: ·))
  | [] => .none gap_nil
  | (key, value) :: rest => by
    have member : Keyed Writes (key, value) (literal key ++ ':' :: value.chars) :=
      .mk gap_nil gap_nil (writes_chars value)
    have others := Parted.next gap_nil gap_nil member (parted_memberChars rest)
    rw [memberChars, List.flatMap_cons]
    exact others

end

end Value

end Bindery.Json
