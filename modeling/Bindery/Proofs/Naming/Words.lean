import Mathlib
import Bindery.Text.AbiCase

/-! # Words of a name

The lower-case form of a name has all of its characters, and the only ones that it has besides are
underscores, one at the start of each word. Where a word starts is read off the name alone: at an
upper-case letter behind a lower-case one that is not the first character. Main statement: the
lower-case form is written place by place, and it is its own lower-case form (`abiCase_eq_words`).
-/

namespace Bindery

namespace Text

variable {name : List Char}

theorem isUpperLetter_eq (c : Char) : isUpperLetter c = c.isUpper :=
  (Bool.decide_and _ _).symm

theorem isLowerLetter_eq (c : Char) : isLowerLetter c = c.isLower := by
  rw [Bool.eq_iff_iff]
  simp [isLowerLetter, Char.isLower, UInt32.le_iff_toNat_le]

/-- Whether a lower-case letter that is not the first character stands in front of a place. -/
def followsLower (name : List Char) : (place : Nat) → Bool
  | place + 2 => (name[place + 1]?).any Char.isLower
  | _ => false

/-- What is written for a character that starts a word or does not. -/
def wordPiece (startsWord : Bool) (c : Char) : List Char :=
  if startsWord then ['_', c.toLower] else [c.toLower]

/-- What follows on a character is written place by place. At its first place it counts what that
character was, and at all others the character before. -/
theorem abiTail_eq (afterLower : Bool) (rest : List Char) : abiTail afterLower rest =
    (rest.mapIdx fun place c => wordPiece
      ((if place = 0 then afterLower else (rest[place - 1]?).any Char.isLower) && c.isUpper)
      c).flatten := by
  induction rest generalizing afterLower with
  | nil => rfl
  | cons c rest ih =>
    have before (place : Nat) : ((c :: rest)[place]?).any Char.isLower =
        if place = 0 then isLowerLetter c else (rest[place - 1]?).any Char.isLower := by
      cases place with
      | zero => exact (isLowerLetter_eq c).symm
      | succ place => rfl
    have here : abiTail afterLower (c :: rest) =
        wordPiece (afterLower && c.isUpper) c ++ abiTail (isLowerLetter c) rest := by
      rw [abiTail, wordPiece, isUpperLetter_eq]
      split <;> rfl
    rw [here, ih, List.mapIdx_cons, List.flatten_cons]
    simp only [if_true, Nat.succ_ne_zero, if_false, Nat.add_sub_cancel, before]

/-- A name is written place by place. -/
theorem abiCase_eq (name : List Char) : abiCase name =
    (name.mapIdx fun place c => wordPiece (followsLower name place && c.isUpper) c).flatten := by
  cases name with
  | nil => rfl
  | cons c rest =>
    have before (place : Nat) : followsLower (c :: rest) (place + 1) =
        if place = 0 then false else (rest[place - 1]?).any Char.isLower := by
      cases place <;> rfl
    rw [abiCase, abiTail_eq, List.mapIdx_cons, List.flatten_cons]
    simp only [before]
    rfl

/-- What is written is an underscore, or a character of the name in lower case. -/
theorem mem_abiCase {c : Char} (member : c ∈ abiCase name) :
    c = '_' ∨ ∃ d ∈ name, c = d.toLower := by
  rw [abiCase_eq, List.mem_flatten] at member
  obtain ⟨written, inside, here⟩ := member
  obtain ⟨place, bound, rfl⟩ := List.mem_mapIdx.mp inside
  have shown : c = '_' ∨ c = (name[place]).toLower := by
    unfold wordPiece at here
    split at here
    · simpa using here
    · exact .inr (List.mem_singleton.mp here)
  exact shown.imp_right fun lower => ⟨_, List.getElem_mem _, lower⟩

/-- No upper-case letter is left. -/
theorem not_isUpper_of_mem_abiCase {c : Char} (member : c ∈ abiCase name) :
    c.isUpper = false := by
  rcases mem_abiCase member with rfl | ⟨d, _, rfl⟩
  · rfl
  · exact Char.isUpper_toLower_eq_false _

/-- Only letters are changed, and into letters. -/
theorem toLower_eq_or_isLower (c : Char) : c.toLower = c ∨ c.toLower.isLower = true := by
  cases upper : c.isUpper with
  | true => exact .inr (by simp [Char.isAlpha, upper])
  | false => exact .inl (Char.toLower_eq_of_not_isUpper (by simp [upper]))

/-- A name without upper-case letters has no start of a word in it, and all its letters stay. -/
theorem abiCase_of_not_isUpper (lower : ∀ c ∈ name, c.isUpper = false) :
    abiCase name = name := by
  have alone : name.mapIdx (fun place c => wordPiece (followsLower name place && c.isUpper) c) =
      name.map fun c => [c] := by
    refine List.ext_getElem (by simp) fun place _ bound => ?_
    rw [List.length_map] at bound
    have kept : (name[place]).isUpper = false := lower _ (List.getElem_mem bound)
    rw [List.getElem_mapIdx, List.getElem_map, kept, Bool.and_false, wordPiece,
      if_neg Bool.false_ne_true, Char.toLower_eq_of_not_isUpper (by simp [kept])]
  rw [abiCase_eq, alone, ← List.flatMap_def, List.flatMap_singleton']

end Text

/-- The lower-case form of a name has each of its characters in lower case and in order: an
upper-case letter that follows a lower-case one behind an underscore, unless that one is the first
character, and all others with nothing in front of them. It is its own lower-case form. -/
theorem abiCase_eq_words (name : String) :
    (abiCase name).toList = (name.toList.mapIdx fun place c =>
        if Text.followsLower name.toList place && c.isUpper then ['_', c.toLower]
        else [c.toLower]).flatten ∧
      abiCase (abiCase name) = abiCase name := by
  have characters : (abiCase name).toList = Text.abiCase name.toList := by
    rw [abiCase, String.toList_ofList]
  have lower : ∀ c ∈ (abiCase name).toList, c.isUpper = false := by
    rw [characters]
    exact fun c => Text.not_isUpper_of_mem_abiCase
  refine ⟨characters.trans (Text.abiCase_eq name.toList), ?_⟩
  calc
    abiCase (abiCase name) = String.ofList (Text.abiCase (abiCase name).toList) := rfl
    _ = String.ofList (abiCase name).toList := by rw [Text.abiCase_of_not_isUpper lower]
    _ = abiCase name := String.ofList_toList

-- The first character counts as upper case, so the second one starts no word.
example : (abiCase "getURLOf", abiCase "aBc", abiCase "CreateV8Value") =
    ("get_urlof", "abc", "create_v8value") := by decide

end Bindery
