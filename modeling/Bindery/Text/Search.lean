/-! # Finding and cutting pieces of a text

Literal pieces are looked for from the left; where a piece occurs more than once, the first
occurrence counts.
-/

namespace Bindery.Text

/-- What follows `piece` when the text begins with it. -/
def after? : (piece text : List Char) → Option (List Char)
  | [], text => some text
  | _ :: _, [] => none
  | p :: piece, c :: text => if p = c then after? piece text else none

/-- What precedes `piece` when the text ends with it. -/
def before? (piece text : List Char) : Option (List Char) :=
  (after? piece.reverse text.reverse).map List.reverse

theorem after?_eq_some_iff {piece text rest : List Char} :
    after? piece text = some rest ↔ text = piece ++ rest := by
  induction piece generalizing text with
  | nil => simp [after?, eq_comm]
  | cons p piece ih =>
    cases text with
    | nil => simp [after?]
    | cons c text =>
      by_cases same : p = c
      · subst same
        simp [after?, ih]
      · simp [after?, same, Ne.symm same]

theorem before?_eq_some_iff {piece text rest : List Char} :
    before? piece text = some rest ↔ text = rest ++ piece := by
  simp only [before?, Option.map_eq_some_iff, after?_eq_some_iff]
  constructor
  · rintro ⟨back, equal, rfl⟩
    simpa using congrArg List.reverse equal
  · rintro rfl
    exact ⟨rest.reverse, by simp, by simp⟩

/-- The text in front of the first occurrence of `piece`. -/
def upTo? (piece : List Char) : (text : List Char) → Option (List Char)
  | [] => if piece.isEmpty then some [] else none
  | c :: text =>
    if piece.isPrefixOf (c :: text) then some [] else (upTo? piece text).map (c :: ·)

/-- Whether `piece` occurs somewhere in the text. -/
def contains (text piece : List Char) : Bool := (upTo? piece text).isSome

/-- The pieces between the occurrences of a separator; always at least one. -/
def splitOn {α : Type} [DecidableEq α] (mark : α) : List α → List (List α)
  | [] => [[]]
  | c :: text =>
    if c = mark then [] :: splitOn mark text
    else
      match splitOn mark text with
      | [] => [[c]]
      | piece :: rest => (c :: piece) :: rest

/-- The lines of a text. A line ends at a line feed, before which one carriage return is dropped;
an unfinished last line counts when it is not empty, and keeps a carriage return at its end. -/
def lines : List Char → List (List Char)
  | [] => []
  | c :: text =>
    if c = '\n' then [] :: lines text
    else
      match text, lines text with
      | [], _ => [[c]]
      | d :: _, line :: rest =>
        if c = '\r' ∧ d = '\n' then line :: rest else (c :: line) :: rest
      | _ :: _, [] => [[c]]

/-- Texts joined with a separator between neighbours. -/
def joined (separator : String) (pieces : List String) : String :=
  separator.intercalate pieces

end Bindery.Text
