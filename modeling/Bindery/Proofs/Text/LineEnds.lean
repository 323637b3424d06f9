import Mathlib.Data.List.Basic
import Bindery.Text.Blank

/-! # Ends of lines

A line feed ends a line, and for some readers other blanks do too, but never a space. Main
statement: whatever else ends a line, a text that is written line by line, with a line feed behind
each, has the lines that were written if none of these has an end of a line in it (`ended_flatMap`).
-/

namespace Bindery.Text

/-- The characters that end a line for a reader. -/
structure LineEnds where
  isEnd : Char → Bool
  feed : isEnd '\n' = true
  blank : ∀ c, isEnd c = true → isBlank c = true
  space : isEnd ' ' = false

namespace LineEnds

/-- Lines end with a line feed and nothing else. -/
def lineFeed : LineEnds where
  isEnd c := c == '\n'
  feed := rfl
  blank c same := by rw [eq_of_beq same]; rfl
  space := rfl

/-- All characters that end a line in the target language. -/
def targetEnds : List Char := ['\n', '\r', '\u0085', '\u2028', '\u2029']

/-- Lines end as they do in the target language. -/
def ofTarget : LineEnds where
  isEnd c := targetEnds.contains c
  feed := by decide
  blank c member := by
    have known : targetEnds.all isBlank = true := by decide
    exact List.all_eq_true.mp known c (List.contains_iff_mem.mp member)
  space := by decide

/-- Whether a character is a space or no blank at all. Such characters end a line for no reader. -/
def isSolid (c : Char) : Bool := c == ' ' || !isBlank c

variable (ends : LineEnds)

/-- A text consists of lines, each of them ended. -/
def Ended (text : List Char) (lines : List (List Char)) : Prop :=
  text.splitOnP ends.isEnd = lines ++ [[]]

variable {ends} {text : List Char} {lines : List (List Char)}

theorem isEnd_of_isSolid {c : Char} (solid : isSolid c = true) : ends.isEnd c = false := by
  rw [isSolid, Bool.or_eq_true, beq_iff_eq, Bool.not_eq_true'] at solid
  rcases solid with rfl | solid
  · exact ends.space
  · rw [← Bool.not_eq_true]
    intro ended
    rw [ends.blank c ended] at solid
    contradiction

theorem isEnd_of_all_isSolid (solid : text.all isSolid = true) :
    ∀ c ∈ text, ends.isEnd c = false :=
  fun c inside => isEnd_of_isSolid (List.all_eq_true.mp solid c inside)

/-- A text that is written line by line consists of these lines. -/
theorem ended_flatMap (unbroken : ∀ line ∈ lines, ∀ c ∈ line, ends.isEnd c = false) :
    ends.Ended (lines.flatMap (· ++ ['\n'])) lines := by
  induction lines with
  | nil => rfl
  | cons line rest ih =>
    obtain ⟨here, later⟩ := List.forall_mem_cons.mp unbroken
    have below : (rest.flatMap (· ++ ['\n'])).splitOnP ends.isEnd = rest ++ [[]] := ih later
    rw [Ended, List.flatMap_cons, List.append_assoc, List.singleton_append,
      List.splitOnP_append_cons_of_forall_mem here '\n' ends.feed, below, List.cons_append]

/-- No piece between the ends of lines has one in it. -/
theorem isEnd_of_mem_splitOnP {isEnd : Char → Bool} {piece : List Char}
    (member : piece ∈ text.splitOnP isEnd) : ∀ c ∈ piece, isEnd c = false := by
  induction text generalizing piece with
  | nil => simp_all
  | cons c text ih =>
    obtain ⟨first, rest, pieces⟩ := List.exists_cons_of_ne_nil (List.splitOnP_ne_nil isEnd text)
    rw [List.splitOnP_cons_eq_if_modifyHead, pieces, List.modifyHead_cons] at member
    rw [pieces] at ih
    split at member
    · rcases List.mem_cons.mp member with rfl | later
      · exact nofun
      · exact ih later
    · next kept =>
      rcases List.mem_cons.mp member with rfl | later
      · exact List.forall_mem_cons.mpr ⟨Bool.eq_false_iff.mpr kept, ih List.mem_cons_self⟩
      · exact ih (List.mem_cons_of_mem _ later)

theorem Ended.isEnd_eq_false (ended : ends.Ended text lines) {line : List Char}
    (member : line ∈ lines) : ∀ c ∈ line, ends.isEnd c = false :=
  isEnd_of_mem_splitOnP (ended ▸ List.mem_append_left _ member)

end LineEnds

end Bindery.Text
