import Bindery.Proofs.Text.Trimming
import Bindery.Text.Search

/-! # Texts of lines

A text is written line by line, each line with one of two line ends, and the last one perhaps with
none. Main statement: without the blanks at their ends, the lines of such a text are those that were
written (`map_trim_lines`).
-/

namespace Bindery.Text

/-- The two ways to end a line. -/
def lineEnds : List (List Char) := [['\n'], ['\r', '\n']]

/-- The texts that lines can be written as. -/
inductive Renders : (lines : List (List Char)) → (text : List Char) → Prop
  | nil : Renders [] []
  | unfinished {line : List Char} : line ≠ [] → '\n' ∉ line → Renders [line] line
  | cons {line ending text : List Char} {lines : List (List Char)} : '\n' ∉ line →
      ending ∈ lineEnds → Renders lines text → Renders (line :: lines) (line ++ ending ++ text)

variable {line text : List Char} {written : List (List Char)}

theorem lines_cons_feed (text : List Char) : lines ('\n' :: text) = [] :: lines text := by
  rw [lines.eq_def]
  exact if_pos rfl

theorem lines_cons_cons {c d : Char} {rest kept : List Char} {below : List (List Char)}
    (differs : c ≠ '\n') (read : lines (d :: rest) = kept :: below) : lines (c :: d :: rest) =
      if c = '\r' ∧ d = '\n' then kept :: below else (c :: kept) :: below := by
  rw [lines.eq_def]
  simp only [if_neg differs, read]

/-- A line ends at its line feed, and perhaps one character before it. -/
theorem exists_lines_append_feed (unbroken : '\n' ∉ line) (text : List Char) :
    ∃ kept cut, lines (line ++ '\n' :: text) = kept :: lines text ∧ line = kept ++ cut ∧
      isAllBlank cut = true := by
  induction line with
  | nil => exact ⟨[], [], lines_cons_feed text, rfl, rfl⟩
  | cons c line ih =>
    obtain ⟨differs, later⟩ := List.ne_and_not_mem_of_not_mem_cons unbroken
    obtain ⟨kept, cut, read, rfl, blank⟩ := ih later
    obtain ⟨d, rest, same⟩ := List.exists_cons_of_ne_nil
      (List.append_ne_nil_of_right_ne_nil (kept ++ cut) (List.cons_ne_nil '\n' text))
    rw [same] at read
    rw [List.cons_append, same, lines_cons_cons (Ne.symm differs) read]
    split
    · next returns =>
      -- The carriage return stands right before the line feed, so the line is no longer than it.
      obtain ⟨rfl, rfl⟩ := returns
      cases both : kept ++ cut with
      | nil =>
        obtain ⟨rfl, rfl⟩ := List.append_eq_nil_iff.mp both
        exact ⟨[], ['\r'], rfl, rfl, by decide⟩
      | cons first others =>
        rw [both, List.cons_append] at same
        rw [both, (List.cons.inj same).1] at later
        exact absurd List.mem_cons_self later
    · exact ⟨c :: kept, cut, rfl, rfl, blank⟩

theorem lines_of_unbroken (filled : line ≠ []) (unbroken : '\n' ∉ line) : lines line = [line] := by
  induction line with
  | nil => contradiction
  | cons c line ih =>
    obtain ⟨differs, later⟩ := List.ne_and_not_mem_of_not_mem_cons unbroken
    cases line with
    | nil => rw [lines.eq_2, if_neg (Ne.symm differs)]
    | cons d line =>
      have other : ¬(c = '\r' ∧ d = '\n') := fun both =>
        later (both.2 ▸ List.mem_cons_self)
      rw [lines_cons_cons (Ne.symm differs) (ih (List.cons_ne_nil d line) later), if_neg other]

/-- Without the blanks at their ends, the lines of a text are those that it was written from. -/
theorem map_trim_lines (renders : Renders written text) :
    (lines text).map trim = written.map trim := by
  induction renders with
  | nil => rfl
  | unfinished filled unbroken => rw [lines_of_unbroken filled unbroken]
  | @cons line ending text rest unbroken ends _ ih =>
    obtain rfl | rfl : ending = ['\n'] ∨ ending = ['\r', '\n'] := by simpa [lineEnds] using ends
    · obtain ⟨kept, cut, read, rfl, blank⟩ := exists_lines_append_feed unbroken text
      rw [List.append_assoc, List.singleton_append, read, List.map_cons, List.map_cons, ih,
        trim_append_of_isAllBlank blank]
    · have before : '\n' ∉ line ++ ['\r'] := by simpa using unbroken
      obtain ⟨kept, cut, read, same, blank⟩ := exists_lines_append_feed before text
      have whole : line ++ ['\r', '\n'] ++ text = line ++ ['\r'] ++ '\n' :: text := by simp
      have returned : isAllBlank ['\r'] = true := by decide
      rw [whole, read, List.map_cons, List.map_cons, ih,
        ← trim_append_of_isAllBlank returned line, same, trim_append_of_isAllBlank blank]

/-- Lines may all have the same line end. -/
theorem renders_flatMap {ending : List Char} (ends : ending ∈ lineEnds)
    (unbroken : ∀ line ∈ written, '\n' ∉ line) :
    Renders written (written.flatMap (· ++ ending)) := by
  induction written with
  | nil => exact .nil
  | cons line written ih =>
    obtain ⟨first, later⟩ := List.forall_mem_cons.mp unbroken
    exact .cons first ends (ih later)

end Bindery.Text
