import Bindery.Text.Search

/-! # Splitting at a separator

The pieces of a text that is put together of two with a separator between them are those of the two
texts (`splitOn_append_cons`). So joined pieces come apart again (`splitOn_intercalate`).
-/

namespace Bindery.Text

variable {α : Type} [DecidableEq α]

theorem splitOn_ne_nil (mark : α) (text : List α) : splitOn mark text ≠ [] := by
  cases text with
  | nil => simp [splitOn]
  | cons c text =>
    unfold splitOn
    split
    · simp
    · split <;> simp

/-- A separator cuts a text in two. -/
theorem splitOn_append_cons (mark : α) (first second : List α) :
    splitOn mark (first ++ mark :: second) = splitOn mark first ++ splitOn mark second := by
  induction first with
  | nil => simp [splitOn]
  | cons c first ih =>
    rw [List.cons_append, splitOn, splitOn, ih]
    split
    · rfl
    · cases pieces : splitOn mark first with
      | nil => exact absurd pieces (splitOn_ne_nil mark first)
      | cons piece rest => rfl

theorem splitOn_of_not_mem {mark : α} {text : List α} (free : mark ∉ text) :
    splitOn mark text = [text] := by
  induction text with
  | nil => rfl
  | cons c text ih =>
    obtain ⟨differs, later⟩ := List.ne_and_not_mem_of_not_mem_cons free
    rw [splitOn, if_neg differs.symm, ih later]

/-- The separator is in none of the pieces. -/
theorem not_mem_of_mem_splitOn {mark : α} {text piece : List α}
    (member : piece ∈ splitOn mark text) : mark ∉ piece := by
  induction text generalizing piece with
  | nil =>
    rw [splitOn, List.mem_singleton] at member
    rw [member]
    exact List.not_mem_nil
  | cons c text ih =>
    by_cases cut : c = mark
    · rw [splitOn, if_pos cut] at member
      rcases List.mem_cons.mp member with rfl | later
      · exact List.not_mem_nil
      · exact ih later
    cases pieces : splitOn mark text with
    | nil => exact absurd pieces (splitOn_ne_nil mark text)
    | cons first rest =>
      simp only [splitOn, if_neg cut, pieces] at member
      rw [pieces] at ih
      rcases List.mem_cons.mp member with rfl | later
      · exact List.not_mem_cons_of_ne_of_not_mem (Ne.symm cut) (ih List.mem_cons_self)
      · exact ih (List.mem_cons_of_mem _ later)

/-- Nothing but separators is left out of the pieces. -/
theorem mem_splitOn {mark c : α} {text : List α} (member : c ∈ text) (solid : c ≠ mark) :
    ∃ piece ∈ splitOn mark text, c ∈ piece := by
  induction text with
  | nil => cases member
  | cons d text ih =>
    rw [splitOn]
    split
    · next cut =>
      have later := (List.mem_cons.mp member).resolve_left fun same => solid (same.trans cut)
      obtain ⟨piece, inside, here⟩ := ih later
      exact ⟨piece, List.mem_cons_of_mem _ inside, here⟩
    · cases pieces : splitOn mark text with
      | nil => exact absurd pieces (splitOn_ne_nil mark text)
      | cons first rest =>
        rcases List.mem_cons.mp member with rfl | later
        · exact ⟨_, List.mem_cons_self, List.mem_cons_self⟩
        · obtain ⟨piece, inside, here⟩ := ih later
          rw [pieces] at inside
          rcases List.mem_cons.mp inside with rfl | behind
          · exact ⟨_, List.mem_cons_self, List.mem_cons_of_mem _ here⟩
          · exact ⟨piece, List.mem_cons_of_mem _ behind, here⟩

/-- What is in a piece is in the text. -/
theorem mem_of_mem_splitOn {mark c : α} {text piece : List α} (inside : piece ∈ splitOn mark text)
    (member : c ∈ piece) : c ∈ text := by
  induction text generalizing piece with
  | nil =>
    rw [splitOn, List.mem_singleton] at inside
    rwa [inside] at member
  | cons d text ih =>
    rw [splitOn] at inside
    split at inside
    · rcases List.mem_cons.mp inside with rfl | later
      · cases member
      · exact List.mem_cons_of_mem _ (ih later member)
    · cases pieces : splitOn mark text with
      | nil => exact absurd pieces (splitOn_ne_nil mark text)
      | cons first rest =>
        rw [pieces] at inside ih
        rcases List.mem_cons.mp inside with rfl | later
        · rcases List.mem_cons.mp member with rfl | behind
          · exact List.mem_cons_self
          · exact List.mem_cons_of_mem _ (ih List.mem_cons_self behind)
        · exact List.mem_cons_of_mem _ (ih (List.mem_cons_of_mem _ later) member)

/-- Pieces without the separator come apart again when they were joined with it. -/
theorem splitOn_intercalate {mark : α} {piece : List α} {pieces : List (List α)}
    (free : ∀ other ∈ piece :: pieces, mark ∉ other) :
    splitOn mark ([mark].intercalate (piece :: pieces)) = piece :: pieces := by
  induction pieces generalizing piece with
  | nil => rw [List.intercalate_singleton, splitOn_of_not_mem (free piece List.mem_cons_self)]
  | cons next pieces ih =>
    obtain ⟨here, later⟩ := List.forall_mem_cons.mp free
    rw [List.intercalate_cons_cons, List.append_assoc, List.singleton_append, splitOn_append_cons,
      splitOn_of_not_mem here, ih later, List.singleton_append]

end Bindery.Text
