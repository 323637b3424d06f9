import Mathlib.Data.List.Infix
import Bindery.Proofs.Text.Trimming
import Bindery.Text.Search

/-! # Finding pieces in a text

A piece occurs in a text when the text has it in one run (`contains_iff_occurs`), and the text in
front of it is that in front of its first occurrence (`upTo?_eq_some_iff`). A piece that neither
begins nor ends with a blank is found in a trimmed text where it was in the text before
(`contains_trim`).
-/

namespace Bindery.Text

variable {piece text : List Char}

theorem upTo?_isSome_iff : (upTo? piece text).isSome ↔ piece <:+: text := by
  induction text with
  | nil =>
    rw [upTo?, List.infix_nil, ← List.isEmpty_iff]
    split
    · next empty => simp [empty]
    · next filled => simp [filled]
  | cons c text ih =>
    rw [upTo?, List.infix_cons_iff, ← List.isPrefixOf_iff_prefix, ← ih]
    split
    · next here => simp [here]
    · next elsewhere => simp [elsewhere]

theorem contains_iff_occurs : contains text piece = true ↔ piece <:+: text := upTo?_isSome_iff

/-- What stands before the first occurrence of a piece in a text, and behind it. -/
structure FirstAt (piece text before behind : List Char) : Prop where
  split : text = before ++ (piece ++ behind)
  first : ∀ front back, text = front ++ (piece ++ back) → before.length ≤ front.length

theorem upTo?_eq_some_iff {before : List Char} :
    upTo? piece text = some before ↔ ∃ behind, FirstAt piece text before behind := by
  induction text generalizing before with
  | nil =>
    rw [upTo?]
    constructor
    · intro found
      split at found
      · next empty =>
        obtain rfl := Option.some.inj found
        exact ⟨[], by rw [List.isEmpty_iff.mp empty]; rfl, fun _ _ _ => Nat.zero_le _⟩
      · contradiction
    · rintro ⟨behind, split, _⟩
      obtain ⟨rfl, rest⟩ := List.append_eq_nil_iff.mp split.symm
      rw [(List.append_eq_nil_iff.mp rest).1]
      rfl
  | cons c text ih =>
    rw [upTo?]
    split
    · next here =>
      obtain ⟨behind, same⟩ := List.isPrefixOf_iff_prefix.mp here
      constructor
      · intro found
        obtain rfl := Option.some.inj found
        exact ⟨behind, same.symm, fun _ _ _ => Nat.zero_le _⟩
      · rintro ⟨_, _, first⟩
        rw [List.length_eq_zero_iff.mp (Nat.le_zero.mp (first [] behind same.symm))]
    · next elsewhere =>
      -- No occurrence begins here, so that all of them are in the rest, one character further on.
      have later : ∀ back, c :: text ≠ piece ++ back := fun back same =>
        elsewhere (List.isPrefixOf_iff_prefix.mpr ⟨back, same.symm⟩)
      rw [Option.map_eq_some_iff]
      constructor
      · rintro ⟨before, found, rfl⟩
        obtain ⟨behind, split, first⟩ := ih.mp found
        refine ⟨behind, by rw [split]; rfl, fun front back same => ?_⟩
        cases front with
        | nil => exact absurd same (later back)
        | cons d front => exact Nat.succ_le_succ (first front back (List.cons.inj same).2)
      · rintro ⟨behind, split, first⟩
        cases before with
        | nil => exact absurd split (later behind)
        | cons d before =>
          obtain ⟨rfl, rest⟩ := List.cons.inj split
          refine ⟨before, ih.mpr ⟨behind, rest, fun front back same => ?_⟩, rfl⟩
          exact Nat.le_of_succ_le_succ (first (c :: front) back (congrArg (c :: ·) same))

/-- A piece that a text begins with ends before a character that it does not have. -/
theorem prefix_of_prefix_append_cons {c : Char} {front back : List Char} (absent : c ∉ piece)
    (begins : piece <+: front ++ c :: back) : piece <+: front := by
  rcases List.prefix_or_prefix_of_prefix begins (List.prefix_append ..) with short | long
  · exact short
  · obtain ⟨rest, rfl⟩ := long
    rcases List.prefix_cons_iff.mp ((List.prefix_append_right_inj front).mp begins) with
      rfl | ⟨more, rfl, _⟩
    · rw [List.append_nil]
    · exact absurd (by simp) absent

/-- A piece is on one side of a character that it can only begin with. -/
theorem infix_or_infix_of_append_cons {p c : Char} {front back : List Char} (absent : c ∉ piece)
    (inside : p :: piece <:+: front ++ c :: back) :
    p :: piece <:+: front ∨ p :: piece <:+: c :: back := by
  induction front with
  | nil => exact .inr inside
  | cons d front ih =>
    rw [List.cons_append, List.infix_cons_iff] at inside
    rcases inside with begins | later
    · obtain ⟨rfl, tail⟩ := List.cons_prefix_cons.mp begins
      have short := prefix_of_prefix_append_cons absent tail
      exact .inl (List.cons_prefix_cons.mpr ⟨rfl, short⟩).isInfix
    · exact (ih later).imp_left fun found => found.trans (List.suffix_cons d front).isInfix

/-- Blanks in front of a text are no part of a piece that does not begin with one. -/
theorem infix_trimStart_iff (begins : ∃ c ∈ piece.head?, isBlank c = false) :
    piece <:+: trimStart text ↔ piece <:+: text := by
  obtain ⟨first, head, solid⟩ := begins
  induction text with
  | nil => rfl
  | cons c text ih =>
    by_cases blank : isBlank c = true
    · have elsewhere : ¬piece <+: c :: text := by
        rintro ⟨rest, same⟩
        cases piece with
        | nil => contradiction
        | cons d piece =>
          obtain rfl : d = first := Option.some.inj head
          obtain rfl : d = c := (List.cons.inj same).1
          rw [blank] at solid
          contradiction
      rw [trimStart, List.dropWhile_cons_of_pos blank, ← trimStart, ih, List.infix_cons_iff]
      exact (or_iff_right elsewhere).symm
    · rw [trimStart, List.dropWhile_cons_of_neg blank]

theorem infix_trim_iff (begins : ∃ c ∈ piece.head?, isBlank c = false)
    (ends : ∃ c ∈ piece.getLast?, isBlank c = false) : piece <:+: trim text ↔ piece <:+: text := by
  have backwards : ∃ c ∈ piece.reverse.head?, isBlank c = false := by rwa [List.head?_reverse]
  calc
    piece <:+: trim text ↔ piece.reverse <:+: trimStart (trimStart text).reverse := by
      rw [trim, trimEnd, ← List.reverse_infix, List.reverse_reverse]
      rfl
    _ ↔ piece.reverse <:+: (trimStart text).reverse := infix_trimStart_iff backwards
    _ ↔ piece <:+: trimStart text := List.reverse_infix
    _ ↔ piece <:+: text := infix_trimStart_iff begins

theorem contains_trim (begins : ∃ c ∈ piece.head?, isBlank c = false)
    (ends : ∃ c ∈ piece.getLast?, isBlank c = false) :
    contains (trim text) piece = contains text piece := by
  rw [Bool.eq_iff_iff, contains_iff_occurs, contains_iff_occurs, infix_trim_iff begins ends]

end Bindery.Text
