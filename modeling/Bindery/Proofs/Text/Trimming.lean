import Mathlib.Data.List.TakeWhile
import Bindery.Text.Blank

/-! # Trimming what is known to be blank

A run of blanks in front of a text is trimmed away, and a text that begins with another character
is left alone. Main statement: a text that neither begins nor ends with a blank is what trimming
finds between two runs of blanks (`trim_between`).
-/

namespace Bindery.Text

variable {gap s : List Char}

theorem trimStart_append_of_isAllBlank (blank : isAllBlank gap = true) (s : List Char) :
    trimStart (gap ++ s) = trimStart s :=
  List.dropWhile_append_of_pos (List.all_eq_true.mp blank)

/-- A run of blanks in front of a text is trimmed away. -/
theorem trim_isAllBlank_append (blank : isAllBlank gap = true) (s : List Char) :
    trim (gap ++ s) = trim s := by
  rw [trim, trim, trimStart_append_of_isAllBlank blank]

/-- Trimming takes off each end what trimming the left end takes off the text and its reverse. -/
theorem reverse_trim (s : List Char) : (trim s).reverse = trimStart (trimStart s).reverse :=
  List.reverse_reverse _

/-- A text that ends with another character than a blank is trimmed at its left end only. -/
theorem trim_concat {c : Char} (solid : isBlank c = false) (s : List Char) :
    trim (s ++ [c]) = trimStart s ++ [c] := by
  have kept : ∀ t, trimStart (c :: t) = c :: t := fun t =>
    List.dropWhile_cons_of_neg (by simp [solid])
  have left : trimStart (s ++ [c]) = trimStart s ++ [c] := by
    rw [trimStart, List.dropWhile_append]
    split
    · next gone => rw [← trimStart, kept, trimStart, List.isEmpty_iff.mp gone, List.nil_append]
    · rfl
  rw [← List.reverse_inj, reverse_trim, left, List.reverse_concat, kept]

/-- A text that does not begin with a blank is left alone. -/
theorem trimStart_eq_self (solid : ∀ c ∈ s.head?, isBlank c = false) : trimStart s = s := by
  cases s with
  | nil => rfl
  | cons c rest =>
    have first : isBlank c = false := solid c rfl
    exact List.dropWhile_cons_of_neg (by simp [first])

/-- A run of blanks behind a text is trimmed away. -/
theorem trim_append_of_isAllBlank (blank : isAllBlank gap = true) (s : List Char) :
    trim (s ++ gap) = trim s := by
  have all := List.all_eq_true.mp blank
  have backwards : ∀ c ∈ gap.reverse, isBlank c = true := fun c member =>
    all c (List.mem_reverse.mp member)
  rw [trim, trim, trimStart, List.dropWhile_append]
  split
  · next gone =>
    rw [List.dropWhile_eq_nil_iff.mpr all, trimStart, List.isEmpty_iff.mp gone]
  · rw [trimEnd, List.reverse_append, List.dropWhile_append_of_pos backwards]
    rfl

theorem isAllBlank_reverse (gap : List Char) : isAllBlank gap.reverse = isAllBlank gap :=
  List.all_reverse

/-- Trimming leaves something of a text that is not all blank. -/
theorem trim_ne_nil {c : Char} (inside : c ∈ s) (solid : isBlank c = false) : trim s ≠ [] := by
  intro gone
  have kept : ∀ d ∈ trimStart s, isBlank d = true := by
    rw [trim, trimEnd, List.reverse_eq_nil_iff, List.dropWhile_eq_nil_iff] at gone
    intro d member
    exact gone d (List.mem_reverse.mpr member)
  have blank : isBlank c = true := by
    rw [← List.takeWhile_append_dropWhile (p := isBlank) (l := s), List.mem_append] at inside
    rcases inside with cut | left
    · exact List.mem_takeWhile_imp cut
    · exact kept c left
  rw [solid] at blank
  contradiction

/-- A text that neither begins nor ends with a blank, between two runs of blanks. -/
theorem trim_between {lead trail : List Char} (nonempty : s ≠ [])
    (begins : ∀ c ∈ s.head?, isBlank c = false) (ends : ∀ c ∈ s.getLast?, isBlank c = false)
    (before : isAllBlank lead = true) (behind : isAllBlank trail = true) :
    trim (lead ++ s ++ trail) = s := by
  have left : trimStart (lead ++ s ++ trail) = s ++ trail := by
    rw [List.append_assoc, trimStart_append_of_isAllBlank before]
    apply trimStart_eq_self
    cases s with
    | nil => contradiction
    | cons c rest => exact begins
  have right : trimStart (s ++ trail).reverse = s.reverse := by
    rw [List.reverse_append,
      trimStart_append_of_isAllBlank ((isAllBlank_reverse trail).trans behind)]
    apply trimStart_eq_self
    rwa [List.head?_reverse]
  rw [trim, left]
  exact (congrArg List.reverse right).trans (List.reverse_reverse s)

end Bindery.Text
