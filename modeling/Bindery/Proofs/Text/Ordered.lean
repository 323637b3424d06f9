import Bindery.Text.Sorted

/-! # Lists in order

Putting strings in order with each of them once keeps the strings (`mem_sortedOnce`), makes the list
strictly increasing (`pairwise_sortedOnce`), leaves a strictly increasing list as it is
(`sortedOnce_eq_self`), and depends on nothing but which strings there are (`sortedOnce_congr`).
-/

namespace Bindery.Text

variable {items : List String} {item : String}

theorem mem_dropRepeats : item ∈ dropRepeats items ↔ item ∈ items := by
  induction items using dropRepeats.induct with
  | case1 => rfl
  | case2 only => rfl
  | case3 next rest ih => simp [dropRepeats, ih]
  | case4 first next rest differs ih =>
    rw [dropRepeats, if_neg differs, List.mem_cons, ih]
    exact List.mem_cons.symm

/-- Where repeats are neighbours, only one of each is left. -/
theorem pairwise_dropRepeats (ordered : items.Pairwise (· ≤ ·)) :
    (dropRepeats items).Pairwise (· < ·) := by
  induction items using dropRepeats.induct with
  | case1 => exact .nil
  | case2 only => exact List.pairwise_singleton _ _
  | case3 next rest ih =>
    rw [dropRepeats, if_pos rfl]
    exact ih ordered.of_cons
  | case4 first next rest differs ih =>
    rw [dropRepeats, if_neg differs, List.pairwise_cons]
    refine ⟨fun other member => ?_, ih ordered.of_cons⟩
    obtain ⟨least, later⟩ := List.pairwise_cons.mp ordered
    have below : first < next :=
      Std.lt_of_le_of_ne (least next List.mem_cons_self) differs
    rcases List.mem_cons.mp (mem_dropRepeats.mp member) with rfl | behind
    · exact below
    · exact Std.lt_of_lt_of_le below ((List.pairwise_cons.mp later).1 other behind)

theorem dropRepeats_eq_self (increasing : items.Pairwise (· < ·)) : dropRepeats items = items := by
  induction items using dropRepeats.induct with
  | case1 => rfl
  | case2 only => rfl
  | case3 next rest ih =>
    have below := (List.pairwise_cons.mp increasing).1 next List.mem_cons_self
    exact absurd below (String.lt_irrefl next)
  | case4 first next rest differs ih => rw [dropRepeats, if_neg differs, ih increasing.of_cons]

theorem mem_sortedOnce : item ∈ sortedOnce items ↔ item ∈ items := by
  rw [sortedOnce, mem_dropRepeats, (List.mergeSort_perm _ _).mem_iff]

/-- The strings are in order, each of them once. -/
theorem pairwise_sortedOnce (items : List String) : (sortedOnce items).Pairwise (· < ·) := by
  have transitive (a b c : String) (first : decide (a ≤ b) = true)
      (second : decide (b ≤ c) = true) : decide (a ≤ c) = true :=
    decide_eq_true (String.le_trans (of_decide_eq_true first) (of_decide_eq_true second))
  have total (a b : String) : (decide (a ≤ b) || decide (b ≤ a)) = true := by
    simpa using String.le_total a b
  have sorted := List.pairwise_mergeSort transitive total items
  exact pairwise_dropRepeats (sorted.imp of_decide_eq_true)

theorem sortedOnce_eq_self (increasing : items.Pairwise (· < ·)) : sortedOnce items = items := by
  have ordered : items.Pairwise fun a b => decide (a ≤ b) = true :=
    increasing.imp fun below => decide_eq_true (Std.le_of_lt below)
  rw [sortedOnce, List.mergeSort_of_pairwise ordered, dropRepeats_eq_self increasing]

theorem sortedOnce_congr {others : List String} (same : ∀ item, item ∈ items ↔ item ∈ others) :
    sortedOnce items = sortedOnce others := by
  have distinct {strings : List String} (increasing : strings.Pairwise (· < ·)) :
      strings.Nodup := increasing.imp fun below => Std.ne_of_lt below
  have perm : (sortedOnce items).Perm (sortedOnce others) := by
    refine (List.perm_ext_iff_of_nodup (distinct (pairwise_sortedOnce items))
      (distinct (pairwise_sortedOnce others))).mpr fun item => ?_
    rw [mem_sortedOnce, mem_sortedOnce, same]
  refine perm.eq_of_pairwise ?_ (pairwise_sortedOnce items) (pairwise_sortedOnce others)
  intro a b _ _ below above
  exact absurd (String.lt_trans below above) (String.lt_irrefl a)

end Bindery.Text
