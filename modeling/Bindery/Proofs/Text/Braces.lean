import Mathlib.Data.List.Infix
import Bindery.Proofs.Text.Without

/-! # Balanced texts

A text is balanced when it closes all the braces that it opens, and none before it is open. Main
statements: balanced texts one after the other are balanced (`Balanced.append`), and so is one in
braces (`Balanced.braced`); and only the braces of a text count (`Balanced.of_braces`).
-/

namespace Bindery.Text

/-- Whether a character is a brace. -/
def isBrace (c : Char) : Bool := c == '\x7b' || c == '\x7d'

/-- A text closes as many braces as it opens, and none before it has opened one. -/
structure Balanced (text : List Char) : Prop where
  closed : text.count '\x7b' = text.count '\x7d'
  opened : ∀ front, front <+: text → front.count '\x7d' ≤ front.count '\x7b'

instance : DecidablePred Balanced := fun text =>
  decidable_of_iff (text.count '\x7b' = text.count '\x7d' ∧
      ∀ front ∈ text.inits, front.count '\x7d' ≤ front.count '\x7b')
    ⟨fun ⟨closed, opened⟩ => ⟨closed, fun front begins => opened front (by simpa using begins)⟩,
      fun ⟨closed, opened⟩ => ⟨closed, fun front begins => opened front (by simpa using begins)⟩⟩

variable {first second text front : List Char}

theorem balanced_nil : Balanced [] where
  closed := rfl
  opened front begins := by
    rw [List.prefix_nil.mp begins]
    exact Nat.le_refl _

/-- A text begins a compound one where it begins the first part, or is that part and begins the
second. -/
theorem prefix_append_cases (begins : front <+: first ++ second) :
    front <+: first ∨ ∃ rest, rest <+: second ∧ front = first ++ rest := by
  obtain ⟨after, same⟩ := begins
  obtain ⟨rest, rfl, _⟩ | ⟨rest, rfl, rfl⟩ := List.append_eq_append_iff.mp same
  · exact .inl (List.prefix_append front rest)
  · exact .inr ⟨rest, List.prefix_append rest after, rfl⟩

theorem Balanced.append (left : Balanced first) (right : Balanced second) :
    Balanced (first ++ second) where
  closed := by rw [List.count_append, List.count_append, left.closed, right.closed]
  opened front begins := by
    obtain within | ⟨rest, later, rfl⟩ := prefix_append_cases begins
    · exact left.opened front within
    · rw [List.count_append, List.count_append, left.closed]
      exact Nat.add_le_add_left (right.opened rest later) _

/-- A balanced text in braces. -/
theorem Balanced.braced (inner : Balanced text) : Balanced ('\x7b' :: text ++ ['\x7d']) where
  closed := by simp [inner.closed]
  opened front begins := by
    obtain within | ⟨rest, later, rfl⟩ := prefix_append_cases begins
    · obtain rfl | ⟨inside, rfl, begun⟩ := List.prefix_cons_iff.mp within
      · exact Nat.le_refl _
      · have opened := inner.opened inside begun
        simp
        omega
    · have last := later.sublist.count_le '\x7d'
      have none := later.sublist.count_le '\x7b'
      simp [inner.closed] at last none ⊢
      omega

/-- A balanced text with two braces put in side by side. -/
theorem Balanced.insert {before after : List Char} (balanced : Balanced (before ++ after)) :
    Balanced (before ++ '\x7b' :: '\x7d' :: after) where
  closed := by
    have closed := balanced.closed
    simp only [List.count_append] at closed
    simp
    omega
  opened front begins := by
    have ahead := balanced.opened before (List.prefix_append before after)
    obtain within | ⟨rest, later, rfl⟩ := prefix_append_cases begins
    · exact balanced.opened front (within.trans (List.prefix_append before after))
    obtain rfl | ⟨rest, rfl, behind⟩ := List.prefix_cons_iff.mp later
    · rwa [List.append_nil]
    obtain rfl | ⟨rest, rfl, begun⟩ := List.prefix_cons_iff.mp behind
    · simp
      omega
    · have opened := balanced.opened (before ++ rest)
        ((List.prefix_append_right_inj before).mpr begun)
      simp only [List.count_append] at opened
      simp
      omega

/-- Only braces count. -/
theorem Balanced.of_filter (braces : Balanced (text.filter isBrace)) : Balanced text where
  closed := by
    have closed := braces.closed
    rwa [List.count_filter (by decide), List.count_filter (by decide)] at closed
  opened front begins := by
    have opened := braces.opened _ (begins.filter isBrace)
    rwa [List.count_filter (by decide), List.count_filter (by decide)] at opened

/-- The braces of a text. -/
def braces (text : String) : List Char := text.toList.filter isBrace

theorem Balanced.of_braces {text : String} (balanced : Balanced (braces text)) :
    Balanced text.toList := balanced.of_filter

@[simp]
theorem braces_append (first second : String) :
    braces (first ++ second) = braces first ++ braces second := by
  rw [braces, String.toList_append, List.filter_append]
  rfl

theorem braces_ofList (text : List Char) : braces (String.ofList text) = text.filter isBrace := by
  rw [braces, String.toList_ofList]

/-- A text without braces. -/
abbrev Unbraced (text : String) : Prop := Without isBrace text

theorem Without.braces_eq {text : String} (plain : Unbraced text) : braces text = [] :=
  List.filter_eq_nil_iff.mpr fun c member => by simp [plain c member]

end Bindery.Text
