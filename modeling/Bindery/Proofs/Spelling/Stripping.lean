import Bindery.TypeMap

/-! # What reading a spelling takes away

Reading takes blanks, indirection marks, underscores and words off the ends of a native spelling,
and nothing out of its inside. Main statements: what is left is a piece of the spelling with nothing
else around it (`strips_ofChars`), hence the notices on two different spellings differ
(`unmappedNotice_injective`).
-/

namespace Bindery

namespace Spelling

/-- The characters that may be taken away. -/
def Strippable (c : Char) : Prop :=
  Text.isBlank c = true ∨ c = mark ∨ c = '_' ∨ ∃ word ∈ leftWords, c ∈ word

/-- A text is what is left of another one when such characters are taken off its ends. -/
def Strips (s left : List Char) : Prop :=
  ∃ front back, s = front ++ left ++ back ∧ (∀ c ∈ front, Strippable c) ∧
    ∀ c ∈ back, Strippable c

variable {s t u : List Char} {c : Char}

theorem Strips.refl (s : List Char) : Strips s s :=
  ⟨[], [], by rw [List.append_nil, List.nil_append], nofun, nofun⟩

theorem Strips.trans (first : Strips s t) (second : Strips t u) : Strips s u := by
  obtain ⟨front, back, rfl, taken, given⟩ := first
  obtain ⟨inner, outer, rfl, also, too⟩ := second
  refine ⟨front ++ inner, outer ++ back, by simp only [List.append_assoc], ?_, ?_⟩
  · intro c member
    exact (List.mem_append.mp member).elim (taken c) (also c)
  · intro c member
    exact (List.mem_append.mp member).elim (too c) (given c)

/-- What is taken off the left end of a reversed text is taken off the right end. -/
theorem Strips.reverse (strips : Strips s t) : Strips s.reverse t.reverse := by
  obtain ⟨front, back, rfl, taken, given⟩ := strips
  refine ⟨back.reverse, front.reverse, by simp only [List.reverse_append, List.append_assoc],
    fun c member => given c (List.mem_reverse.mp member),
    fun c member => taken c (List.mem_reverse.mp member)⟩

theorem strips_of_append {front : List Char} (taken : ∀ c ∈ front, Strippable c) :
    Strips (front ++ s) s :=
  ⟨front, [], (List.append_nil _).symm, taken, nofun⟩

theorem strips_trimStart (s : List Char) : Strips s (Text.trimStart s) := by
  have parts := List.takeWhile_append_dropWhile (p := Text.isBlank) (l := s)
  have taken : Strips (s.takeWhile Text.isBlank ++ s.dropWhile Text.isBlank) (Text.trimStart s) :=
    strips_of_append fun c member => .inl (List.all_eq_true.mp List.all_takeWhile c member)
  rwa [parts] at taken

theorem strips_trim (s : List Char) : Strips s (Text.trim s) := by
  have back := (strips_trimStart (Text.trimStart s).reverse).reverse
  rw [List.reverse_reverse] at back
  exact (strips_trimStart s).trans back

/-- The words on the left of a name may be taken away. -/
theorem strippable_of_mem_word {word : List Char} (known : word ∈ leftWords) (member : c ∈ word) :
    Strippable c :=
  .inr (.inr (.inr ⟨word, known, member⟩))

theorem strips_dropConst (s : List Char) : Strips s (dropConst s) := by
  have word : ∀ c ∈ constWord.reverse, Strippable c := fun c member =>
    strippable_of_mem_word (List.mem_cons_self (l := leftWords.tail)) (List.mem_reverse.mp member)
  unfold dropConst
  split
  · next found =>
    rw [Text.after?_eq_some_iff.mp found]
    exact strips_of_append word
  · next c rest found =>
    rw [Text.after?_eq_some_iff.mp found]
    split
    · exact (strips_of_append word).trans (strips_trimStart _)
    · exact .refl _
  · exact .refl _

theorem strips_dropLeftWord {word : List Char} (known : word ∈ leftWords) (s : List Char) :
    Strips s (dropLeftWord word s) := by
  unfold dropLeftWord
  split
  · next c rest found =>
    split
    · rw [Text.after?_eq_some_iff.mp found]
      exact (strips_of_append fun _ => strippable_of_mem_word known).trans (strips_trimStart _)
    · exact .refl _
  · exact .refl _

theorem strips_peel (s : List Char) : Strips s (peel s).bare := by
  induction s using peel.induct with
  | case1 =>
    rw [peel]
    exact .refl _
  | case2 rest ih =>
    rw [peel, if_pos rfl]
    have marked : Strips ([mark] ++ rest) rest :=
      strips_of_append fun c member => .inr (.inl (List.mem_singleton.mp member))
    exact ((marked.trans (strips_trimStart rest)).trans (strips_dropConst _)).trans ih
  | case3 c rest unmarked =>
    rw [peel, if_neg unmarked]
    exact .refl _

theorem strips_dropLeft (s : List Char) : Strips s (dropLeft s) := by
  have words : Strips s (leftWords.foldl (fun s word => dropLeftWord word s) s) :=
    List.foldlRecOn leftWords _ (.refl s) fun t strips word known =>
      strips.trans (strips_dropLeftWord known t)
  unfold dropLeft
  split
  · next rest same =>
    rw [same] at words
    have hidden : Strips (['_'] ++ rest) rest :=
      strips_of_append fun c member => .inr (.inr (.inl (List.mem_singleton.mp member)))
    exact (words.trans hidden).trans (strips_trimStart rest)
  · exact words

/-- The bare name is a piece of its spelling, and nothing but what may be taken away is around it. -/
theorem strips_ofChars (native : List Char) : Strips native (ofChars native).bare := by
  have peeled := (strips_peel (Text.trim native).reverse).reverse
  rw [List.reverse_reverse] at peeled
  exact ((strips_trim native).trans peeled).trans (strips_dropLeft _)

/-- What is not taken away is in the bare name as often as in the spelling. -/
theorem Strips.count_eq (strips : Strips s t) (kept : ¬Strippable c) : t.count c = s.count c := by
  obtain ⟨front, back, rfl, taken, given⟩ := strips
  have before : front.count c = 0 := List.count_eq_zero.mpr fun member => kept (taken c member)
  have behind : back.count c = 0 := List.count_eq_zero.mpr fun member => kept (given c member)
  rw [List.count_append, List.count_append, before, behind, Nat.zero_add, Nat.add_zero]

/-- Every character of what is left is one of the spelling. -/
theorem Strips.mem (strips : Strips s t) (member : c ∈ t) : c ∈ s := by
  obtain ⟨front, back, rfl, _, _⟩ := strips
  exact List.mem_append_left _ (List.mem_append_right _ member)

theorem not_strippable_quote : ¬Strippable '"' := by
  rintro (blank | marked | hidden | ⟨word, known, member⟩)
  · exact absurd blank (by decide)
  · exact absurd marked (by decide)
  · exact absurd hidden (by decide)
  · revert member
    revert known word
    decide

end Spelling

theorem eq_nil_of_cons_eq_append {own r t : List Char} {c : Char} (free : own.count c = 0)
    (same : c :: r = own ++ c :: t) : own = [] := by
  cases own with
  | nil => rfl
  | cons d own =>
    obtain ⟨rfl, _⟩ := List.cons.inj same
    rw [List.count_cons_self] at free
    contradiction

/-- Of two texts with a character as often in each, followed by this character, neither goes on
where the other one ends. -/
theorem eq_of_append_cons_eq {a b r t : List Char} {c : Char} (often : a.count c = b.count c)
    (same : a ++ c :: r = b ++ c :: t) : a = b := by
  obtain ⟨own, rfl, rest⟩ | ⟨own, rfl, rest⟩ := List.append_eq_append_iff.mp same
  · rw [List.count_append] at often
    rw [eq_nil_of_cons_eq_append (by omega) rest, List.append_nil]
  · rw [List.count_append] at often
    rw [eq_nil_of_cons_eq_append (by omega) rest, List.append_nil]

namespace TypeMap

/-- The characters of a notice. A quote follows the spelling. -/
theorem toList_unmappedNotice (spelled : String) : (unmappedNotice spelled).toList =
    "C type \"".toList ++ (spelled.toList ++ '"' ::
      (" is not mapped to a target type (processed to \"".toList ++
        ((Spelling.ofText spelled).bare ++ "\")".toList))) := by
  have parts : unmappedNotice spelled = "C type \"" ++ spelled ++
      "\" is not mapped to a target type (processed to \"" ++
      String.ofList (Spelling.ofText spelled).bare ++ "\")" := rfl
  simp [parts]

/-- A notice tells which spelling it is about. -/
theorem unmappedNotice_injective {native other : String}
    (same : unmappedNotice native = unmappedNotice other) : native = other := by
  have texts := congrArg String.toList same
  rw [toList_unmappedNotice, toList_unmappedNotice, List.append_cancel_left_eq] at texts
  -- The bare names have as many quotes as the spellings, so these have as many as each other.
  have quotes : ∀ text : String,
      (Spelling.ofText text).bare.count '"' = text.toList.count '"' := fun text =>
    (Spelling.strips_ofChars text.toList).count_eq Spelling.not_strippable_quote
  have often := congrArg (List.count '"') texts
  simp only [List.count_append, List.count_cons_self, quotes] at often
  exact String.toList_inj.mp (eq_of_append_cons_eq (by omega) texts)

end TypeMap

end Bindery
