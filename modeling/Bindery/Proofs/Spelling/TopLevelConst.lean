import Bindery.Proofs.Spelling.Indirection

/-! # A const behind everything else

Words are taken off the right end of a spelling only where an indirection mark follows them. A
`const` behind the bare name and all its marks, which makes no other type in the native language,
has none behind it. So it stays, and with it everything between it and the bare name, marks
included. Main statement: such a `const` leaves the target type as it was exactly when the tables
list what stays, beside the bare name, with the target type of the whole
(`TypeMap.sameTarget_const_iff`).
-/

namespace Bindery

namespace Spelling

variable {name native gap s lead const tag underscore rest trail : List Char} {depth : Nat}

/-- A spelling with blanks and a `const` behind it. -/
def withConst (native gap : List Char) : List Char := native ++ gap ++ constWord

/-- No letter of the name comes behind its end. -/
theorem Marks.follows (marks : Marks depth s) :
    ∀ c ∈ s.head?, Text.isBlank c = true ∨ c = mark := by
  induction marks with
  | none => nofun
  | @plain depth s gap _ blank ih =>
    rw [List.append_assoc, List.head?_append]
    intro c first
    rcases Option.or_eq_some_iff.mp first with inside | ⟨_, behind⟩
    · exact ih c inside
    · rcases List.mem_append.mp (List.mem_of_head? behind) with inGap | last
      · exact .inl (List.all_eq_true.mp blank c inGap)
      · exact .inr (List.mem_singleton.mp last)
  | @const depth s gap after marks blank apart _ ih =>
    intro c first
    simp only [List.append_assoc] at first
    rw [List.head?_append, List.head?_append] at first
    rcases Option.or_eq_some_iff.mp first with inside | ⟨outside, behind⟩
    · exact ih c inside
    -- the word comes first only where neither marks nor blanks are before it
    rcases Option.or_eq_some_iff.mp behind with inGap | ⟨unspaced, _⟩
    · exact .inl (List.all_eq_true.mp blank c (List.mem_of_head? inGap))
    · rw [List.head?_eq_none_iff] at outside unspaced
      subst outside
      cases depth with
      | zero => exact absurd unspaced (apart rfl)
      | succ depth => exact absurd marks.getLast?_eq nofun

/-- No letter of the name comes behind its end either where blanks and a `const` are behind the
marks. -/
theorem Marks.follows_const (marks : Marks depth s) (behind : Text.isAllBlank trail = true)
    (blank : Text.isAllBlank gap = true) (apart : depth = 0 → gap ≠ []) :
    ∀ c ∈ (s ++ (trail ++ (gap ++ constWord))).head?, Text.isBlank c = true ∨ c = mark := by
  intro c first
  rw [List.head?_append] at first
  rcases Option.or_eq_some_iff.mp first with inside | ⟨unmarked, later⟩
  · exact marks.follows c inside
  rw [List.head?_eq_none_iff] at unmarked
  subst unmarked
  cases depth with
  | succ depth => exact absurd marks.getLast?_eq nofun
  | zero =>
    have blanks : Text.isAllBlank (trail ++ gap) = true := by
      rw [Text.isAllBlank, List.all_append, Bool.and_eq_true]
      exact ⟨behind, blank⟩
    obtain ⟨d, more, spaced⟩ := List.exists_cons_of_ne_nil
      (List.append_ne_nil_of_right_ne_nil trail (apart rfl))
    rw [← List.append_assoc, spaced] at later
    obtain rfl := Option.some.inj later
    refine .inl (List.all_eq_true.mp blanks d ?_)
    rw [spaced]
    exact List.mem_cons_self

/-- Where a letter is at the right end, reading takes nothing off there, and the bare name goes on
to this end. -/
theorem IsBare.ofChars_of_letter (bare : IsBare name) (before : Text.isAllBlank lead = true)
    (optional : Optional [constWord] const) (tagged : Optional tagWords tag)
    (hidden : Underscore underscore)
    (follows : ∀ c ∈ rest.head?, Text.isBlank c = true ∨ c = mark) {letter : Char}
    (ends : rest.getLast? = some letter) (solid : Text.isBlank letter = false)
    (unmarked : letter ≠ mark) :
    ofChars (lead ++ (const ++ (tag ++ (underscore ++ (name ++ rest))))) = ⟨name ++ rest, 0⟩ := by
  have left := bare.dropLeft_append optional tagged hidden follows
  have begins : ∀ c ∈ (const ++ (tag ++ (underscore ++ (name ++ rest)))).head?,
      Text.isBlank c = false := by
    apply optional.solid_append (by decide)
    apply tagged.solid_append (by decide)
    exact bare.solid_append hidden rest
  have last : (const ++ (tag ++ (underscore ++ (name ++ rest)))).getLast? = some letter := by
    simp [List.getLast?_append, ends]
  generalize const ++ (tag ++ (underscore ++ (name ++ rest))) = text at left begins last ⊢
  have trimmed : Text.trim (lead ++ text) = text := by
    rw [← List.append_nil (lead ++ text)]
    apply Text.trim_between _ begins _ before rfl
    · intro empty
      rw [empty] at last
      exact absurd last nofun
    · intro c final
      obtain rfl := Option.some.inj (last.symm.trans final)
      exact solid
  have peeled : peel text.reverse = ⟨text.reverse, 0⟩ := by
    apply peel_of_head?_ne
    rw [List.head?_reverse, last]
    exact fun same => unmarked (Option.some.inj same)
  simp only [ofChars]
  rw [trimmed, peeled, List.reverse_reverse, left]

/-- Reading leaves a `const` at the right end where it is, and everything from the bare name to
it. -/
theorem ofChars_withConst (bare : IsBare name) (spells : Spells name depth native)
    (blank : Text.isAllBlank gap = true) (apart : depth = 0 → gap ≠ []) :
    ∃ front rest, native = front ++ name ++ rest ∧
      ofChars (withConst native gap) = ⟨withConst (name ++ rest) gap, 0⟩ := by
  cases spells with
  | @intro lead const tag underscore marks trail before optional tagged hidden marked behind =>
    refine ⟨lead ++ (const ++ (tag ++ underscore)), marks ++ trail, by simp, ?_⟩
    have follows := marked.follows_const behind blank apart
    have ends : (marks ++ (trail ++ (gap ++ constWord))).getLast? = some 't' := by
      simp [constWord, List.getLast?_append]
    have read := bare.ofChars_of_letter before optional tagged hidden follows ends (by decide)
      (by decide)
    simpa [withConst] using read

/-- A text with a `const` at its end is no name with marks. -/
theorem withConst_ne_marks (name rest gap : List Char) (count : Nat) :
    withConst (name ++ rest) gap ≠ name ++ List.replicate count mark := by
  intro same
  simp only [withConst, List.append_assoc] at same
  have letters := List.append_cancel_left same
  have inside : 'c' ∈ List.replicate count mark := by
    rw [← letters]
    simp [constWord]
  exact absurd (List.eq_of_mem_replicate inside) (by decide)

end Spelling

namespace TypeMap

variable {name native : String} {gap : List Char} {depth : Nat}

/-- Where marks are read behind one name and no mark behind another, the target types are the same
exactly when both names are listed, the second with the marks behind the target type of the
first. -/
theorem sameTarget_iff_of_ofText_eq {first second : List Char} {other : String} (types : TypeMap)
    (read : Spelling.ofText native = ⟨first, depth⟩) (alone : Spelling.ofText other = ⟨second, 0⟩)
    (unlike : second ≠ first ++ List.replicate depth Spelling.mark) :
    types.SameTarget native other ↔ ∃ target, types.lookup? (String.ofList first) = some target ∧
      types.lookup? (String.ofList second) =
        some (target ++ String.ofList (List.replicate depth Spelling.mark)) := by
  have mapped : types.map native = (types.lookup? (String.ofList first)).getD
      (String.ofList first) ++ String.ofList (List.replicate depth Spelling.mark) := by
    rw [map, read]
    rfl
  have mappedAlone : types.map other =
      (types.lookup? (String.ofList second)).getD (String.ofList second) := by
    rw [map, alone]
    exact String.append_empty
  have known : types.isMapped native = (types.lookup? (String.ofList first)).isSome := by
    rw [isMapped, read]
    rfl
  have knownAlone : types.isMapped other = (types.lookup? (String.ofList second)).isSome := by
    rw [isMapped, alone]
    rfl
  have texts : String.ofList second ≠
      String.ofList first ++ String.ofList (List.replicate depth Spelling.mark) := by
    rw [← String.ofList_append]
    exact fun same => unlike (String.ofList_injective same)
  constructor
  · rintro ⟨same, both⟩
    rw [mapped, mappedAlone] at same
    rw [known, knownAlone] at both
    cases listed : types.lookup? (String.ofList first) with
    | none =>
      rw [listed, Option.isSome_none, Option.isSome_eq_false_iff, Option.isNone_iff_eq_none] at both
      rw [listed, both] at same
      exact absurd same texts
    | some target =>
      rw [listed, Option.isSome_some, Option.isSome_iff_exists] at both
      obtain ⟨found, too⟩ := both
      rw [listed, too] at same
      exact ⟨target, rfl, too.trans (congrArg some same)⟩
  · rintro ⟨target, listed, too⟩
    constructor
    · rw [mapped, mappedAlone, listed, too]
      rfl
    · rw [known, knownAlone, listed, too]
      rfl

/-- What stands from the bare name on is read as the name of a spelling with a `const` behind it. So
the word leaves the target type as it was exactly when the bare name is listed, and that text is
too, with the target type of the spelling. -/
theorem sameTarget_const_iff (types : TypeMap) (bare : Spelling.IsBare name.toList)
    (spells : Spelling.Spells name.toList depth native.toList)
    (blank : Text.isAllBlank gap = true) (apart : depth = 0 → gap ≠ []) :
    (∃ front rest, native.toList = front ++ name.toList ++ rest ∧
      Spelling.ofChars (Spelling.withConst native.toList gap) =
        ⟨Spelling.withConst (name.toList ++ rest) gap, 0⟩) ∧
    (types.SameTarget native (String.ofList (Spelling.withConst native.toList gap)) ↔
      ∃ target, types.lookup? name = some target ∧
        types.lookup? (Spelling.ofChars (Spelling.withConst native.toList gap)).name =
          some (target ++ String.ofList (List.replicate depth '*'))) := by
  obtain ⟨front, rest, parts, left⟩ := Spelling.ofChars_withConst bare spells blank apart
  refine ⟨⟨front, rest, parts, left⟩, ?_⟩
  have read : Spelling.ofText native = ⟨name.toList, depth⟩ :=
    Spelling.ofChars_of_spells bare spells
  have alone : Spelling.ofText (String.ofList (Spelling.withConst native.toList gap)) =
      ⟨Spelling.withConst (name.toList ++ rest) gap, 0⟩ := by
    rw [Spelling.ofText, String.toList_ofList, left]
  have unlike := Spelling.withConst_ne_marks name.toList rest gap depth
  rw [sameTarget_iff_of_ofText_eq types read alone unlike, left, String.ofList_toList]
  rfl

theorem isBare_char : Spelling.IsBare "char".toList where
  nonempty := by decide
  solid c member := by
    have letters : ("char".toList.all fun c => !Text.isBlank c) = true := by decide
    simpa using List.all_eq_true.mp letters c member
  unmarked := by decide
  shown := by decide
  noWord := by decide

theorem spells_char : Spelling.Spells "char".toList 0 "char".toList :=
  @Spelling.Spells.intro _ 0 [] [] [] [] [] [] rfl .absent .absent (.inl rfl) .none rfl

theorem spells_char_mark : Spelling.Spells "char".toList 1 "char*".toList :=
  @Spelling.Spells.intro _ 1 [] [] [] [] ['*'] [] rfl .absent .absent (.inl rfl)
    (@Spelling.Marks.plain 0 [] [] .none rfl) rfl

/-- A table that lists a name, and a table that also lists the name with a mark and a `const`. -/
def bytes (more : List (String × String)) : TypeMap :=
  ⟨⟨Table.ofList (("char", "byte") :: more), ∅, ∅⟩, ∅⟩

theorem sameTarget_const_iff_listed :
    Spelling.Spells "char".toList 1 "char*".toList ∧
      (bytes [("char* const", "byte*")]).SameTarget "char*" "char* const" := by
  have text : String.ofList (Spelling.withConst "char*".toList [' ']) = "char* const" := by decide
  have blank : Text.isAllBlank [' '] = true := rfl
  have listed := (sameTarget_const_iff (bytes [("char* const", "byte*")]) isBare_char
    spells_char_mark blank nofun).2
  rw [text] at listed
  exact ⟨spells_char_mark, listed.mpr ⟨"byte", by decide, by decide +kernel⟩⟩

/-- A table seldom lists a spelling: a name alone is not enough, with marks behind it or without. -/
theorem not_sameTarget_const :
    Spelling.IsBare "char".toList ∧ Spelling.Spells "char".toList 1 "char*".toList ∧
      Spelling.Spells "char".toList 0 "char".toList ∧
      (bytes []).map "char*" = "byte*" ∧ (bytes []).map "char* const" = "char* const" ∧
      ¬(bytes []).SameTarget "char*" "char* const" ∧
      ¬(bytes []).SameTarget "char" "char const" := by
  have pointer : (bytes []).map "char* const" = "char* const" := by decide +kernel
  have plain : (bytes []).map "char const" = "char const" := by decide +kernel
  have mapped : (bytes []).map "char*" = "byte*" ∧ (bytes []).map "char" = "byte" := by
    decide +kernel
  refine ⟨isBare_char, spells_char_mark, spells_char, mapped.1, pointer, ?_, ?_⟩
  · rintro ⟨same, _⟩
    rw [pointer, mapped.1] at same
    exact absurd same (by decide)
  · rintro ⟨same, _⟩
    rw [plain, mapped.2] at same
    exact absurd same (by decide)

end TypeMap

end Bindery
