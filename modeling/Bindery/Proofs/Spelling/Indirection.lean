import Bindery.Proofs.Spelling.Grammar

/-! # Indirections of any text

Indirection marks are taken off the right end of any text, be it a spelling or not. Only a `const`
at the end of a text is read differently once a mark follows it. Main statement: blanks around a
text do not change its target type, and marks behind a text that does not end in such a `const` are
behind its target type too, as many as there are (`TypeMap.map_indirected`).
-/

namespace Bindery

namespace Spelling

/-- A text ends in the word `const`, with nothing, a blank or an indirection mark before it. -/
def EndsInConst (s : List Char) : Prop :=
  ∃ before, s = before ++ constWord ∧ ∀ c ∈ before.getLast?, Text.isBlank c = true ∨ c = mark

/-- As many indirection marks as there are gaps, with a gap before each. -/
def marksAfter (gaps : List (List Char)) : List Char := gaps.flatMap fun gap => gap ++ [mark]

variable {s gap trail : List Char} {gaps : List (List Char)}

/-- Where nothing marks a final `const` off, it is the end of a longer word. -/
theorem dropConst_of_not_endsInConst (kept : ¬EndsInConst s) : dropConst s.reverse = s.reverse := by
  have unreversed : ∀ rest, s.reverse = constWord.reverse ++ rest →
      s = rest.reverse ++ constWord := fun rest same => by
    simpa using congrArg List.reverse same
  unfold dropConst
  split
  · next found =>
    have same := unreversed [] (Text.after?_eq_some_iff.mp found)
    exact absurd ⟨[], same, nofun⟩ kept
  · next c rest found =>
    have same := unreversed (c :: rest) (Text.after?_eq_some_iff.mp found)
    apply if_neg
    intro boundary
    refine kept ⟨(c :: rest).reverse, same, fun d last => ?_⟩
    rw [List.getLast?_reverse, List.head?_cons] at last
    obtain rfl := Option.some.inj last
    exact boundary
  · rfl

/-- A mark at the end is no word. -/
theorem not_endsInConst_concat (s : List Char) : ¬EndsInConst (s ++ [mark]) := by
  rintro ⟨before, same, _⟩
  have last := congrArg List.getLast? same
  rw [List.getLast?_concat, List.getLast?_append] at last
  have letter : mark = 't' := Option.some.inj last
  exact absurd letter (by decide)

/-- Reading depends on nothing but the trimmed text. -/
theorem ofChars_congr {t : List Char} (same : Text.trim s = Text.trim t) :
    ofChars s = ofChars t := by
  rw [ofChars, ofChars, same]

/-- A mark behind a text is one indirection more. -/
theorem ofChars_append_mark (kept : ¬EndsInConst (Text.trim s))
    (blank : Text.isAllBlank gap = true) :
    ofChars (s ++ (gap ++ [mark])) = ⟨(ofChars s).bare, (ofChars s).depth + 1⟩ := by
  have solid : Text.isBlank mark = false := by decide
  have inner : dropConst (Text.trimStart (Text.trimStart (s ++ gap)).reverse) =
      (Text.trim s).reverse := by
    rw [← Text.reverse_trim, Text.trim_append_of_isAllBlank blank,
      dropConst_of_not_endsInConst kept]
  simp only [ofChars]
  rw [← List.append_assoc, Text.trim_concat solid, List.reverse_concat, peel_mark, inner]

/-- Marks behind a text are as many indirections more. -/
theorem ofChars_append_marksAfter (kept : ¬EndsInConst (Text.trim s))
    (blank : ∀ gap ∈ gaps, Text.isAllBlank gap = true) :
    ofChars (s ++ marksAfter gaps) = ⟨(ofChars s).bare, (ofChars s).depth + gaps.length⟩ := by
  induction gaps generalizing s with
  | nil => rw [marksAfter, List.flatMap_nil, List.append_nil]; rfl
  | cons gap gaps ih =>
    obtain ⟨here, later⟩ := List.forall_mem_cons.mp blank
    -- the first mark is what all further ones stand behind
    have marked : ¬EndsInConst (Text.trim (s ++ (gap ++ [mark]))) := by
      rw [← List.append_assoc, Text.trim_concat (by decide)]
      exact not_endsInConst_concat _
    rw [marksAfter, List.flatMap_cons, ← List.append_assoc, ← marksAfter, ih marked later,
      ofChars_append_mark kept here, List.length_cons, Nat.add_assoc, Nat.add_comm 1]

end Spelling

namespace TypeMap

/-- Two spellings have the same target type, and are both known or both unknown. -/
structure SameTarget (types : TypeMap) (text other : String) : Prop where
  map_eq : types.map other = types.map text
  isMapped_eq : types.isMapped other = types.isMapped text

theorem sameTarget_of_ofText_eq {text other : String} (types : TypeMap)
    (same : Spelling.ofText other = Spelling.ofText text) : types.SameTarget text other :=
  ⟨by simp only [map, same], by rw [isMapped, isMapped, same]⟩

/-- More indirections of one bare name show behind its target type. -/
theorem map_of_ofText_eq {text other : String} {count : Nat} (types : TypeMap)
    (read : Spelling.ofText other =
      ⟨(Spelling.ofText text).bare, (Spelling.ofText text).depth + count⟩) :
    types.map other = types.map text ++ String.ofList (List.replicate count Spelling.mark) ∧
      types.isMapped other = types.isMapped text := by
  have named : (Spelling.ofText other).name = (Spelling.ofText text).name := by
    rw [read]
    rfl
  have counted : (Spelling.ofText other).depth = (Spelling.ofText text).depth + count := by
    rw [read]
  constructor
  · simp only [map, named, counted]
    rw [← List.replicate_append_replicate, String.ofList_append, String.append_assoc]
  · rw [isMapped, isMapped, named]

/-- Blanks around any text do not change its target type nor whether it is known. Where the text
does not end in a `const` of its own, each mark behind it is one behind its target type. -/
theorem map_indirected (types : TypeMap) (text : String) :
    (∀ lead trail, Text.isAllBlank lead = true → Text.isAllBlank trail = true →
      types.SameTarget text (String.ofList (lead ++ text.toList ++ trail))) ∧
    (¬Spelling.EndsInConst (Text.trim text.toList) →
      ∀ gaps trail, (∀ gap ∈ gaps, Text.isAllBlank gap = true) → Text.isAllBlank trail = true →
        types.map (String.ofList (text.toList ++ Spelling.marksAfter gaps ++ trail)) =
            types.map text ++ String.ofList (List.replicate gaps.length '*') ∧
          types.isMapped (String.ofList (text.toList ++ Spelling.marksAfter gaps ++ trail)) =
            types.isMapped text) := by
  constructor
  · intro lead trail before behind
    apply types.sameTarget_of_ofText_eq
    rw [Spelling.ofText, String.toList_ofList]
    apply Spelling.ofChars_congr
    rw [Text.trim_append_of_isAllBlank behind, Text.trim_isAllBlank_append before]
  · intro kept gaps trail blank behind
    apply types.map_of_ofText_eq
    rw [Spelling.ofText, String.toList_ofList,
      Spelling.ofChars_congr (Text.trim_append_of_isAllBlank behind _),
      Spelling.ofChars_append_marksAfter kept blank]
    rfl

/-- A name with a mark and a blank in it, which ends like a qualifier. -/
def oddlyNamed : TypeMap := ⟨⟨Table.ofList [("* xconst", "Odd")], ∅, ∅⟩, ∅⟩

theorem map_indirected_oddlyNamed :
    ¬Spelling.EndsInConst (Text.trim "\u2003enum\t_* xconst ".toList) ∧
      oddlyNamed.map "\u2003enum\t_* xconst *\u00a0*\n" = "Odd**" ∧
      oddlyNamed.isMapped "\u2003enum\t_* xconst *\u00a0*\n" = true := by
  have trimmed : Text.trim "\u2003enum\t_* xconst ".toList =
      "enum\t_* x".toList ++ Spelling.constWord := by decide
  have kept : ¬Spelling.EndsInConst (Text.trim "\u2003enum\t_* xconst ".toList) := by
    rintro ⟨before, same, boundary⟩
    obtain rfl := List.append_cancel_right (trimmed.symm.trans same)
    have inWord : Text.isBlank 'x' = true ∨ 'x' = Spelling.mark := boundary 'x' rfl
    exact absurd inWord (by decide)
  have parts : String.ofList ("\u2003enum\t_* xconst ".toList ++
      Spelling.marksAfter [[], ['\u00a0']] ++ ['\n']) = "\u2003enum\t_* xconst *\u00a0*\n" := by
    decide
  obtain ⟨mapped, known⟩ := (map_indirected oddlyNamed "\u2003enum\t_* xconst ").2 kept
    [[], ['\u00a0']] ['\n'] (by decide) rfl
  rw [parts] at mapped known
  exact ⟨kept, mapped.trans (by decide +kernel), known.trans (by decide +kernel)⟩

end TypeMap

end Bindery
