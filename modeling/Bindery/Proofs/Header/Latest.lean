import Bindery.Header.ApiHashes
import Bindery.Proofs.Header.Lines
import Bindery.Proofs.Text.Finding
import Bindery.Proofs.Text.Lines

/-! # The latest version

The definition of the latest version is looked for in the whole text, and it need not begin a line.
It has to have the name behind a blank, though. Main statement: the latest version is what a line
says that shows a definition of it, when no line above has the name at its start or behind a blank
(`lastVersion?_of_renders`).
-/

namespace Bindery.Header

open Text

variable {text line name value version front back rest gap : List Char} {c : Char}
  {above below : List (List Char)}

/-! ## Digits -/

/-- The ranges of blanks. -/
def blankRanges : List (Nat × Nat) := [
  (0x09, 0x0D), (0x20, 0x20), (0x85, 0x85), (0xA0, 0xA0), (0x1680, 0x1680), (0x2000, 0x200A),
  (0x2028, 0x2028), (0x2029, 0x2029), (0x202F, 0x202F), (0x205F, 0x205F), (0x3000, 0x3000)]

theorem inRanges_blankRanges (blank : isBlank c = true) :
    inRanges blankRanges c.toNat = true := by
  simp only [isBlank, Bool.or_eq_true, Bool.and_eq_true, decide_eq_true_eq, beq_iff_eq] at blank
  simp only [inRanges, blankRanges, List.any_cons, List.any_nil, Bool.or_false, Bool.or_eq_true,
    Bool.and_eq_true, decide_eq_true_eq]
  omega

/-- Ranges that are apart from those of blanks hold no blank. -/
theorem inRanges_of_isBlank {ranges : List (Nat × Nat)} (apart : ∀ range ∈ ranges,
    ∀ blanks ∈ blankRanges, range.2 < blanks.1 ∨ blanks.2 < range.1) (blank : isBlank c = true) :
    inRanges ranges c.toNat = false := by
  obtain ⟨blanks, listed, inside⟩ := List.any_eq_true.mp (inRanges_blankRanges blank)
  simp only [Bool.and_eq_true, decide_eq_true_eq] at inside
  rw [inRanges, List.any_eq_false]
  intro range member
  have := apart range member blanks listed
  simp only [Bool.and_eq_true, decide_eq_true_eq]
  omega

/-- No blank is a digit. -/
theorem isDigit_of_isBlank (blank : isBlank c = true) : isDigit c = false :=
  inRanges_of_isBlank (by decide) blank

/-- No ASCII blank is a letter, a digit or an underscore. -/
theorem isAlphanum_of_isBlank (blank : isBlank c = true) (low : c.toNat < 0x80) :
    (c.isAlphanum || c == '_') = false := by
  have few : c.toNat ∈ [0x09, 0x0A, 0x0B, 0x0C, 0x0D, 0x20] := by
    simp only [isBlank, Bool.or_eq_true, Bool.and_eq_true, decide_eq_true_eq, beq_iff_eq] at blank
    simp only [List.mem_cons, List.not_mem_nil, or_false]
    omega
  have none : ∀ n ∈ [0x09, 0x0A, 0x0B, 0x0C, 0x0D, 0x20],
      ((Char.ofNat n).isAlphanum || Char.ofNat n == '_') = false := by decide
  have own := none c.toNat few
  rwa [Char.ofNat_toNat] at own

/-- No blank is a word character. -/
theorem isWord_of_isBlank (blank : isBlank c = true) : isWord c = false := by
  rw [isWord]
  split
  · next low => exact isAlphanum_of_isBlank blank low
  · exact inRanges_of_isBlank (by decide +kernel) blank

/-- A version is a number. -/
def IsNumber (version : List Char) : Prop :=
  version ≠ [] ∧ ∀ d ∈ version, isDigit d = true

theorem IsNumber.isBlank_eq_false (number : IsNumber version) :
    ∀ d ∈ version, isBlank d = false := by
  intro d member
  by_contra blank
  have digit := number.2 d member
  rw [isDigit_of_isBlank (by simpa using blank)] at digit
  contradiction

/-- Digits are taken up to what is none. -/
theorem takeWhile_isDigit_eq_iff : text.takeWhile isDigit = version ↔
    (∀ d ∈ version, isDigit d = true) ∧
      ∃ rest, text = version ++ rest ∧ ∀ d ∈ rest.head?, isDigit d = false := by
  constructor
  · rintro rfl
    refine ⟨fun d member => List.mem_takeWhile_imp member, text.dropWhile isDigit,
      List.takeWhile_append_dropWhile.symm, fun d first => ?_⟩
    have stopped := List.head?_dropWhile_not isDigit text
    rw [Option.mem_def.mp first] at stopped
    simpa using stopped
  · rintro ⟨digits, rest, rfl, stops⟩
    rw [List.takeWhile_append_of_pos digits]
    cases rest with
    | nil => simp
    | cons d rest => rw [List.takeWhile_cons_of_neg (by simp [stops d rfl]), List.append_nil]

/-! ## One definition -/

/-- The latest version is read where a definition of it begins. -/
theorem lastVersionAt?_eq_some_iff : lastVersionAt? text = some version ↔
    IsNumber version ∧ ∃ rest,
      Defines lastVersionName.toList text (versionStem.toList ++ (version ++ rest)) ∧
        ∀ d ∈ rest.head?, isDigit d = false := by
  have begins : ∀ rest, ∃ d ∈ (lastVersionName.toList ++ rest).head?, isBlank d = false :=
    fun rest => ⟨'C', rfl, by decide⟩
  have stem : ∀ rest, ∃ d ∈ (versionStem.toList ++ rest).head?, isBlank d = false :=
    fun rest => ⟨'C', rfl, by decide⟩
  simp only [lastVersionAt?, Option.bind_eq_bind, Option.bind_eq_some_iff, after?_eq_some_iff]
  constructor
  · rintro ⟨_, rfl, _, gap, _, rfl, _, gapAfter, digits, rfl, read⟩
    obtain ⟨front, before, rfl⟩ := (afterBlanks?_eq_some_iff_of_solid (begins _)).mp gap
    obtain ⟨back, behind, rfl⟩ := (afterBlanks?_eq_some_iff_of_solid (stem _)).mp gapAfter
    split at read
    · contradiction
    · next filled =>
      obtain ⟨all, rest, rfl, stops⟩ := takeWhile_isDigit_eq_iff.mp (Option.some.inj read)
      refine ⟨⟨?_, all⟩, rest, ⟨front, back, before, behind, rfl⟩, stops⟩
      rintro rfl
      exact filled (by rw [Option.some.inj read]; rfl)
  · rintro ⟨⟨filled, digits⟩, rest, ⟨front, back, before, behind, rfl⟩, stops⟩
    refine ⟨_, rfl, _, (afterBlanks?_eq_some_iff_of_solid (begins _)).mpr ⟨front, before, rfl⟩,
      _, rfl, _, (afterBlanks?_eq_some_iff_of_solid (stem _)).mpr ⟨back, behind, rfl⟩, _, rfl, ?_⟩
    rw [takeWhile_isDigit_eq_iff.mpr ⟨digits, rest, rfl, stops⟩, if_neg (by simpa using filled)]

/-- The latest version is what a definition says that the text begins with. -/
theorem lastVersion?_of_defines (number : IsNumber version)
    (defines : Defines lastVersionName.toList text (versionStem.toList ++ (version ++ rest)))
    (stops : ∀ d ∈ rest.head?, isDigit d = false) : lastVersion? text = some version := by
  have read := lastVersionAt?_eq_some_iff.mpr ⟨number, rest, defines, stops⟩
  cases text with
  | nil => contradiction
  | cons d text => rw [lastVersion?, read]

/-! ## Texts without a definition -/

/-- The name of the latest version stands behind a blank. -/
def Announced (text : List Char) : Prop :=
  ∃ b, isBlank b = true ∧ b :: lastVersionName.toList <:+: text

/-- The name of the latest version stands neither at the start of a text nor behind a blank. -/
def Quiet (text : List Char) : Prop := ∀ c, isBlank c = true → ¬Announced (c :: text)

theorem Announced.mono (announced : Announced text) (inside : text <:+: value) :
    Announced value := by
  obtain ⟨b, blank, found⟩ := announced
  exact ⟨b, blank, found.trans inside⟩

/-- A definition in front of another needs a name behind a blank. -/
theorem lastVersionAt?_append (filled : front ≠ []) (quiet : ¬Announced front)
    (back : List Char) : lastVersionAt? (front ++ (defineWord ++ back)) = none := by
  have hash : '#' ∉ lastVersionName.toList := by decide
  by_contra some
  obtain ⟨version, read⟩ := Option.ne_none_iff_exists'.mp some
  obtain ⟨_, rest, ⟨lead, trail, before, _, same⟩, _⟩ := lastVersionAt?_eq_some_iff.mp read
  rw [← List.append_assoc defineWord lead] at same
  rcases List.append_eq_append_iff.mp same with ⟨inner, begins, rest⟩ | ⟨inner, rfl, rest⟩
  · -- The second definition would begin among the blanks of the first one.
    cases inner with
    | nil => exact absurd (List.cons.inj rest).1 (by decide)
    | cons d inner =>
      obtain rfl : '#' = d := (List.cons.inj rest).1
      obtain ⟨first, front, rfl⟩ := List.exists_cons_of_ne_nil filled
      have tail : "define".toList ++ lead = front ++ '#' :: inner := (List.cons.inj begins).2
      have inside : '#' ∈ "define".toList ++ lead :=
        tail ▸ List.mem_append_right front List.mem_cons_self
      rcases List.mem_append.mp inside with word | gap
      · exact absurd word (by decide)
      · exact absurd (List.all_eq_true.mp before.2 '#' gap) (by decide)
  · have named : lastVersionName.toList <+: inner :=
      prefix_of_prefix_append_cons hash ⟨_, rest⟩
    obtain ⟨more, rfl⟩ := named
    obtain ⟨upper, b, rfl⟩ := (List.eq_nil_or_concat' lead).resolve_left before.1
    have blank : isBlank b = true := List.all_eq_true.mp before.2 b (by simp)
    exact quiet ⟨b, blank, defineWord ++ upper, more, by simp⟩

/-- The latest version is not found where the name does not stand behind a blank. -/
theorem lastVersion?_append (quiet : ¬Announced front) (back : List Char) :
    lastVersion? (front ++ (defineWord ++ back)) = lastVersion? (defineWord ++ back) := by
  induction front with
  | nil => rfl
  | cons d front ih =>
    have later : ¬Announced front := fun announced =>
      quiet (announced.mono (List.suffix_cons d front).isInfix)
    have none := lastVersionAt?_append (List.cons_ne_nil d front) quiet back
    rw [List.cons_append] at none ⊢
    rw [lastVersion?, none, ih later]

/-! ## Texts of quiet lines -/

theorem quiet_of_not_prefix (solid : ∀ d ∈ text, isBlank d = false)
    (other : ¬lastVersionName.toList <+: text) : Quiet text := by
  rintro c _ ⟨b, blank, found⟩
  rcases List.infix_cons_iff.mp found with begins | inside
  · exact other (List.cons_prefix_cons.mp begins).2
  · have member : b ∈ text := inside.subset List.mem_cons_self
    rw [solid b member] at blank
    contradiction

theorem quiet_of_absent (absent : ¬lastVersionName.toList <:+: text) : Quiet text := by
  rintro c _ ⟨b, _, found⟩
  rcases List.infix_cons_iff.mp found with begins | inside
  · exact absent (List.cons_prefix_cons.mp begins).2.isInfix
  · exact absent ((List.suffix_cons b _).isInfix.trans inside)

theorem Quiet.not_announced (quiet : Quiet text) : ¬Announced text := fun announced =>
  quiet ' ' (by decide) (announced.mono (List.suffix_cons ' ' text).isInfix)

/-- Quiet texts are parted by a blank. -/
theorem Quiet.append_cons (quiet : Quiet front) (too : Quiet back) (blank : isBlank c = true) :
    Quiet (front ++ c :: back) := by
  rintro d first ⟨b, before, found⟩
  have solid : c ∉ lastVersionName.toList := by
    intro member
    have letters : lastVersionName.toList.all (fun d => !isBlank d) = true := by decide
    have letter := List.all_eq_true.mp letters c member
    rw [blank] at letter
    contradiction
  rw [← List.cons_append] at found
  rcases infix_or_infix_of_append_cons solid found with inside | inside
  · exact quiet d first ⟨b, before, inside⟩
  · exact too c blank ⟨b, before, inside⟩

theorem quiet_nil : Quiet [] := quiet_of_absent (by decide)

theorem Quiet.prepend (quiet : Quiet text) (blank : isAllBlank gap = true) :
    Quiet (gap ++ text) := by
  induction gap with
  | nil => exact quiet
  | cons d gap ih =>
    obtain ⟨first, later⟩ := Bool.and_eq_true_iff.mp blank
    exact quiet_nil.append_cons (ih later) first

/-- Quiet texts are parted by blanks. -/
theorem Quiet.append_gap (quiet : Quiet front) (too : Quiet back) (blanks : Gap gap) :
    Quiet (front ++ (gap ++ back)) := by
  obtain ⟨d, gap, rfl⟩ := List.exists_cons_of_ne_nil blanks.1
  obtain ⟨first, later⟩ := Bool.and_eq_true_iff.mp blanks.2
  exact quiet.append_cons (too.prepend later) first

/-- Blanks may stand behind a quiet text. -/
theorem Quiet.append_of_isAllBlank (quiet : Quiet text) (blank : isAllBlank gap = true) :
    Quiet (text ++ gap) := by
  rcases eq_or_ne gap [] with rfl | filled
  · rwa [List.append_nil]
  · simpa using quiet.append_gap quiet_nil ⟨filled, blank⟩

theorem gap_of_mem_lineEnds (ends : gap ∈ lineEnds) : Gap gap := by
  obtain rfl | rfl : gap = ['\n'] ∨ gap = ['\r', '\n'] := by simpa [lineEnds] using ends
  all_goals exact ⟨by decide, by decide⟩

/-- A line of a text stands behind what the lines above it are written as. -/
theorem exists_split_of_renders (renders : Renders (above ++ line :: below) text)
    (quiet : ∀ other ∈ above, Quiet other) : ∃ front back, text = front ++ (line ++ back) ∧
      Quiet front ∧ ∀ d ∈ back.head?, isBlank d = true := by
  induction above generalizing text with
  | nil =>
    cases renders with
    | unfinished => exact ⟨[], [], by simp, quiet_nil, by simp⟩
    | @cons _ ending text _ _ ends _ =>
      refine ⟨[], ending ++ text, by simp, quiet_nil, fun d first => ?_⟩
      have gap := gap_of_mem_lineEnds ends
      obtain ⟨c, ending, rfl⟩ := List.exists_cons_of_ne_nil gap.1
      obtain rfl : c = d := Option.some.inj first
      exact List.all_eq_true.mp gap.2 c List.mem_cons_self
  | cons other above ih =>
    obtain ⟨first, later⟩ := List.forall_mem_cons.mp quiet
    generalize same : other :: above ++ line :: below = lines at renders
    cases renders with
    | nil => cases same
    | unfinished => exact absurd (List.cons.inj same).2 (by simp)
    | @cons _ ending rest _ _ ends renders =>
      obtain ⟨rfl, rfl⟩ := List.cons.inj same
      obtain ⟨front, back, rfl, quiet, behind⟩ := ih renders later
      exact ⟨other ++ (ending ++ front), back, by simp,
        first.append_gap quiet (gap_of_mem_lineEnds ends), behind⟩

/-! ## A line with the definition -/

/-- A line shows a text between blanks. -/
def Shows (text line : List Char) : Prop :=
  ∃ lead trail, isAllBlank lead = true ∧ isAllBlank trail = true ∧ line = lead ++ text ++ trail

/-- A line shows the definition of a name, and nothing else. -/
def ShowsDefinition (name value line : List Char) : Prop :=
  ∃ text, Defines name text value ∧ Shows text line

/-- The latest version is what a line says that defines it, when all lines above are quiet. -/
theorem lastVersion?_of_renders (number : IsNumber version)
    (shows : ShowsDefinition lastVersionName.toList (versionStem.toList ++ version) line)
    (quiet : ∀ other ∈ above, Quiet other) (renders : Renders (above ++ line :: below) text) :
    lastVersion? text = some version := by
  obtain ⟨front, back, rfl, before, behind⟩ := exists_split_of_renders renders quiet
  obtain ⟨shown, defines, lead, trail, leading, trailing, rfl⟩ := shows
  have more := defines.append (trail ++ back)
  have stops : ∀ d ∈ (trail ++ back).head?, isDigit d = false := by
    intro d first
    apply isDigit_of_isBlank
    cases trail with
    | nil => exact behind d first
    | cons c trail =>
      obtain rfl : c = d := Option.some.inj first
      exact List.all_eq_true.mp trailing c List.mem_cons_self
  rw [List.append_assoc] at more
  have read := lastVersion?_of_defines number more stops
  obtain ⟨rest, shown, rfl⟩ : ∃ rest, shown = defineWord ++ rest := by
    obtain ⟨_, _, _, _, rfl⟩ := defines
    exact ⟨_, rfl⟩
  have whole : front ++ (lead ++ (defineWord ++ rest) ++ trail ++ back) =
      (front ++ lead) ++ (defineWord ++ (rest ++ (trail ++ back))) := by simp
  rw [whole, lastVersion?_append (before.append_of_isAllBlank leading).not_announced]
  simpa using read

end Bindery.Header
