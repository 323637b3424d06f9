import Mathlib.Data.List.DropRight
import Bindery.Header.Define
import Bindery.Proofs.Text.Splitting
import Bindery.Proofs.Text.Trimming

/-! # Definitions and lines

A definition is meant to stand on one line. What the reader looks for is a definition that begins a
line, but its blanks may hold line ends, so that the name or the value may be from lines below.
Main statement: a constant is what the first line says that defines it, and nothing below that line
bears on it, exactly when the first definition that begins has its name on its line, with blanks
behind it, and a value there or nothing but blanks in all lines below (`readsOneLine_iff`).
-/

namespace Bindery.Header

open Text

/-- A run of one or more blanks. -/
def Gap (s : List Char) : Prop := s ≠ [] ∧ isAllBlank s = true

/-- A text begins with a definition of a name: `#define`, blanks, the name, blanks, and a rest. -/
def Defines (name text rest : List Char) : Prop :=
  ∃ front back, Gap front ∧ Gap back ∧ text = defineWord ++ (front ++ (name ++ (back ++ rest)))

/-- The first line of a text that is not blank, without the blanks at its ends. -/
def firstText (text : List Char) : List Char := trimEnd ((trimStart text).takeWhile (· ≠ '\n'))

variable {name text rest value line : List Char} {lines above below : List (List Char)}

/-! ## One definition -/

/-- A definition goes on in a longer text. -/
theorem Defines.append (defines : Defines name text rest) (more : List Char) :
    Defines name (text ++ more) (rest ++ more) := by
  obtain ⟨front, back, before, behind, rfl⟩ := defines
  exact ⟨front, back, before, behind, by simp only [List.append_assoc]⟩

/-- What a text defines a name as does not depend on where the blanks are taken to end. -/
theorem Defines.trimStart_eq {other : List Char} (defines : Defines name text rest)
    (again : Defines name text other) : trimStart rest = trimStart other := by
  obtain ⟨front, back, before, behind, rfl⟩ := defines
  obtain ⟨lead, gap, leading, between, same⟩ := again
  have whole : trimStart (name ++ (back ++ rest)) = trimStart (name ++ (gap ++ other)) := by
    rw [← trimStart_append_of_isAllBlank before.2, List.append_cancel_left same,
      trimStart_append_of_isAllBlank leading.2]
  simp only [trimStart, @List.dropWhile_append _ _ name] at whole
  split at whole
  · rwa [List.dropWhile_append_of_pos (List.all_eq_true.mp behind.2),
      List.dropWhile_append_of_pos (List.all_eq_true.mp between.2)] at whole
  · rw [← trimStart_append_of_isAllBlank behind.2, List.append_cancel_left whole,
      trimStart_append_of_isAllBlank between.2]

theorem Defines.trim_eq {other : List Char} (defines : Defines name text rest)
    (again : Defines name text other) : trim rest = trim other := by
  rw [trim, defines.trimStart_eq again, trim]

/-- What follows a run of blanks, however long. -/
theorem afterBlanks?_eq_some_iff : afterBlanks? text = some value ↔
    ∃ back rest, Gap back ∧ text = back ++ rest ∧ value = trimStart rest := by
  constructor
  · intro found
    refine ⟨text.takeWhile isBlank, trimStart text, ⟨?_, ?_⟩, ?_, ?_⟩
    · intro none
      cases text with
      | nil => contradiction
      | cons c text =>
        simp only [afterBlanks?] at found
        split at found
        · next blank => simp [blank] at none
        · contradiction
    · exact List.all_eq_true.mpr fun c member => List.mem_takeWhile_imp member
    · exact List.takeWhile_append_dropWhile.symm
    · have same : trimStart text = value := by
        cases text with
        | nil => contradiction
        | cons c text =>
          simp only [afterBlanks?] at found
          split at found
          · exact Option.some.inj found
          · contradiction
      rw [← same]
      exact (List.dropWhile_idempotent ..).symm
  · rintro ⟨back, rest, ⟨some, blank⟩, rfl, rfl⟩
    cases back with
    | nil => contradiction
    | cons c back =>
      have first : isBlank c = true := (List.all_eq_true.mp blank) c List.mem_cons_self
      rw [List.cons_append, afterBlanks?, if_pos first, ← List.cons_append,
        trimStart_append_of_isAllBlank blank]

/-- What follows blanks, when it does not begin with one. -/
theorem afterBlanks?_eq_some_iff_of_solid (solid : ∃ c ∈ value.head?, isBlank c = false) :
    afterBlanks? text = some value ↔ ∃ gap, Gap gap ∧ text = gap ++ value := by
  rw [afterBlanks?_eq_some_iff]
  constructor
  · rintro ⟨gap, rest, ⟨some, blank⟩, rfl, rfl⟩
    refine ⟨gap ++ rest.takeWhile isBlank, ⟨?_, ?_⟩, ?_⟩
    · exact List.append_ne_nil_of_left_ne_nil some _
    · rw [isAllBlank, List.all_append, Bool.and_eq_true]
      exact ⟨blank, List.all_takeWhile⟩
    · rw [List.append_assoc, trimStart, List.takeWhile_append_dropWhile]
  · rintro ⟨gap, blank, rfl⟩
    refine ⟨gap, value, blank, rfl, (trimStart_eq_self fun c first => ?_).symm⟩
    obtain ⟨other, head, solid⟩ := solid
    rwa [Option.mem_unique first head]

/-- The value behind a name is the first text there, after at least one blank. -/
theorem valueAfterName?_eq_some_iff : valueAfterName? text = some value ↔
    ∃ back rest, Gap back ∧ text = back ++ rest ∧ value = firstText rest := by
  simp only [valueAfterName?, Option.map_eq_some_iff, afterBlanks?_eq_some_iff, firstText]
  constructor
  · rintro ⟨_, ⟨back, rest, behind, same, rfl⟩, rfl⟩
    exact ⟨back, rest, behind, same, rfl⟩
  · rintro ⟨back, rest, behind, same, rfl⟩
    exact ⟨_, ⟨back, rest, behind, same, rfl⟩, rfl⟩

/-- What is found is defined there. -/
theorem exists_defines_of_definitionAt? (read : definitionAt? name text = some value) :
    ∃ rest, Defines name text rest ∧ value = firstText rest := by
  simp only [definitionAt?, Option.bind_eq_bind, Option.bind_eq_some_iff,
    after?_eq_some_iff] at read
  obtain ⟨behind, rfl, kept⟩ := read
  obtain ⟨count, member, valued⟩ := List.exists_of_findSome?_eq_some kept
  simp only [List.mem_reverse, List.mem_range] at member
  obtain ⟨after, named, valued⟩ := Option.bind_eq_some_iff.mp valued
  obtain ⟨back, rest, gap, rfl, rfl⟩ := valueAfterName?_eq_some_iff.mp valued
  rw [after?_eq_some_iff] at named
  have blanks : behind.take (count + 1) <+: behind.takeWhile isBlank :=
    List.prefix_of_prefix_length_le (List.take_prefix _ _) (List.takeWhile_prefix _)
      (Nat.le_trans (List.length_take_le _ _) member)
  refine ⟨rest, ⟨behind.take (count + 1), back, ⟨?_, ?_⟩, gap, ?_⟩, rfl⟩
  · have long := (List.takeWhile_prefix (l := behind) isBlank).length_le
    apply List.ne_nil_of_length_pos
    rw [List.length_take]
    omega
  · apply List.all_eq_true.mpr
    intro c taken
    exact List.mem_takeWhile_imp (blanks.subset taken)
  · rw [← named, List.take_append_drop]

/-- Where there is a definition, one is found. -/
theorem Defines.isSome_definitionAt? {rest : List Char} (defines : Defines name text rest) :
    (definitionAt? name text).isSome := by
  obtain ⟨front, back, before, behind, rfl⟩ := defines
  have word := after?_eq_some_iff.mpr
    (rfl : defineWord ++ (front ++ (name ++ (back ++ rest))) = defineWord ++ _)
  have long : front.length ≤ ((front ++ (name ++ (back ++ rest))).takeWhile isBlank).length := by
    rw [List.takeWhile_append_of_pos (List.all_eq_true.mp before.2), List.length_append]
    exact Nat.le_add_right _ _
  have first := List.length_pos_of_ne_nil before.1
  simp only [definitionAt?, Option.bind_eq_bind, word, Option.bind_some,
    List.findSome?_isSome_iff, List.mem_reverse, List.mem_range]
  refine ⟨front.length - 1, by omega, ?_⟩
  rw [Nat.sub_add_cancel first, List.drop_left, after?_eq_some_iff.mpr rfl, Option.bind_some,
    valueAfterName?_eq_some_iff.mpr ⟨back, rest, behind, rfl, rfl⟩]
  rfl

/-- A definition is found where there is one, and the value is the first text behind it. -/
theorem definitionAt?_eq_some_iff : definitionAt? name text = some value ↔
    ∃ rest, Defines name text rest ∧ value = firstText rest := by
  constructor
  · exact exists_defines_of_definitionAt?
  · -- The definition that is found has the value of any other one that is there.
    rintro ⟨rest, defines, rfl⟩
    obtain ⟨found, read⟩ := Option.isSome_iff_exists.mp defines.isSome_definitionAt?
    obtain ⟨other, again, rfl⟩ := exists_defines_of_definitionAt? read
    rw [read, firstText, firstText, defines.trimStart_eq again]

/-! ## One line after the other -/

/-- Lines put together, with line ends between them. -/
def unlines (lines : List (List Char)) : List Char := ['\n'].intercalate lines

theorem unlines_cons_cons (line next : List Char) (below : List (List Char)) :
    unlines (line :: next :: below) = line ++ '\n' :: unlines (next :: below) := by
  simp [unlines]

theorem unlines_singleton (line : List Char) : unlines [line] = line := by
  simp [unlines]

/-- A text is its lines put together. -/
theorem unlines_splitOn (text : List Char) : unlines (splitOn '\n' text) = text := by
  induction text with
  | nil => rfl
  | cons c text ih =>
    cases pieces : splitOn '\n' text with
    | nil => exact absurd pieces (splitOn_ne_nil _ _)
    | cons line below =>
      rw [pieces] at ih
      by_cases cut : c = '\n'
      · rw [splitOn, if_pos cut, pieces, unlines_cons_cons, ih, cut, List.nil_append]
      · simp only [splitOn, if_neg cut, pieces]
        cases below with
        | nil => rw [unlines_singleton] at ih ⊢; rw [ih]
        | cons next below => rw [unlines_cons_cons] at ih ⊢; rw [List.cons_append, ih]

/-- Nothing is looked for before the next line begins. -/
theorem firstDefinition?_within (unbroken : '\n' ∉ line) (text : List Char) :
    firstDefinition? name false (line ++ text) = firstDefinition? name false text := by
  induction line with
  | nil => rfl
  | cons c line ih =>
    obtain ⟨differs, later⟩ := List.ne_and_not_mem_of_not_mem_cons unbroken
    rw [List.cons_append, firstDefinition?, decide_eq_false (Ne.symm differs)]
    exact ih later

/-- A line begins a definition, or the next one is looked at. -/
theorem firstDefinition?_cons (c : Char) (text : List Char) :
    firstDefinition? name true (c :: text) =
      (definitionAt? name (c :: text)).or (firstDefinition? name (c = '\n') text) := by
  rw [firstDefinition?, if_pos rfl]
  cases definitionAt? name (c :: text) <;> rfl

theorem firstDefinition?_line (unbroken : '\n' ∉ line) :
    firstDefinition? name true line = definitionAt? name line := by
  cases line with
  | nil => rfl
  | cons c line =>
    obtain ⟨differs, later⟩ := List.ne_and_not_mem_of_not_mem_cons unbroken
    have nothing : firstDefinition? name false (line ++ []) = firstDefinition? name false [] :=
      firstDefinition?_within later []
    rw [List.append_nil] at nothing
    rw [firstDefinition?_cons, decide_eq_false (Ne.symm differs), nothing]
    exact Option.or_none

theorem firstDefinition?_append (unbroken : '\n' ∉ line) (text : List Char) :
    firstDefinition? name true (line ++ '\n' :: text) =
      (definitionAt? name (line ++ '\n' :: text)).or (firstDefinition? name true text) := by
  cases line with
  | nil => rw [List.nil_append, firstDefinition?_cons, decide_eq_true rfl]
  | cons c line =>
    obtain ⟨differs, later⟩ := List.ne_and_not_mem_of_not_mem_cons unbroken
    have next : firstDefinition? name false ('\n' :: text) = firstDefinition? name true text := rfl
    rw [List.cons_append, firstDefinition?_cons, decide_eq_false (Ne.symm differs),
      firstDefinition?_within later, next]

/-- The text of some lines begins with a definition. It may end on a later line than it begins. -/
def Begins (name : List Char) (lines : List (List Char)) : Prop :=
  ∃ rest, Defines name (unlines lines) rest

/-- Above a line at which a definition begins there are only lines at which none begins. -/
inductive BeginsFirst (name line : List Char) (below : List (List Char)) :
    (above : List (List Char)) → Prop
  | here : Begins name (line :: below) → BeginsFirst name line below []
  | later {other : List Char} {above : List (List Char)} :
      ¬Begins name (other :: (above ++ line :: below)) → BeginsFirst name line below above →
      BeginsFirst name line below (other :: above)

theorem definitionAt?_eq_none (none : ¬Begins name lines) :
    definitionAt? name (unlines lines) = Option.none := by
  apply Option.eq_none_iff_forall_ne_some.mpr
  intro value found
  obtain ⟨rest, defines, _⟩ := definitionAt?_eq_some_iff.mp found
  exact none ⟨rest, defines⟩

/-- The value is that of the first definition that begins. -/
theorem BeginsFirst.firstDefinition?_eq (first : BeginsFirst name line below above)
    (unbroken : ∀ other ∈ above ++ line :: below, '\n' ∉ other)
    (defines : Defines name (unlines (line :: below)) rest) :
    firstDefinition? name true (unlines (above ++ line :: below)) = some (firstText rest) := by
  induction first with
  | here _ =>
    have found := definitionAt?_eq_some_iff.mpr ⟨rest, defines, rfl⟩
    have own := unbroken line List.mem_cons_self
    cases below with
    | nil => rw [List.nil_append, unlines_singleton, firstDefinition?_line own,
        ← unlines_singleton line, found]
    | cons next below =>
      rw [List.nil_append, unlines_cons_cons, firstDefinition?_append own, ← unlines_cons_cons,
        found, Option.some_or]
  | @later other above none _ ih =>
    have passed := definitionAt?_eq_none none
    obtain ⟨own, rest⟩ := List.forall_mem_cons.mp unbroken
    obtain ⟨next, after, same⟩ := List.exists_cons_of_ne_nil
      (List.append_ne_nil_of_right_ne_nil above (List.cons_ne_nil line below))
    rw [List.cons_append, same, unlines_cons_cons, firstDefinition?_append own,
      ← unlines_cons_cons, ← same, passed, Option.none_or]
    exact ih rest

/-- Where a value is found, a definition begins. -/
theorem exists_beginsFirst (begins : Begins name (line :: below)) (above : List (List Char)) :
    ∃ upper first lower, above ++ line :: below = upper ++ first :: lower ∧
      BeginsFirst name first lower upper := by
  induction above with
  | nil => exact ⟨[], line, below, rfl, .here begins⟩
  | cons other above ih =>
    by_cases earlier : Begins name (other :: (above ++ line :: below))
    · exact ⟨[], other, above ++ line :: below, rfl, .here earlier⟩
    · obtain ⟨upper, first, lower, same, least⟩ := ih
      rw [same] at earlier
      exact ⟨other :: upper, first, lower, by rw [List.cons_append, same, List.cons_append],
        .later earlier least⟩

theorem exists_begins_of_firstDefinition? (unbroken : ∀ other ∈ lines, '\n' ∉ other)
    (found : firstDefinition? name true (unlines lines) = some value) :
    ∃ above line below, lines = above ++ line :: below ∧ Begins name (line :: below) := by
  induction lines with
  | nil => contradiction
  | cons line below ih =>
    by_cases begins : Begins name (line :: below)
    · exact ⟨[], line, below, rfl, begins⟩
    have passed := definitionAt?_eq_none begins
    obtain ⟨own, rest⟩ := List.forall_mem_cons.mp unbroken
    cases below with
    | nil =>
      rw [unlines_singleton] at passed found
      rw [firstDefinition?_line own, passed] at found
      contradiction
    | cons next below =>
      rw [unlines_cons_cons] at passed found
      rw [firstDefinition?_append own, passed, Option.none_or] at found
      obtain ⟨above, first, lower, same, begins⟩ := ih rest found
      exact ⟨line :: above, first, lower, by rw [same, List.cons_append], begins⟩

/-! ## The value and its line -/

/-- What follows a line: a line end and the lines below, if there are any. -/
def ending : (below : List (List Char)) → List Char
  | [] => []
  | next :: below => '\n' :: unlines (next :: below)

theorem unlines_cons (line : List Char) (below : List (List Char)) :
    unlines (line :: below) = line ++ ending below := by
  cases below with
  | nil => rw [unlines_singleton, ending, List.append_nil]
  | cons next below => rw [unlines_cons_cons, ending]

theorem ending_of_ne_nil (some : below ≠ []) : ending below = '\n' :: unlines below := by
  cases below with
  | nil => contradiction
  | cons next below => rfl

theorem takeWhile_ending (below : List (List Char)) :
    (ending below).takeWhile (· ≠ '\n') = [] := by
  cases below <;> simp [ending]

theorem isAllBlank_ending_iff :
    isAllBlank (ending below) = true ↔ ∀ other ∈ below, isAllBlank other = true := by
  induction below with
  | nil => simp [ending, isAllBlank]
  | cons next below ih =>
    have feed : isBlank '\n' = true := by decide
    rw [ending, unlines_cons, List.forall_mem_cons, ← ih]
    simp [isAllBlank, feed]

theorem firstText_eq_nil_iff : firstText text = [] ↔ isAllBlank text = true := by
  have whole : isAllBlank text = true ↔ trimStart text = [] := by
    rw [trimStart, List.dropWhile_eq_nil_iff, isAllBlank, List.all_eq_true]
  rw [whole, firstText]
  cases kept : trimStart text with
  | nil => exact iff_of_true rfl rfl
  | cons c more =>
    have solid : ¬isBlank c = true := by
      have head := List.head?_dropWhile_not isBlank text
      rw [← trimStart, kept] at head
      simpa using head
    have stays : c ≠ '\n' := by
      rintro rfl
      exact solid (by decide)
    refine iff_of_false ?_ (List.cons_ne_nil _ _)
    rw [List.takeWhile_cons_of_pos (by simpa using stays), trimEnd, List.reverse_eq_nil_iff,
      List.dropWhile_eq_nil_iff]
    intro blank
    exact solid (blank c (by simp))

/-- A value that is not blank ends with its line. -/
theorem firstText_append_of_solid (unbroken : '\n' ∉ rest) (solid : ¬isAllBlank rest = true)
    (below : List (List Char)) : firstText (rest ++ ending below) = trim rest := by
  have kept : ¬(rest.dropWhile isBlank).isEmpty = true := by
    rw [List.isEmpty_iff, List.dropWhile_eq_nil_iff, ← List.all_eq_true]
    exact solid
  have inside : ∀ c ∈ trimStart rest, decide (c ≠ '\n') = true := by
    intro c member
    rw [decide_eq_true_iff]
    rintro rfl
    exact unbroken ((List.dropWhile_sublist _).subset member)
  have cut : trimStart (rest ++ ending below) = trimStart rest ++ ending below := by
    rw [trimStart, List.dropWhile_append, if_neg kept, trimStart]
  rw [firstText, cut, List.takeWhile_append_of_pos inside, takeWhile_ending, List.append_nil, trim]

theorem firstText_append_of_blank (blank : isAllBlank rest = true) (below : List (List Char)) :
    firstText (rest ++ ending below) = firstText (ending below) := by
  rw [firstText, trimStart_append_of_isAllBlank blank, firstText]

theorem trim_eq_nil (blank : isAllBlank rest = true) : trim rest = [] := by
  rw [trim, trimStart, List.dropWhile_eq_nil_iff.mpr (List.all_eq_true.mp blank), trimEnd_nil]

/-- The value of a line that defines a name is found there unless it is blank and something else is
not. -/
theorem firstText_eq_trim_iff (unbroken : '\n' ∉ rest) :
    firstText (rest ++ ending below) = trim rest ↔
      (isAllBlank rest = true → ∀ other ∈ below, isAllBlank other = true) := by
  by_cases blank : isAllBlank rest = true
  · rw [firstText_append_of_blank blank, trim_eq_nil blank, firstText_eq_nil_iff,
      isAllBlank_ending_iff]
    exact ⟨fun empty _ => empty, fun empty => empty blank⟩
  · exact iff_of_true (firstText_append_of_solid unbroken blank below) fun empty =>
      absurd empty blank

/-! ## Constants -/

theorem Defines.unbroken (defines : Defines name line rest) (unbroken : '\n' ∉ line) :
    '\n' ∉ rest := by
  obtain ⟨front, back, _, _, rfl⟩ := defines
  intro inside
  apply unbroken
  simp only [List.mem_append, inside, or_true]

/-- A line that defines a name begins a definition, whatever stands below it. -/
theorem Defines.begins (defines : Defines name line rest) (below : List (List Char)) :
    Begins name (line :: below) :=
  ⟨rest ++ ending below, by rw [unlines_cons]; exact defines.append _⟩

theorem unlines_append (above : List (List Char)) (line : List Char)
    (below : List (List Char)) :
    unlines (above ++ line :: below) = unlines (above ++ [line]) ++ ending below := by
  induction above with
  | nil => rw [List.nil_append, List.nil_append, unlines_cons, unlines_singleton]
  | cons other above ih =>
    rw [List.cons_append, List.cons_append, unlines_cons, unlines_cons,
      ending_of_ne_nil (List.append_ne_nil_of_right_ne_nil above (List.cons_ne_nil line below)),
      ending_of_ne_nil (List.append_ne_nil_of_right_ne_nil above (List.cons_ne_nil line [])), ih,
      List.append_assoc, List.cons_append]

/-- Lines at the end cannot take the beginning of a definition away. -/
theorem Begins.append (begins : Begins name (above ++ [line])) (below : List (List Char)) :
    Begins name (above ++ line :: below) := by
  obtain ⟨rest, defines⟩ := begins
  exact ⟨rest ++ ending below, by rw [unlines_append]; exact defines.append _⟩

namespace BeginsFirst

theorem begins (first : BeginsFirst name line below above) : Begins name (line :: below) := by
  induction first with
  | here begins => exact begins
  | later _ _ ih => exact ih

theorem not_begins (first : BeginsFirst name line below above) {upper lower : List (List Char)}
    {other : List Char} (split : above = upper ++ other :: lower) :
    ¬Begins name (other :: (lower ++ line :: below)) := by
  induction first generalizing upper with
  | here _ => simp at split
  | later none _ ih =>
    rcases List.cons_eq_append_iff.mp split with ⟨_, same⟩ | ⟨later, _, same⟩
    · obtain ⟨rfl, rfl⟩ := List.cons.inj same
      exact none
    · exact ih same

theorem not_defines (first : BeginsFirst name line below above) {other : List Char}
    (higher : other ∈ above) (rest : List Char) : ¬Defines name other rest := by
  obtain ⟨upper, lower, split⟩ := List.append_of_mem higher
  intro defines
  exact first.not_begins split (defines.begins _)

/-- Without the lines below the first one at which a definition begins, that line is still the first
one, or nothing begins. -/
theorem cut (first : BeginsFirst name line below above) (begins : Begins name [line]) :
    BeginsFirst name line [] above := by
  induction first with
  | here _ => exact .here begins
  | @later other above none _ ih =>
    refine .later (fun begun => none ?_) ih
    rw [← List.cons_append] at begun ⊢
    exact begun.append below

/-- The only line that can begin a definition when those below it are left out. -/
theorem begins_cut (first : BeginsFirst name line below above)
    {upper lower : List (List Char)} {other : List Char}
    (split : above ++ [line] = upper ++ other :: lower) (begun : Begins name (other :: lower)) :
    Begins name [line] := by
  rcases List.eq_nil_or_concat lower with rfl | ⟨inner, last, rfl⟩
  · obtain ⟨_, same⟩ := List.append_inj' split rfl
    rwa [same]
  · rw [List.concat_eq_append, ← List.cons_append, ← List.append_assoc] at split
    obtain ⟨higher, same⟩ := List.append_inj' split rfl
    obtain rfl := List.singleton_inj.mp same
    rw [List.concat_eq_append, ← List.cons_append] at begun
    exact absurd (begun.append below) (first.not_begins higher)

end BeginsFirst

/-- There is no other first line that defines a name than the one at which a definition begins
first, if that one does. -/
theorem BeginsFirst.eq_of_first (first : BeginsFirst name line below above)
    (defines : Defines name line rest) {upper lower : List (List Char)} {other more : List Char}
    (same : above ++ line :: below = upper ++ other :: lower)
    (none : ∀ higher ∈ upper, ∀ r, ¬Defines name higher r) (again : Defines name other more) :
    other = line := by
  rcases List.append_eq_append_iff.mp same with ⟨between, split, rest⟩ | ⟨between, split, rest⟩
  · cases between with
    | nil => exact (List.cons.inj rest).1.symm
    | cons top between =>
      obtain ⟨rfl, _⟩ := List.cons.inj rest
      exact absurd defines (none line (by simp [split]) _)
  · cases between with
    | nil => exact (List.cons.inj rest).1
    | cons top between =>
      obtain ⟨rfl, _⟩ := List.cons.inj rest
      exact absurd again (first.not_defines (by simp [split]) _)

section Constant

variable {header key : String}

/-- The value of a constant is that of the first definition that begins. -/
theorem BeginsFirst.constant_eq (first : BeginsFirst key.toList line below above)
    (whole : header.toList = unlines (above ++ line :: below))
    (unbroken : ∀ other ∈ above ++ line :: below, '\n' ∉ other)
    (defines : Defines key.toList (unlines (line :: below)) rest) :
    constant header key = .ok (String.ofList (firstText rest)) := by
  rw [constant, whole, first.firstDefinition?_eq unbroken defines]

/-- If the line at which the definition begins defines the constant, its value is what that line
says, unless that is nothing and something stands below. -/
theorem BeginsFirst.constant_eq_trim_iff (first : BeginsFirst key.toList line below above)
    (whole : header.toList = unlines (above ++ line :: below))
    (unbroken : ∀ other ∈ above ++ line :: below, '\n' ∉ other)
    (defines : Defines key.toList line rest) :
    constant header key = .ok (String.ofList (trim rest)) ↔
      (isAllBlank rest = true → ∀ other ∈ below, isAllBlank other = true) := by
  have longer := defines.append (ending below)
  rw [← unlines_cons] at longer
  rw [first.constant_eq whole unbroken longer, Except.ok.injEq, String.ofList_inj]
  exact firstText_eq_trim_iff (defines.unbroken (unbroken line (by simp)))

/-- A constant has a value only if a definition begins somewhere. -/
theorem exists_begins_of_constant {value : String} (whole : header.toList = unlines lines)
    (unbroken : ∀ line ∈ lines, '\n' ∉ line) (found : constant header key = .ok value) :
    ∃ above line below, lines = above ++ line :: below ∧ Begins key.toList (line :: below) := by
  rw [constant, whole] at found
  cases read : firstDefinition? key.toList true (unlines lines) with
  | none =>
    rw [read] at found
    contradiction
  | some value => exact exists_begins_of_firstDefinition? unbroken read

theorem constant_eq_error (none : ∀ value, constant header key ≠ .ok value) :
    constant header key = .error (.missingConstant key) := by
  rw [constant] at none ⊢
  cases read : firstDefinition? key.toList true header.toList with
  | none => rfl
  | some value => exact absurd (by rw [read]) (none (String.ofList value))

end Constant

/-- A constant is what one line says. -/
structure ReadsOneLine (header name : String) : Prop where
  /-- There is a value exactly when a line defines the name, and it is that of the first such
  line. -/
  value_iff : ∀ value, constant header name = .ok value ↔
    ∃ above line below rest, splitOn '\n' header.toList = above ++ line :: below ∧
      (∀ other ∈ above, ∀ r, ¬Defines name.toList other r) ∧ Defines name.toList line rest ∧
      value = String.ofList (trim rest)
  missing : (∀ line ∈ splitOn '\n' header.toList, ∀ rest, ¬Defines name.toList line rest) →
    constant header name = .error (.missingConstant name)
  /-- What stands below the line at which the definition begins does not bear on the value. -/
  alone : ∀ above line below, splitOn '\n' header.toList = above ++ line :: below →
    BeginsFirst name.toList line below above →
    constant header name = constant (String.ofList (unlines (above ++ [line]))) name

section OneLine

variable {header name : String} {above below : List (List Char)} {line : List Char}

theorem toList_eq_unlines (split : splitOn '\n' header.toList = lines) :
    header.toList = unlines lines := by
  rw [← split, unlines_splitOn]

theorem unbroken_of_splitOn (split : splitOn '\n' header.toList = lines) :
    ∀ line ∈ lines, '\n' ∉ line := by
  intro line member
  rw [← split] at member
  exact not_mem_of_mem_splitOn member

/-- What one line says ends on the line at which it begins, and is missed by no other. -/
theorem ReadsOneLine.exists_defines (reads : ReadsOneLine header name)
    (split : splitOn '\n' header.toList = above ++ line :: below)
    (first : BeginsFirst name.toList line below above) :
    ∃ rest, Defines name.toList line rest ∧
      (isAllBlank rest = true → ∀ other ∈ below, isAllBlank other = true) := by
  have unbroken := unbroken_of_splitOn split
  have whole := toList_eq_unlines split
  have shorter : ∀ other ∈ above ++ [line], '\n' ∉ other := by
    intro other member
    exact unbroken other ((List.Sublist.append_left (by simp) above).subset member)
  obtain ⟨whatever, begun⟩ := first.begins
  have value := first.constant_eq whole unbroken begun
  -- The lines down to this one have the value too, so that the definition ends on it.
  have alone := reads.alone above line below split first
  rw [value] at alone
  obtain ⟨upper, other, lower, cut, begins⟩ :=
    exists_begins_of_constant String.toList_ofList shorter alone.symm
  obtain ⟨rest, defines⟩ := first.begins_cut cut begins
  rw [unlines_singleton] at defines
  obtain ⟨_, _, _, more, same, none, again, said⟩ := (reads.value_iff _).mp value
  obtain rfl := first.eq_of_first defines (split.symm.trans same) none again
  refine ⟨rest, defines, (first.constant_eq_trim_iff whole unbroken defines).mp ?_⟩
  rw [value, said, again.trim_eq defines]

/-- A constant is what one line says if the line at which its definition begins has the value. -/
theorem readsOneLine_of_said
    (said : ∀ above line below, splitOn '\n' header.toList = above ++ line :: below →
      BeginsFirst name.toList line below above →
      ∃ rest, Defines name.toList line rest ∧
        constant header name = .ok (String.ofList (trim rest))) : ReadsOneLine header name := by
  have unbroken := unbroken_of_splitOn (Eq.refl (splitOn '\n' header.toList))
  have whole := toList_eq_unlines (Eq.refl (splitOn '\n' header.toList))
  constructor
  case value_iff =>
    intro value
    constructor
    · intro found
      obtain ⟨upper, other, lower, split, begins⟩ :=
        exists_begins_of_constant whole unbroken found
      obtain ⟨above, line, below, same, first⟩ := exists_beginsFirst begins upper
      obtain ⟨rest, defines, value_eq⟩ := said above line below (split.trans same) first
      rw [value_eq] at found
      exact ⟨above, line, below, rest, split.trans same, fun _ => first.not_defines, defines,
        (Except.ok.inj found).symm⟩
    · rintro ⟨upper, other, lower, more, split, none, again, rfl⟩
      obtain ⟨above, line, below, same, first⟩ := exists_beginsFirst (again.begins lower) upper
      obtain ⟨rest, defines, value_eq⟩ := said above line below (split.trans same) first
      obtain rfl := first.eq_of_first defines same.symm none again
      rw [value_eq, defines.trim_eq again]
  case missing =>
    intro undefined
    apply constant_eq_error
    intro value found
    obtain ⟨upper, other, lower, split, begins⟩ :=
      exists_begins_of_constant whole unbroken found
    obtain ⟨above, line, below, same, first⟩ := exists_beginsFirst begins upper
    obtain ⟨rest, defines, _⟩ := said above line below (split.trans same) first
    exact undefined line (by rw [split, same]; simp) rest defines
  case alone =>
    intro above line below split first
    obtain ⟨rest, defines, value_eq⟩ := said above line below split first
    have own : BeginsFirst name.toList line [] above := first.cut (defines.begins [])
    have shorter : ∀ other ∈ above ++ [line], '\n' ∉ other := by
      intro other member
      rw [split] at unbroken
      exact unbroken other ((List.Sublist.append_left (by simp) above).subset member)
    rw [value_eq]
    exact ((own.constant_eq_trim_iff String.toList_ofList shorter defines).mpr (by simp)).symm

end OneLine

/-- A constant is what one line says exactly when the line at which its definition begins defines
it, with a value or else with nothing but blanks below. -/
theorem readsOneLine_iff (header name : String) : ReadsOneLine header name ↔
    ∀ above line below, splitOn '\n' header.toList = above ++ line :: below →
      BeginsFirst name.toList line below above →
      ∃ rest, Defines name.toList line rest ∧
        (isAllBlank rest = true → ∀ other ∈ below, isAllBlank other = true) := by
  constructor
  · exact fun reads above line below split first => reads.exists_defines split first
  · intro stays
    apply readsOneLine_of_said
    intro above line below split first
    obtain ⟨rest, defines, empty⟩ := stays above line below split first
    have value := first.constant_eq_trim_iff (toList_eq_unlines split) (unbroken_of_splitOn split)
      defines
    exact ⟨rest, defines, value.mpr empty⟩

/-- A definition without a value takes the line that follows. -/
theorem not_readsOneLine_of_no_value :
    ¬ReadsOneLine "#define CEF_COMMIT_HASH\n#define CHROME_VERSION_MAJOR 134\n"
      "CEF_COMMIT_HASH" := by
  intro reads
  have nothing : ∀ line ∈ splitOn '\n'
      "#define CEF_COMMIT_HASH\n#define CHROME_VERSION_MAJOR 134\n".toList,
      definitionAt? "CEF_COMMIT_HASH".toList line = none := by
    decide +kernel
  have missing := reads.missing fun line member rest defines => by
    have read := definitionAt?_eq_some_iff.mpr ⟨rest, defines, rfl⟩
    rw [nothing line member] at read
    contradiction
  have found : constant "#define CEF_COMMIT_HASH\n#define CHROME_VERSION_MAJOR 134\n"
      "CEF_COMMIT_HASH" = .ok "#define CHROME_VERSION_MAJOR 134" := by
    decide +kernel
  rw [missing] at found
  contradiction

end Bindery.Header
