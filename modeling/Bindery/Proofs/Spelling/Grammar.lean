import Bindery.Generator
import Bindery.Proofs.Text.Trimming

/-! # The grammar of native type spellings

A spelling is a bare name with an optional `const`, an optional `struct` or `enum` and an optional
underscore on its left, and a number of indirection marks on its right, each with an optional
`const` before it. Blanks stand after the words on the left and anywhere between the marks. Main
statements: reading a spelling gives its bare name and the number of its marks
(`ofChars_of_spells`), hence its target type is that of the bare name with as many marks, and the
log says so exactly when no table has the name (`map_of_spells`).
-/

namespace Bindery

namespace Spelling

/-- The words that may stand on the left of a name beside `const`. -/
def tagWords : List (List Char) := [['s', 't', 'r', 'u', 'c', 't'], ['e', 'n', 'u', 'm']]

/-- A name as it may stand in a spelling: it has neither blanks nor indirection marks, does not
begin with an underscore, and is none of the words on the left. -/
structure IsBare (name : List Char) : Prop where
  nonempty : name ≠ []
  solid : ∀ c ∈ name, Text.isBlank c = false
  unmarked : mark ∉ name
  shown : name.head? ≠ some '_'
  noWord : name ≠ constWord ∧ name ∉ tagWords

/-- One of some words with blanks after it, or nothing. -/
inductive Optional (words : List (List Char)) : List Char → Prop
  | absent : Optional words []
  | present {word gap : List Char} : word ∈ words → gap ≠ [] → Text.isAllBlank gap = true →
      Optional words (word ++ gap)

/-- An underscore or nothing. -/
def Underscore (s : List Char) : Prop := s = [] ∨ s = ['_']

/-- Some indirection marks, with blanks around them and an optional `const` before each. Before the
first mark the word needs a blank on its left, as it would be part of the name otherwise. -/
inductive Marks : Nat → List Char → Prop
  | none : Marks 0 []
  | plain {depth : Nat} {s gap : List Char} : Marks depth s → Text.isAllBlank gap = true →
      Marks (depth + 1) (s ++ gap ++ [mark])
  | const {depth : Nat} {s gap after : List Char} : Marks depth s → Text.isAllBlank gap = true →
      (depth = 0 → gap ≠ []) → Text.isAllBlank after = true →
      Marks (depth + 1) (s ++ gap ++ constWord ++ after ++ [mark])

/-- The spellings of a bare name with some indirections. -/
inductive Spells (name : List Char) (depth : Nat) : List Char → Prop
  | intro {lead const tag underscore marks trail : List Char} : Text.isAllBlank lead = true →
      Optional [constWord] const → Optional tagWords tag → Underscore underscore →
      Marks depth marks → Text.isAllBlank trail = true →
      Spells name depth (lead ++ (const ++ (tag ++ (underscore ++ name)) ++ marks) ++ trail)

variable {name front s gap : List Char} {depth : Nat}

/-! ## The right end -/

theorem Marks.eq_nil (marks : Marks 0 s) : s = [] := by
  cases marks
  rfl

theorem Marks.getLast?_eq (marks : Marks (depth + 1) s) : s.getLast? = some mark := by
  cases marks with
  | plain => exact List.getLast?_concat
  | const => exact List.getLast?_concat

theorem peel_of_head?_ne (other : s.head? ≠ some mark) : peel s = ⟨s, 0⟩ := by
  unfold peel
  split
  · rfl
  · next c rest =>
    have differs : c ≠ mark := fun same => other (congrArg some same)
    rw [if_neg differs]

theorem peel_mark (rest : List Char) :
    peel (mark :: rest) = ⟨(peel (dropConst (Text.trimStart rest))).bare,
      (peel (dropConst (Text.trimStart rest))).depth + 1⟩ := by
  rw [peel, if_pos rfl]

theorem dropConst_of_head?_ne (other : s.head? ≠ constWord.reverse.head?) : dropConst s = s := by
  unfold dropConst
  split
  · next found =>
    rw [Text.after?_eq_some_iff.mp found] at other
    exact absurd rfl other
  · next found =>
    rw [Text.after?_eq_some_iff.mp found] at other
    exact absurd rfl other
  · rfl

/-- The word is taken off together with the blanks on its left, where a blank or an indirection mark
stands there. -/
theorem dropConst_word (blank : Text.isAllBlank gap = true) (nonempty : s ≠ [])
    (solid : ∀ c ∈ s.head?, Text.isBlank c = false) (apart : gap = [] → s.head? = some mark) :
    dropConst (constWord.reverse ++ (gap ++ s)) = s := by
  have found : Text.after? constWord.reverse (constWord.reverse ++ (gap ++ s)) = some (gap ++ s) :=
    Text.after?_eq_some_iff.mpr rfl
  have trimmed : Text.trimStart (gap ++ s) = s := by
    rw [Text.trimStart_append_of_isAllBlank blank, Text.trimStart_eq_self solid]
  unfold dropConst
  rw [found]
  cases gap with
  | nil =>
    cases s with
    | nil => contradiction
    | cons c rest =>
      have boundary : c = mark := Option.some.inj (apart rfl)
      exact (if_pos (.inr boundary)).trans trimmed
  | cons c rest =>
    have boundary : Text.isBlank c = true := List.all_eq_true.mp blank c List.mem_cons_self
    exact (if_pos (.inl boundary)).trans trimmed

/-- Where a bare name and what stands before it end in `const`, the word is the end of a longer
name. -/
theorem IsBare.exists_of_append_eq (bare : IsBare name)
    (boundary : ∀ c ∈ front.getLast?, c ∉ constWord) {before : List Char}
    (same : front ++ name = before ++ constWord) :
    ∃ own, own ≠ [] ∧ before = front ++ own ∧ name = own ++ constWord := by
  rcases List.append_eq_append_iff.mp same with ⟨own, rfl, longer⟩ | ⟨own, rfl, shorter⟩
  · refine ⟨own, ?_, rfl, longer⟩
    rintro rfl
    exact bare.noWord.1 longer
  · -- the name is a piece of the word, and the rest of the word would end what stands before
    exfalso
    cases ending : own.getLast? with
    | none =>
      rw [List.getLast?_eq_none_iff.mp ending] at shorter
      exact bare.noWord.1 shorter.symm
    | some c =>
      have last : (before ++ own).getLast? = some c := by
        rw [List.getLast?_append, ending, Option.some_or]
      apply boundary c last
      rw [shorter]
      exact List.mem_append_left _ (List.mem_of_getLast? ending)

/-- A bare name keeps a `const` at its end. -/
theorem dropConst_reverse_of_bare (bare : IsBare name)
    (boundary : ∀ c ∈ front.getLast?, c ∉ constWord) :
    dropConst (front ++ name).reverse = (front ++ name).reverse := by
  have unreversed : ∀ rest, (front ++ name).reverse = constWord.reverse ++ rest →
      front ++ name = rest.reverse ++ constWord := fun rest same => by
    simpa using congrArg List.reverse same
  unfold dropConst
  split
  · next found =>
    have same := unreversed [] (Text.after?_eq_some_iff.mp found)
    obtain ⟨own, nonempty, none, _⟩ := bare.exists_of_append_eq boundary same
    exact absurd (List.append_eq_nil_iff.mp none.symm).2 nonempty
  · next c rest found =>
    have same := unreversed (c :: rest) (Text.after?_eq_some_iff.mp found)
    obtain ⟨own, nonempty, split, rfl⟩ := bare.exists_of_append_eq boundary same
    have last : (front ++ own).getLast? = some c := by
      rw [← split, List.getLast?_reverse, List.head?_cons]
    have inside : c ∈ own ++ constWord := by
      cases ending : own.getLast? with
      | none => exact absurd (List.getLast?_eq_none_iff.mp ending) nonempty
      | some d =>
        rw [List.getLast?_append, ending, Option.some_or] at last
        obtain rfl := Option.some.inj last
        exact List.mem_append_left _ (List.mem_of_getLast? ending)
    have neither : ¬(Text.isBlank c = true ∨ c = mark) := by
      rintro (blank | marked)
      · rw [bare.solid c inside] at blank
        contradiction
      · exact bare.unmarked (marked ▸ inside)
    rw [if_neg neither]
  · rfl

/-- A stem that reading from the right leaves alone: what stands on the left of the indirection
marks of a spelling. -/
structure IsStem (stem : List Char) : Prop where
  nonempty : stem ≠ []
  solid : ∀ c ∈ stem.getLast?, Text.isBlank c = false
  unmarked : stem.getLast? ≠ some mark
  keepsConst : dropConst stem.reverse = stem.reverse

theorem Marks.getLast?_append (marks : Marks (depth + 1) s) (stem : List Char) :
    (stem ++ s).getLast? = some mark := by
  rw [List.getLast?_append, marks.getLast?_eq, Option.some_or]

namespace IsStem

variable {stem : List Char}

/-- Marks behind a stem do not end in a blank. -/
theorem solid_append (isStem : IsStem stem) (marks : Marks depth s) :
    ∀ c ∈ (stem ++ s).reverse.head?, Text.isBlank c = false := by
  rw [List.head?_reverse]
  cases depth with
  | zero =>
    obtain rfl := marks.eq_nil
    rw [List.append_nil]
    exact isStem.solid
  | succ depth =>
    rw [marks.getLast?_append]
    intro c last
    obtain rfl := Option.some.inj last
    decide

/-- Behind a stem and some marks there is no word to take off. -/
theorem dropConst_append (isStem : IsStem stem) (marks : Marks depth s) :
    dropConst (stem ++ s).reverse = (stem ++ s).reverse := by
  cases depth with
  | zero =>
    obtain rfl := marks.eq_nil
    rw [List.append_nil]
    exact isStem.keepsConst
  | succ depth =>
    apply dropConst_of_head?_ne
    rw [List.head?_reverse, marks.getLast?_append]
    decide

/-- Reading from the right takes the marks off a stem, one after the other. -/
theorem peel_reverse (isStem : IsStem stem) (marks : Marks depth s) :
    peel (stem ++ s).reverse = ⟨stem.reverse, depth⟩ := by
  -- By the marks, the last of which comes first when they are read from the right.
  induction marks with
  | none =>
    rw [List.append_nil]
    apply peel_of_head?_ne
    rw [List.head?_reverse]
    exact isStem.unmarked
  | @plain depth s gap marks blank ih =>
    have shape : (stem ++ (s ++ gap ++ [mark])).reverse =
        mark :: (gap.reverse ++ (stem ++ s).reverse) := by
      simp
    have trimmed : Text.trimStart (gap.reverse ++ (stem ++ s).reverse) = (stem ++ s).reverse := by
      rw [Text.trimStart_append_of_isAllBlank ((Text.isAllBlank_reverse gap).trans blank)]
      exact Text.trimStart_eq_self (isStem.solid_append marks)
    rw [shape, peel_mark, trimmed, isStem.dropConst_append marks, ih]
  | @const depth s gap after marks blank apart blankAfter ih =>
    have shape : (stem ++ (s ++ gap ++ constWord ++ after ++ [mark])).reverse =
        mark :: (after.reverse ++ (constWord.reverse ++ (gap.reverse ++ (stem ++ s).reverse))) := by
      simp
    have trimmed : Text.trimStart
        (after.reverse ++ (constWord.reverse ++ (gap.reverse ++ (stem ++ s).reverse))) =
          constWord.reverse ++ (gap.reverse ++ (stem ++ s).reverse) := by
      rw [Text.trimStart_append_of_isAllBlank ((Text.isAllBlank_reverse after).trans blankAfter)]
      rfl
    have inner : dropConst (constWord.reverse ++ (gap.reverse ++ (stem ++ s).reverse)) =
        (stem ++ s).reverse := by
      apply dropConst_word ((Text.isAllBlank_reverse gap).trans blank)
      · simp [isStem.nonempty]
      · exact isStem.solid_append marks
      · intro fused
        obtain ⟨before, rfl⟩ : ∃ before, depth = before + 1 :=
          Nat.exists_eq_succ_of_ne_zero fun first => apart first (List.reverse_eq_nil_iff.mp fused)
        rw [List.head?_reverse, marks.getLast?_append]
    rw [shape, peel_mark, trimmed, inner, ih]

end IsStem

/-! ## The left end -/

/-- A word is taken off where blanks follow it. -/
theorem dropLeftWord_append {word : List Char} (nonempty : gap ≠ [])
    (blank : Text.isAllBlank gap = true) (solid : ∀ c ∈ s.head?, Text.isBlank c = false) :
    dropLeftWord word (word ++ gap ++ s) = s := by
  have found : Text.after? word (word ++ gap ++ s) = some (gap ++ s) :=
    Text.after?_eq_some_iff.mpr (List.append_assoc _ _ _)
  have trimmed : Text.trimStart (gap ++ s) = s := by
    rw [Text.trimStart_append_of_isAllBlank blank, Text.trimStart_eq_self solid]
  unfold dropLeftWord
  rw [found]
  cases gap with
  | nil => contradiction
  | cons c rest => exact (if_pos (List.all_eq_true.mp blank c List.mem_cons_self)).trans trimmed

theorem dropLeftWord_of_head?_ne {word : List Char} (nonempty : word ≠ [])
    (other : s.head? ≠ word.head?) : dropLeftWord word s = s := by
  unfold dropLeftWord
  split
  · next c rest found =>
    cases word with
    | nil => contradiction
    | cons first more =>
      rw [Text.after?_eq_some_iff.mp found] at other
      exact absurd rfl other
  · rfl

/-- An optional word is taken off what keeps its left end. -/
theorem Optional.dropLeftWord_append {word q : List Char} (optional : Optional [word] q)
    (solid : ∀ c ∈ s.head?, Text.isBlank c = false) (inert : dropLeftWord word s = s) :
    dropLeftWord word (q ++ s) = s := by
  cases optional with
  | absent => exact inert
  | present member nonempty blank =>
    obtain rfl := List.mem_singleton.mp member
    exact Spelling.dropLeftWord_append nonempty blank solid

/-- What an optional word stands before begins with a character of the word or of its own. -/
theorem Optional.solid_append {words : List (List Char)} {q : List Char}
    (optional : Optional words q)
    (solidWords : ∀ word ∈ words, (word.head?.any fun c => !Text.isBlank c) = true)
    (solid : ∀ c ∈ s.head?, Text.isBlank c = false) :
    ∀ c ∈ (q ++ s).head?, Text.isBlank c = false := by
  cases optional with
  | absent => exact solid
  | @present word gap member _ _ =>
    have begins := solidWords word member
    cases word with
    | nil => contradiction
    | cons first more => simpa using begins

theorem Optional.isBlank_of_getLast? {words : List (List Char)} {q : List Char}
    (optional : Optional words q) : ∀ c ∈ q.getLast?, Text.isBlank c = true := by
  cases optional with
  | absent => simp
  | @present word gap _ nonempty blank =>
    intro c last
    cases ending : gap.getLast? with
    | none => exact absurd (List.getLast?_eq_none_iff.mp ending) nonempty
    | some d =>
      rw [List.getLast?_append, ending, Option.some_or] at last
      obtain rfl := Option.some.inj last
      exact List.all_eq_true.mp blank d (List.mem_of_getLast? ending)

variable {const tag underscore marks rest : List Char}

/-- A bare name begins with no blank, with an underscore before it or not. -/
theorem IsBare.solid_append (bare : IsBare name) (hidden : Underscore underscore)
    (rest : List Char) :
    ∀ c ∈ (underscore ++ (name ++ rest)).head?, Text.isBlank c = false := by
  obtain ⟨first, more, rfl⟩ := List.exists_cons_of_ne_nil bare.nonempty
  intro c head
  rcases hidden with rfl | rfl
  · obtain rfl := Option.some.inj head
    exact bare.solid first List.mem_cons_self
  · obtain rfl := Option.some.inj head
    decide

/-- A bare name with something else than a letter behind it has no word on its left. -/
theorem IsBare.dropLeftWord_append (bare : IsBare name) (hidden : Underscore underscore)
    (follows : ∀ c ∈ rest.head?, Text.isBlank c = true ∨ c = mark) {word : List Char}
    (known : word ∈ leftWords) :
    dropLeftWord word (underscore ++ (name ++ rest)) = underscore ++ (name ++ rest) := by
  have letters : ∀ c ∈ word, Text.isBlank c = false ∧ c ≠ mark ∧ c ≠ '_' := by
    have each : (leftWords.all fun word =>
        word.all fun c => !Text.isBlank c && c != mark && c != '_') = true := by decide
    intro c member
    simpa [and_assoc] using List.all_eq_true.mp (List.all_eq_true.mp each word known) c member
  have other : name ≠ word := by
    rintro rfl
    exact (List.mem_cons.mp known).elim bare.noWord.1 bare.noWord.2
  unfold dropLeftWord
  split
  · next c behind found =>
    apply if_neg
    intro blank
    have same := Text.after?_eq_some_iff.mp found
    rcases hidden with rfl | rfl
    · rw [List.nil_append] at same
      rcases List.append_eq_append_iff.mp same with ⟨own, rfl, rfl⟩ | ⟨own, rfl, longer⟩
      · -- the word is the name and the beginning of what follows
        cases own with
        | nil => exact other (List.append_nil name).symm
        | cons d own =>
          obtain ⟨solid, unmarked, _⟩ := letters d (by simp)
          rcases follows d rfl with blank | marked
          · rw [solid] at blank
            contradiction
          · exact unmarked marked
      · -- the word is the beginning of the name
        cases own with
        | nil => exact other (List.append_nil word)
        | cons d own =>
          obtain ⟨rfl, _⟩ := List.cons.inj longer
          rw [bare.solid c (by simp)] at blank
          contradiction
    · cases word with
      | nil => exact absurd known (by decide)
      | cons first more =>
        obtain ⟨rfl, _⟩ := List.cons.inj same
        exact (letters '_' List.mem_cons_self).2.2 rfl
  · rfl

/-- An optional word that begins otherwise than another one keeps it from being taken off. -/
theorem Optional.dropLeftWord_of_apart {words : List (List Char)} {word q : List Char}
    (optional : Optional words q) (nonempty : word ≠ [])
    (apart : ∀ other ∈ words, other ≠ [] ∧ other.head? ≠ word.head?)
    (inert : dropLeftWord word s = s) : dropLeftWord word (q ++ s) = q ++ s := by
  cases optional with
  | absent => exact inert
  | @present other gap member _ _ =>
    obtain ⟨some, differs⟩ := apart other member
    apply dropLeftWord_of_head?_ne nonempty
    cases other with
    | nil => contradiction
    | cons first more => exact differs

/-- An optional word of a kind is taken off what keeps its left end. -/
theorem Optional.foldl_tagWords (tagged : Optional tagWords tag)
    (solid : ∀ c ∈ s.head?, Text.isBlank c = false)
    (inert : ∀ word ∈ tagWords, dropLeftWord word s = s) :
    tagWords.foldl (fun s word => dropLeftWord word s) (tag ++ s) = s := by
  simp only [tagWords, List.foldl_cons, List.foldl_nil] at inert ⊢
  cases tagged with
  | absent => rw [List.nil_append, inert _ (by decide), inert _ (by decide)]
  | @present word gap member nonempty blank =>
    simp only [tagWords, List.mem_cons, List.not_mem_nil, or_false] at member
    rcases member with rfl | rfl
    · rw [Spelling.dropLeftWord_append nonempty blank solid, inert _ (by decide)]
    · have skipped : dropLeftWord ['s', 't', 'r', 'u', 'c', 't']
          (['e', 'n', 'u', 'm'] ++ gap ++ s) = ['e', 'n', 'u', 'm'] ++ gap ++ s := by
        apply dropLeftWord_of_head?_ne (List.cons_ne_nil _ _)
        rw [List.append_assoc, List.cons_append, List.head?_cons, List.head?_cons]
        decide
      rw [skipped, Spelling.dropLeftWord_append nonempty blank solid]

/-- The optional words and the underscore are taken off a bare name, whatever follows it that is no
letter. -/
theorem IsBare.dropLeft_append (bare : IsBare name) (optional : Optional [constWord] const)
    (tagged : Optional tagWords tag) (hidden : Underscore underscore)
    (follows : ∀ c ∈ rest.head?, Text.isBlank c = true ∨ c = mark) :
    dropLeft (const ++ (tag ++ (underscore ++ (name ++ rest)))) = name ++ rest := by
  have inert : ∀ word ∈ leftWords,
      dropLeftWord word (underscore ++ (name ++ rest)) = underscore ++ (name ++ rest) :=
    fun _ => bare.dropLeftWord_append hidden follows
  have begins := bare.solid_append hidden rest
  have noConst : dropLeftWord constWord (tag ++ (underscore ++ (name ++ rest))) =
      tag ++ (underscore ++ (name ++ rest)) :=
    tagged.dropLeftWord_of_apart (by decide) (by decide) (inert constWord (by decide))
  have first : dropLeftWord constWord (const ++ (tag ++ (underscore ++ (name ++ rest)))) =
      tag ++ (underscore ++ (name ++ rest)) :=
    optional.dropLeftWord_append (tagged.solid_append (by decide) begins) noConst
  have others : tagWords.foldl (fun s word => dropLeftWord word s)
      (tag ++ (underscore ++ (name ++ rest))) = underscore ++ (name ++ rest) :=
    tagged.foldl_tagWords begins fun word member => inert word (List.mem_cons_of_mem _ member)
  have words : leftWords.foldl (fun s word => dropLeftWord word s)
      (const ++ (tag ++ (underscore ++ (name ++ rest)))) = underscore ++ (name ++ rest) := by
    have parts : leftWords = constWord :: tagWords := rfl
    rw [parts, List.foldl_cons, first, others]
  unfold dropLeft
  rw [words]
  rcases hidden with rfl | rfl
  · rw [List.nil_append]
    obtain ⟨first, more, rfl⟩ := List.exists_cons_of_ne_nil bare.nonempty
    split
    · next same =>
      obtain ⟨rfl, _⟩ := List.cons.inj same
      exact absurd rfl bare.shown
    · rfl
  · exact Text.trimStart_eq_self (bare.solid_append (.inl rfl) rest)

/-- The optional words and the underscore are taken off a bare name. -/
theorem IsBare.dropLeft_eq (bare : IsBare name) (optional : Optional [constWord] const)
    (tagged : Optional tagWords tag) (hidden : Underscore underscore) :
    dropLeft (const ++ (tag ++ (underscore ++ name))) = name := by
  have alone : dropLeft (const ++ (tag ++ (underscore ++ (name ++ [])))) = name ++ [] :=
    bare.dropLeft_append optional tagged hidden nofun
  rwa [List.append_nil] at alone

/-- Everything on the left of the marks of a spelling is a stem. -/
theorem IsBare.isStem (bare : IsBare name) (optional : Optional [constWord] const)
    (tagged : Optional tagWords tag) (hidden : Underscore underscore) :
    IsStem (const ++ (tag ++ (underscore ++ name))) := by
  have shape : const ++ (tag ++ (underscore ++ name)) = const ++ (tag ++ underscore) ++ name := by
    simp only [List.append_assoc]
  have boundary : ∀ c ∈ (const ++ (tag ++ underscore)).getLast?, c ∉ constWord := by
    have blanks : ∀ c, Text.isBlank c = true → c ∉ constWord := by
      have letters : (constWord.all fun c => !Text.isBlank c) = true := by decide
      intro c blank member
      have letter := List.all_eq_true.mp letters c member
      rw [blank] at letter
      exact absurd letter Bool.false_ne_true
    intro c last
    rcases hidden with rfl | rfl
    · rw [List.append_nil, List.getLast?_append] at last
      rcases Option.or_eq_some_iff.mp last with ofTag | ⟨_, ofConst⟩
      · exact blanks c (tagged.isBlank_of_getLast? c ofTag)
      · exact blanks c (optional.isBlank_of_getLast? c ofConst)
    · rw [← List.append_assoc, List.getLast?_concat] at last
      obtain rfl := Option.some.inj last
      decide
  have last : ∃ c ∈ name, (const ++ (tag ++ underscore) ++ name).getLast? = some c := by
    cases ending : name.getLast? with
    | none => exact absurd (List.getLast?_eq_none_iff.mp ending) bare.nonempty
    | some c =>
      refine ⟨c, List.mem_of_getLast? ending, ?_⟩
      rw [List.getLast?_append, ending, Option.some_or]
  obtain ⟨c, member, last⟩ := last
  rw [shape]
  refine ⟨by simp [bare.nonempty], ?_, ?_, dropConst_reverse_of_bare bare boundary⟩
  · rw [last]
    intro d same
    obtain rfl := Option.some.inj same
    exact bare.solid c member
  · rw [last]
    intro same
    obtain rfl := Option.some.inj same
    exact bare.unmarked member

/-! ## Whole spellings -/

/-- Reading a spelling gives its bare name and the number of its marks. -/
theorem ofChars_of_spells {native : List Char} (bare : IsBare name)
    (spells : Spells name depth native) : ofChars native = ⟨name, depth⟩ := by
  cases spells with
  | @intro lead const tag underscore marks trail before optional tagged hidden marked behind =>
    have isStem := bare.isStem optional tagged hidden
    have begins : ∀ c ∈ (const ++ (tag ++ (underscore ++ name)) ++ marks).head?,
        Text.isBlank c = false := by
      simp only [List.append_assoc]
      apply optional.solid_append (by decide)
      apply tagged.solid_append (by decide)
      exact bare.solid_append hidden marks
    have trimmed : Text.trim
        (lead ++ (const ++ (tag ++ (underscore ++ name)) ++ marks) ++ trail) =
          const ++ (tag ++ (underscore ++ name)) ++ marks := by
      apply Text.trim_between _ _ _ before behind
      · simp [bare.nonempty]
      · exact begins
      · rw [← List.head?_reverse]
        exact isStem.solid_append marked
    simp only [ofChars]
    rw [trimmed, isStem.peel_reverse marked, List.reverse_reverse,
      bare.dropLeft_eq optional tagged hidden]

end Spelling

namespace TypeMap

variable {name native : String} {depth : Nat}

theorem isMapped_iff (types : TypeMap) (native : String) :
    types.isMapped native = false ↔
      types.dictionary.concrete.get? (Spelling.ofText native).name = none ∧
        types.dictionary.enums.get? (Spelling.ofText native).name = none ∧
          types.structs.get? (Spelling.ofText native).name = none := by
  rw [isMapped, lookup?, Option.isSome_eq_false_iff, Option.isNone_iff_eq_none,
    Option.or_eq_none_iff, Option.or_eq_none_iff]

/-- The target of a spelling is that of its bare name, plain types before enumerations and these
before structs, with one mark for each of its own. The log has the name when no table has it, and
nothing otherwise. -/
theorem map_of_spells (types : TypeMap) (bare : Spelling.IsBare name.toList)
    (spells : Spelling.Spells name.toList depth native.toList) :
    types.map native =
        ((types.dictionary.concrete.get? name).getD ((types.dictionary.enums.get? name).getD
          ((types.structs.get? name).getD name))) ++ String.ofList (List.replicate depth '*') ∧
      types.warnings [native] =
        if types.dictionary.concrete.get? name = none ∧ types.dictionary.enums.get? name = none ∧
            types.structs.get? name = none then
          [⟨.warn,
            s!"C type \"{native}\" is not mapped to a target type (processed to \"{name}\")"⟩]
        else [] := by
  have read : Spelling.ofText native = ⟨name.toList, depth⟩ :=
    Spelling.ofChars_of_spells bare spells
  have named : (Spelling.ofText native).name = name := by
    rw [read, Spelling.name, String.ofList_toList]
  have counted : (Spelling.ofText native).depth = depth := by rw [read]
  constructor
  · simp only [map, lookup?, named, counted, Spelling.mark]
    cases types.dictionary.concrete.get? name with
    | some target => rfl
    | none =>
      cases types.dictionary.enums.get? name with
      | some target => rfl
      | none =>
        cases types.structs.get? name with
        | some target => rfl
        | none => rfl
  · have known := types.isMapped_iff native
    rw [named] at known
    simp only [warnings, List.filter_cons, List.filter_nil]
    cases mapped : types.isMapped native with
    | true =>
      rw [mapped] at known
      rw [if_neg fun unknown => Bool.false_ne_true (known.mpr unknown).symm]
      rfl
    | false =>
      rw [if_pos (known.mp mapped), Bool.not_false, if_pos rfl, List.map_singleton, unmappedNotice,
        named]

/-- A name that is both an enumeration and a struct, and ends like a qualifier. -/
def twice : TypeMap :=
  ⟨⟨∅, Table.ofList [("myconst", "MyConst")], ∅⟩, Table.ofList [("myconst", "myconst")]⟩

theorem map_of_spells_twice :
    Spelling.IsBare "myconst".toList ∧
      Spelling.Spells "myconst".toList 3
        "\u3000const enum\t_myconst const* const *const\u00a0*\n".toList ∧
      twice.map "\u3000const enum\t_myconst const* const *const\u00a0*\n" = "MyConst***" ∧
      twice.warnings ["\u3000const enum\t_myconst const* const *const\u00a0*\n"] = [] := by
  have letters : "myconst".toList = ['m', 'y', 'c', 'o', 'n', 's', 't'] := rfl
  have solid : (['m', 'y', 'c', 'o', 'n', 's', 't'].all fun c => !Text.isBlank c) = true := by
    decide
  have bare : Spelling.IsBare "myconst".toList := by
    rw [letters]
    refine ⟨by decide, fun c member => ?_, by decide, by decide, by decide⟩
    simpa using List.all_eq_true.mp solid c member
  have first : Spelling.Marks 1 " const*".toList :=
    @Spelling.Marks.const 0 [] [' '] [] .none rfl (by decide) rfl
  have second : Spelling.Marks 2 " const* const *".toList :=
    @Spelling.Marks.const 1 _ [' '] [' '] first rfl (by decide) rfl
  have third : Spelling.Marks 3 " const* const *const\u00a0*".toList :=
    @Spelling.Marks.const 2 _ [] ['\u00a0'] second rfl (by decide) rfl
  have const : Spelling.Optional [Spelling.constWord] "const ".toList :=
    @Spelling.Optional.present _ Spelling.constWord [' '] (by decide) (by decide) rfl
  have tag : Spelling.Optional Spelling.tagWords "enum\t".toList :=
    @Spelling.Optional.present _ ['e', 'n', 'u', 'm'] ['\t'] (by decide) (by decide) rfl
  have parts : "\u3000const enum\t_myconst const* const *const\u00a0*\n".toList =
      ['\u3000'] ++ ("const ".toList ++ ("enum\t".toList ++ (['_'] ++ "myconst".toList)) ++
        " const* const *const\u00a0*".toList) ++ ['\n'] := by
    decide +kernel
  have spells : Spelling.Spells "myconst".toList 3
      "\u3000const enum\t_myconst const* const *const\u00a0*\n".toList := by
    rw [parts]
    exact .intro rfl const tag (.inr rfl) third rfl
  obtain ⟨mapped, silent⟩ := map_of_spells twice bare spells
  exact ⟨bare, spells, mapped.trans (by decide), silent.trans (by decide)⟩

end TypeMap

end Bindery
