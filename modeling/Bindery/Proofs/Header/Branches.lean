import Bindery.Header.ApiHashes
import Bindery.Proofs.Header.Lines
import Bindery.Proofs.Text.Finding

/-! # Hashes and the branches they stand in

A hash is recorded for the platform whose condition was seen last. A header has other directives
too, and these are not looked at: a branch that is closed still awaits its hash. Main statement:
each recorded hash stands in the branch of its platform exactly when no other directive comes
between the condition of a platform and the first hash below it (`attributed_iff`).
-/

namespace Bindery.Header

open Text

variable {version line hash text value : List Char} {above below lines : List (List Char)}
  {platform : Platform} {pending : Option Platform} {pair : Platform × String}

/-! ## One line -/

namespace Platform

theorem marker_ends (platform : Platform) :
    (∃ c ∈ platform.marker.toList.head?, isBlank c = false) ∧
      ∃ c ∈ platform.marker.toList.getLast?, isBlank c = false := by
  cases platform <;> exact ⟨⟨'#', rfl, by decide⟩, ⟨')', rfl, by decide⟩⟩

/-- Blanks around a line hide no condition. -/
theorem inLine?_trim (line : List Char) : inLine? (trim line) = inLine? line := by
  have same : (fun platform : Platform => contains (trim line) platform.marker.toList) =
      fun platform => contains line platform.marker.toList :=
    funext fun platform => contains_trim platform.marker_ends.1 platform.marker_ends.2
  rw [inLine?, same, inLine?]

theorem marker_infix_of_inLine? (found : inLine? line = some platform) :
    platform.marker.toList <:+: line := by
  have there : contains line platform.marker.toList = true := by simpa using List.find?_some found
  exact contains_iff_occurs.mp there

theorem inLine?_ne_none (inside : platform.marker.toList <:+: line) : inLine? line ≠ none := by
  intro none
  have absent := List.find?_eq_none.mp none platform (by cases platform <;> decide)
  exact absent (contains_iff_occurs.mpr inside)

end Platform

/-- A line defines a hash of a version. -/
def DefinesHash (version line hash : List Char) : Prop :=
  hash ≠ [] ∧ (∀ c ∈ hash, isWord c = true) ∧
    ∃ rest, Defines (hashStem.toList ++ version) (trim line) ('"' :: (hash ++ '"' :: rest))

/-- A word up to a quotation mark is as long as possible. -/
theorem takeWhile_isWord_eq_iff : (hash = text.takeWhile isWord ∧
    ∃ rest, text.drop hash.length = '"' :: rest) ↔
      (∀ c ∈ hash, isWord c = true) ∧ ∃ rest, text = hash ++ '"' :: rest := by
  have quote : isWord '"' = false := by decide
  constructor
  · rintro ⟨rfl, rest, behind⟩
    refine ⟨fun c member => List.mem_takeWhile_imp member, rest, ?_⟩
    have front := List.prefix_iff_eq_take.mp (List.takeWhile_prefix (l := text) isWord)
    calc
      text = text.take (text.takeWhile isWord).length ++ text.drop (text.takeWhile isWord).length :=
        (List.take_append_drop ..).symm
      _ = text.takeWhile isWord ++ '"' :: rest := by rw [← front, behind]
  · rintro ⟨word, rest, rfl⟩
    refine ⟨?_, rest, List.drop_left⟩
    rw [List.takeWhile_append_of_pos word, List.takeWhile_cons_of_neg (by simp [quote]),
      List.append_nil]

/-- A hash is read from the lines that define one. -/
theorem hashInLine?_eq_some_iff :
    hashInLine? version (trim line) = some hash ↔ DefinesHash version line hash := by
  have stem : ∀ rest, ∃ c ∈ (hashStem.toList ++ version ++ rest).head?, isBlank c = false :=
    fun rest => ⟨'C', rfl, by decide⟩
  have quote : ∀ rest, ∃ c ∈ ('"' :: rest : List Char).head?, isBlank c = false :=
    fun rest => ⟨'"', rfl, by decide⟩
  simp only [hashInLine?, Option.bind_eq_bind, Option.bind_eq_some_iff, after?_eq_some_iff,
    List.singleton_append]
  constructor
  · rintro ⟨behind, whole, name, gap, named, rfl, quoted, gapAfter, inner, rfl, read⟩
    obtain ⟨front, before, rfl⟩ := (afterBlanks?_eq_some_iff_of_solid (stem _)).mp gap
    obtain ⟨back, after, rfl⟩ := (afterBlanks?_eq_some_iff_of_solid (quote _)).mp gapAfter
    -- What is read between the quotation marks is the longest word there.
    split at read
    · next first others more taken closing =>
      have long : hash = inner.takeWhile isWord := (Option.some.inj read).symm
      have filled : hash ≠ [] := by rw [long, taken]; exact List.cons_ne_nil _ _
      obtain ⟨letters, more, rfl⟩ := takeWhile_isWord_eq_iff.mp ⟨long, more, long ▸ closing⟩
      exact ⟨filled, letters, more, front, back, before, after, whole⟩
    · contradiction
  · rintro ⟨filled, letters, more, front, back, before, after, whole⟩
    have named := (afterBlanks?_eq_some_iff_of_solid
      (stem (back ++ '"' :: (hash ++ '"' :: more)))).mpr ⟨front, before, rfl⟩
    have quoted := (afterBlanks?_eq_some_iff_of_solid
      (quote (hash ++ '"' :: more))).mpr ⟨back, after, rfl⟩
    refine ⟨_, whole, _, named, _, rfl, _, quoted, _, rfl, ?_⟩
    obtain ⟨long, rest, closing⟩ := takeWhile_isWord_eq_iff.mpr ⟨letters, more, rfl⟩
    obtain ⟨first, others, rfl⟩ := List.exists_cons_of_ne_nil filled
    rw [← long, closing]
    rfl

/-! ## One line after the other -/

/-- The platform whose hash is awaited after a line, when `pending` was awaited before it. -/
def pendingAfter (version : List Char) (pending : Option Platform) (line : List Char) :
    Option Platform :=
  if (hashInLine? version (trim line)).isSome then none else (Platform.inLine? line).or pending

/-- What is recorded at a line. -/
def recordedAt? (version : List Char) (pending : Option Platform) (line : List Char) :
    Option (Platform × String) :=
  match (Platform.inLine? line).or pending, hashInLine? version (trim line) with
  | some platform, some hash => some (platform, String.ofList hash)
  | _, _ => none

theorem hashesInLines_cons (version : List Char) (pending : Option Platform) (line : List Char)
    (below : List (List Char)) : hashesInLines version pending (line :: below) =
      (recordedAt? version pending line).toList ++
        hashesInLines version (pendingAfter version pending line) below := by
  simp only [hashesInLines, recordedAt?, pendingAfter, Platform.inLine?_trim]
  cases hashInLine? version (trim line) with
  | none => cases (Platform.inLine? line).or pending <;> rfl
  | some hash =>
    cases current : (Platform.inLine? line).or pending with
    | none => simp
    | some platform => rfl

theorem hashesInLines_append (version : List Char) (pending : Option Platform)
    (above below : List (List Char)) : hashesInLines version pending (above ++ below) =
      hashesInLines version pending above ++
        hashesInLines version (above.foldl (pendingAfter version) pending) below := by
  induction above generalizing pending with
  | nil => rfl
  | cons line above ih =>
    rw [List.cons_append, hashesInLines_cons, hashesInLines_cons, ih, List.foldl_cons,
      List.append_assoc]

/-- What is recorded is recorded at some line. -/
theorem mem_hashesInLines_iff : pair ∈ hashesInLines version pending lines ↔
    ∃ above line below, lines = above ++ line :: below ∧
      recordedAt? version (above.foldl (pendingAfter version) pending) line = some pair := by
  induction lines generalizing pending with
  | nil => simp [hashesInLines]
  | cons first rest ih =>
    rw [hashesInLines_cons, List.mem_append, ih, Option.mem_toList]
    constructor
    · rintro (here | ⟨above, line, below, rfl, found⟩)
      · exact ⟨[], first, rest, rfl, here⟩
      · exact ⟨first :: above, line, below, rfl, found⟩
    · rintro ⟨above, line, below, same, found⟩
      rcases List.cons_eq_append_iff.mp same with ⟨rfl, split⟩ | ⟨upper, rfl, split⟩
      · obtain ⟨rfl, rfl⟩ := List.cons.inj split
        exact .inl found
      · exact .inr ⟨upper, line, below, split, found⟩

/-- A condition whose hash is still awaited: no other condition stands below it, and neither it nor
a line below it defines a hash of the version. -/
structure Awaits (version : List Char) (platform : Platform) (condition : List Char)
    (below : List (List Char)) : Prop where
  opens : Platform.inLine? condition = some platform
  unchanged : ∀ line ∈ below, Platform.inLine? line = none
  unanswered : ∀ line ∈ condition :: below, ∀ hash, ¬DefinesHash version line hash

theorem isSome_hashInLine?_iff :
    (hashInLine? version (trim line)).isSome ↔ ∃ hash, DefinesHash version line hash := by
  simp only [Option.isSome_iff_exists, hashInLine?_eq_some_iff]

theorem pendingAfter_eq_some_iff : pendingAfter version pending line = some platform ↔
    (∀ hash, ¬DefinesHash version line hash) ∧ (Platform.inLine? line = some platform ∨
      Platform.inLine? line = none ∧ pending = some platform) := by
  rw [pendingAfter]
  split
  · next answered =>
    obtain ⟨hash, defines⟩ := isSome_hashInLine?_iff.mp answered
    simp only [reduceCtorEq, false_iff, not_and]
    exact fun unanswered => absurd defines (unanswered hash)
  · next unanswered =>
    rw [isSome_hashInLine?_iff, not_exists] at unanswered
    rw [Option.or_eq_some_iff]
    exact (and_iff_right unanswered).symm

/-- A platform is awaited after some lines when its condition is. -/
theorem foldl_pendingAfter_eq_some_iff :
    above.foldl (pendingAfter version) none = some platform ↔ ∃ upper condition between,
      above = upper ++ condition :: between ∧ Awaits version platform condition between := by
  induction above using List.reverseRecOn with
  | nil => simp
  | append_singleton above line ih =>
    rw [List.foldl_append, List.foldl_cons, List.foldl_nil, pendingAfter_eq_some_iff, ih]
    constructor
    · rintro ⟨unanswered, opens | ⟨unchanged, upper, condition, between, rfl, awaits⟩⟩
      · exact ⟨above, line, [], rfl, opens, by simp, by simpa using unanswered⟩
      · refine ⟨upper, condition, between ++ [line], by simp, awaits.opens, ?_, ?_⟩
        · simpa [or_imp, forall_and, unchanged] using awaits.unchanged
        · rw [← List.cons_append, List.forall_mem_append]
          exact ⟨awaits.unanswered, by simpa using unanswered⟩
    · rintro ⟨upper, condition, between, split, awaits⟩
      rcases List.eq_nil_or_concat between with rfl | ⟨inner, last, rfl⟩
      · obtain ⟨_, same⟩ := List.append_inj' split rfl
        obtain rfl := List.singleton_inj.mp same
        exact ⟨awaits.unanswered line List.mem_cons_self, .inl awaits.opens⟩
      · rw [List.concat_eq_append, ← List.cons_append, ← List.append_assoc] at split
        obtain ⟨rfl, same⟩ := List.append_inj' split rfl
        obtain rfl := List.singleton_inj.mp same
        have unchanged := awaits.unchanged
        have unanswered := awaits.unanswered
        rw [List.concat_eq_append, List.forall_mem_append] at unchanged
        rw [List.concat_eq_append, ← List.cons_append, List.forall_mem_append] at unanswered
        exact ⟨unanswered.2 line List.mem_cons_self, .inr ⟨unchanged.2 line List.mem_cons_self,
          upper, condition, inner, rfl, awaits.opens, unchanged.1, unanswered.1⟩⟩

/-! ## Branches -/

/-- A line below others defines a hash of the version that is recorded for a platform: the line has
the platform's condition, or the condition above it that awaits a hash is the platform's. -/
def Records (version : List Char) (above : List (List Char)) (line : List Char)
    (pair : Platform × String) : Prop :=
  (∃ hash, DefinesHash version line hash ∧ pair.2 = String.ofList hash) ∧
    (Platform.inLine? line = some pair.1 ∨ Platform.inLine? line = none ∧
      ∃ upper condition between, above = upper ++ condition :: between ∧
        Awaits version pair.1 condition between)

theorem recordedAt?_eq_some_iff :
    recordedAt? version (above.foldl (pendingAfter version) none) line = some pair ↔
      Records version above line pair := by
  obtain ⟨platform, text⟩ := pair
  rw [Records, ← foldl_pendingAfter_eq_some_iff, ← Option.or_eq_some_iff]
  simp only [← hashInLine?_eq_some_iff]
  constructor
  · intro recorded
    rw [recordedAt?] at recorded
    split at recorded
    · next seen read =>
      obtain ⟨rfl, rfl⟩ := Prod.mk.inj (Option.some.inj recorded)
      exact ⟨⟨_, read, rfl⟩, seen⟩
    · contradiction
  · rintro ⟨⟨hash, read, rfl⟩, seen⟩
    rw [recordedAt?, seen, read]

/-- The directives that branches are made of. -/
def branchWords : List String := ["#if", "#elif", "#else", "#endif"]

/-- A line holds a directive that branches are made of. -/
def IsDirective (line : List Char) : Prop := ∃ word ∈ branchWords, word.toList <:+: line

instance : DecidablePred IsDirective := fun line =>
  inferInstanceAs (Decidable (∃ word ∈ branchWords, word.toList <:+: line))

/-- The last directive in some lines is on a line with the condition of a platform. -/
def StandsUnder (platform : Platform) (lines : List (List Char)) : Prop :=
  ∃ upper condition lower, lines = upper ++ condition :: lower ∧
    platform.marker.toList <:+: condition ∧ ∀ line ∈ lower, ¬IsDirective line

theorem isDirective_of_inLine? (found : Platform.inLine? line = some platform) :
    IsDirective line := by
  have opening : ∃ word ∈ branchWords, word.toList <+: platform.marker.toList := by
    cases platform <;> decide
  obtain ⟨word, member, begins⟩ := opening
  exact ⟨word, member, begins.isInfix.trans (Platform.marker_infix_of_inLine? found)⟩

/-- The condition that a hash is recorded for is the last directive above it, or there is another
one between them. -/
theorem standsUnder_iff {upper between : List (List Char)} {condition : List Char}
    (awaits : Awaits version platform condition between)
    (unchanged : Platform.inLine? line = none) :
    StandsUnder platform (upper ++ condition :: (between ++ [line])) ↔
      ∀ other ∈ between ++ [line], ¬IsDirective other := by
  have conditionless : ∀ other ∈ between ++ [line], Platform.inLine? other = none := by
    rw [List.forall_mem_append]
    exact ⟨awaits.unchanged, by simpa using unchanged⟩
  constructor
  · rintro ⟨above, last, below, same, marked, none⟩
    rcases List.append_eq_append_iff.mp same with ⟨inner, _, rest⟩ | ⟨inner, _, rest⟩
    · cases inner with
      | nil => rwa [(List.cons.inj rest).2]
      | cons top inner =>
        -- The last directive would stand below the condition, and have one itself.
        have inside : last ∈ between ++ [line] := by
          rw [(List.cons.inj rest).2]
          simp
        exact absurd (conditionless last inside) (Platform.inLine?_ne_none marked)
    · cases inner with
      | nil => rwa [← (List.cons.inj rest).2]
      | cons top inner =>
        have inside : condition ∈ below := by
          rw [(List.cons.inj rest).2]
          simp
        exact absurd (isDirective_of_inLine? awaits.opens) (none condition inside)
  · intro none
    exact ⟨upper, condition, between ++ [line], rfl,
      Platform.marker_infix_of_inLine? awaits.opens, none⟩

/-- What is recorded from a header is attributed to the branches that it stands in. -/
structure Attributed (header : String) (api : ApiHashes) : Prop where
  /-- Everything that is recorded stems from a line that defines a hash of the version. -/
  stems : ∀ pair ∈ api.hashes, ∃ above line below,
    Text.lines header.toList = above ++ line :: below ∧
      Records api.version.toList above line pair
  /-- The line that it stems from stands in the branch of its platform. -/
  stands : ∀ pair ∈ api.hashes, ∀ above line below,
    Text.lines header.toList = above ++ line :: below → Records api.version.toList above line pair →
    StandsUnder pair.1 (above ++ [line])

theorem apiHashes_eq_ok_iff {header : String} {api : ApiHashes} : apiHashes header = .ok api ↔
    lastVersion? header.toList = some api.version.toList ∧
      api.hashes = hashesInLines api.version.toList none (Text.lines header.toList) := by
  obtain ⟨version, hashes⟩ := api
  rw [apiHashes]
  cases lastVersion? header.toList with
  | none => simp
  | some latest =>
    simp only [Except.ok.injEq, ApiHashes.mk.injEq, Option.some.injEq]
    constructor
    · rintro ⟨rfl, rfl⟩
      exact ⟨String.toList_ofList.symm, by rw [String.toList_ofList]⟩
    · rintro ⟨rfl, rfl⟩
      exact ⟨String.ofList_toList, rfl⟩

theorem mem_hashes_iff {header : String} {api : ApiHashes} (read : apiHashes header = .ok api) :
    pair ∈ api.hashes ↔ ∃ above line below, Text.lines header.toList = above ++ line :: below ∧
      Records api.version.toList above line pair := by
  simp only [(apiHashes_eq_ok_iff.mp read).2, mem_hashesInLines_iff, recordedAt?_eq_some_iff]

/-- What is recorded is attributed to the branches that it stands in exactly when no directive comes
between the condition of a platform and the first hash of the version below it. -/
theorem attributed_iff {header : String} {api : ApiHashes} (read : apiHashes header = .ok api) :
    Attributed header api ↔ ∀ upper condition between line below platform hash,
      Text.lines header.toList = upper ++ condition :: (between ++ line :: below) →
      Awaits api.version.toList platform condition between → Platform.inLine? line = none →
      DefinesHash api.version.toList line hash →
      ∀ other ∈ between ++ [line], ¬IsDirective other := by
  constructor
  · intro attributed upper condition between line below platform hash split awaits unchanged
      defines
    have records : Records api.version.toList (upper ++ condition :: between) line
        (platform, String.ofList hash) :=
      ⟨⟨hash, defines, rfl⟩, .inr ⟨unchanged, upper, condition, between, rfl, awaits⟩⟩
    have whole : Text.lines header.toList = (upper ++ condition :: between) ++ line :: below := by
      rw [split, List.append_assoc, List.cons_append]
    have recorded := (mem_hashes_iff read).mpr ⟨_, _, _, whole, records⟩
    have stands := attributed.stands _ recorded _ _ _ whole records
    rw [List.append_assoc, List.cons_append] at stands
    exact (standsUnder_iff awaits unchanged).mp stands
  · intro none
    refine ⟨fun pair member => (mem_hashes_iff read).mp member, ?_⟩
    rintro pair _ above line below split ⟨⟨hash, defines, _⟩, opens | ⟨unchanged, waiting⟩⟩
    · exact ⟨above, line, [], rfl, Platform.marker_infix_of_inLine? opens, by simp⟩
    · obtain ⟨upper, condition, between, rfl, awaits⟩ := waiting
      rw [List.append_assoc, List.cons_append] at split ⊢
      exact (standsUnder_iff awaits unchanged).mpr
        (none upper condition between line below _ hash split awaits unchanged defines)

/-- A header with a hash in the branch of one platform, and another branch. -/
def branching : String :=
  "#if defined(OS_WIN)\n#define CEF_API_HASH_1 \"a\"\n#else\n#endif\n" ++
    "#define CEF_API_VERSION_LAST CEF_API_VERSION_1\n"

theorem attributed_iff_branching : apiHashes branching = .ok ⟨"1", [(.windows, "a")]⟩ ∧
    Attributed branching ⟨"1", [(.windows, "a")]⟩ := by
  have read : apiHashes branching = .ok ⟨"1", [(.windows, "a")]⟩ := by decide +kernel
  have split : Text.lines branching.toList = "#if defined(OS_WIN)".toList ::
      "#define CEF_API_HASH_1 \"a\"".toList :: ["#else".toList, "#endif".toList,
        "#define CEF_API_VERSION_LAST CEF_API_VERSION_1".toList] := by decide +kernel
  have answered : DefinesHash ['1'] "#define CEF_API_HASH_1 \"a\"".toList ['a'] :=
    hashInLine?_eq_some_iff.mp (by decide +kernel)
  refine ⟨read, (attributed_iff read).mpr ?_⟩
  intro upper condition between line below platform hash same awaits _ _
  rw [split] at same
  rcases List.cons_eq_append_iff.mp same with ⟨rfl, rest⟩ | ⟨later, rfl, rest⟩
  · cases between with
    | nil =>
      have first := (List.cons.inj (List.cons.inj rest).2).1
      rw [first, List.nil_append, List.forall_mem_singleton]
      decide +kernel
    | cons next between =>
      have first := (List.cons.inj (List.cons.inj rest).2).1
      exact absurd answered (awaits.unanswered _ (by simp [← first]) _)
  · have conditionless : ∀ other ∈ ["#define CEF_API_HASH_1 \"a\"".toList, "#else".toList,
        "#endif".toList, "#define CEF_API_VERSION_LAST CEF_API_VERSION_1".toList],
        Platform.inLine? other = none := by decide +kernel
    rw [rest] at conditionless
    have opens := awaits.opens
    rw [conditionless condition (by simp)] at opens
    cases opens

/-- A header with a branch that is closed without a hash, and a hash behind it. -/
def closedBranch : String :=
  "#if defined(OS_WIN)\n#endif\n#define CEF_API_HASH_1 \"a\"\n" ++
    "#define CEF_API_VERSION_LAST CEF_API_VERSION_1\n"

/-- A closed branch is given the hash that stands behind it. -/
theorem not_attributed_closedBranch : apiHashes closedBranch = .ok ⟨"1", [(.windows, "a")]⟩ ∧
    ¬Attributed closedBranch ⟨"1", [(.windows, "a")]⟩ := by
  refine ⟨by decide +kernel, fun attributed => ?_⟩
  have split : Text.lines closedBranch.toList = ["#if defined(OS_WIN)".toList, "#endif".toList] ++
      "#define CEF_API_HASH_1 \"a\"".toList ::
        ["#define CEF_API_VERSION_LAST CEF_API_VERSION_1".toList] := by decide +kernel
  have answered : DefinesHash ['1'] "#define CEF_API_HASH_1 \"a\"".toList ['a'] :=
    hashInLine?_eq_some_iff.mp (by decide +kernel)
  have unanswered : ∀ line ∈ ["#if defined(OS_WIN)".toList, "#endif".toList],
      hashInLine? ['1'] (trim line) = none := by decide +kernel
  have awaits : Awaits ['1'] .windows "#if defined(OS_WIN)".toList ["#endif".toList] := by
    refine ⟨by decide +kernel, by decide +kernel, fun line member hash defines => ?_⟩
    have read := hashInLine?_eq_some_iff.mpr defines
    rw [unanswered line member] at read
    cases read
  have unchanged : Platform.inLine? "#define CEF_API_HASH_1 \"a\"".toList = none := by
    decide +kernel
  have stands := attributed.stands _ List.mem_cons_self _ _ _ split
    ⟨⟨['a'], answered, rfl⟩, .inr ⟨unchanged, [], _, _, rfl, awaits⟩⟩
  have directive : IsDirective "#endif".toList := by decide +kernel
  have none := (@standsUnder_iff _ _ _ [] _ _ awaits unchanged).mp stands
  exact none _ List.mem_cons_self directive

end Bindery.Header
