import Bindery.Proofs.Header.Branches
import Bindery.Proofs.Header.Latest
import Bindery.Proofs.Keys

/-! # Headers of version blocks

A header of interface versions is written as one block for each version, with a branch for each
platform and a hash in each branch, and one line somewhere that names the latest version. Lines that
say nothing of either may stand between all others. Main statement: what is read from such a header
is the latest version and the hashes of its block (`apiHashes_of_document`).
-/

namespace Bindery.Header

open Text

/-- The hashes of one version, one for each platform. -/
structure VersionBlock where
  version : List Char
  hash : Platform → List Char

namespace VersionBlock

/-- The version is a number and each hash is a word. -/
structure Valid (block : VersionBlock) : Prop where
  number : IsNumber block.version
  filled : ∀ platform, block.hash platform ≠ []
  words : ∀ platform, ∀ c ∈ block.hash platform, isWord c = true

/-- The hash of a platform, as it is recorded. -/
def pair (block : VersionBlock) (platform : Platform) : Platform × String :=
  (platform, String.ofList (block.hash platform))

/-- The hashes in the order of the block. -/
def pairs (block : VersionBlock) : List (Platform × String) := Platform.all.map block.pair

/-- What definitions of the block's hashes define. -/
def hashName (block : VersionBlock) : List Char := hashStem.toList ++ block.version

/-- The hash of a platform, as a definition gives it. -/
def quotedHash (block : VersionBlock) (platform : Platform) : List Char :=
  '"' :: (block.hash platform ++ ['"'])

end VersionBlock

/-- A line that says nothing of platforms, hashes and the latest version. -/
structure Aside (line : List Char) : Prop where
  noCondition : ∀ platform : Platform, ¬platform.marker.toList <:+: line
  noHash : ¬hashStem.toList <:+: line
  noLatest : ¬lastVersionName.toList <:+: line

/-- The branches of some platforms, and the end of the block. -/
inductive Branches (block : VersionBlock) : List Platform → (lines : List (List Char)) → Prop
  | close {line : List Char} : Shows "#endif".toList line → Branches block [] [line]
  | branch {platform : Platform} {platforms : List Platform} {condition line : List Char}
      {above below rest : List (List Char)} : Shows platform.marker.toList condition →
      (∀ other ∈ above, Aside other) →
      ShowsDefinition block.hashName (block.quotedHash platform) line →
      (∀ other ∈ below, Aside other) → Branches block platforms rest →
      Branches block (platform :: platforms) (condition :: (above ++ line :: (below ++ rest)))

/-- The lines of a header with some blocks, and with one line for the latest version if there is
one. -/
inductive Document : List VersionBlock → (latest : Option (List Char)) →
    (lines : List (List Char)) → Prop
  | nil : Document [] none []
  | aside {blocks : List VersionBlock} {latest : Option (List Char)} {line : List Char}
      {rest : List (List Char)} : Aside line → Document blocks latest rest →
      Document blocks latest (line :: rest)
  | block {block : VersionBlock} {blocks : List VersionBlock} {latest : Option (List Char)}
      {lines rest : List (List Char)} : Branches block Platform.all lines →
      Document blocks latest rest → Document (block :: blocks) latest (lines ++ rest)
  | latest {blocks : List VersionBlock} {version line : List Char} {rest : List (List Char)} :
      ShowsDefinition lastVersionName.toList (versionStem.toList ++ version) line →
      Document blocks none rest → Document blocks (some version) (line :: rest)

variable {version line text name value : List Char} {above below lines : List (List Char)}
  {block : VersionBlock} {platform : Platform} {pending : Option Platform}

/-! ## Names and lines that define them -/

/-- A name as definitions have it. -/
def IsName (name : List Char) : Prop := name ≠ [] ∧ ∀ c ∈ name, isBlank c = false

/-- A name ends where the first blank stands. -/
theorem takeWhile_isName (named : IsName name) {gap : List Char} (blank : Gap gap)
    (rest : List Char) : (name ++ (gap ++ rest)).takeWhile (fun c => !isBlank c) = name := by
  obtain ⟨c, gap, rfl⟩ := List.exists_cons_of_ne_nil blank.1
  have first : isBlank c = true := (List.all_eq_true.mp blank.2) c List.mem_cons_self
  rw [List.takeWhile_append_of_pos (by simpa using named.2), List.cons_append,
    List.takeWhile_cons_of_neg (by simp [first]), List.append_nil]

/-- A text without blanks is a name. -/
theorem isName_of_all (filled : name ≠ []) (solid : name.all (fun c => !isBlank c) = true) :
    IsName name :=
  ⟨filled, by simpa using solid⟩

theorem isName_lastVersionName : IsName lastVersionName.toList :=
  isName_of_all (by decide) (by decide)

theorem IsNumber.isName_hashStem (number : IsNumber version) :
    IsName (hashStem.toList ++ version) := by
  have stem : IsName hashStem.toList := isName_of_all (by decide) (by decide)
  exact ⟨List.append_ne_nil_of_right_ne_nil _ number.1,
    List.forall_mem_append.mpr ⟨stem.2, number.isBlank_eq_false⟩⟩

theorem IsNumber.hash_not_mem (number : IsNumber version) : '#' ∉ version := fun member =>
  absurd (number.2 '#' member) (by decide)

/-- A text defines one name. -/
theorem Defines.name_eq {other rest more : List Char} (defines : Defines name text rest)
    (again : Defines other text more) (named : IsName name) (too : IsName other) :
    name = other := by
  obtain ⟨front, back, before, behind, rfl⟩ := defines
  obtain ⟨lead, gap, leading, between, same⟩ := again
  have begins : ∀ {word : List Char}, IsName word → ∀ rest,
      trimStart (word ++ rest) = word ++ rest := by
    intro word named rest
    obtain ⟨c, word, rfl⟩ := List.exists_cons_of_ne_nil named.1
    apply trimStart_eq_self
    intro d first
    obtain rfl := Option.some.inj first
    exact named.2 c List.mem_cons_self
  have whole : name ++ (back ++ rest) = other ++ (gap ++ more) := by
    rw [← begins named, ← begins too, ← trimStart_append_of_isAllBlank before.2,
      List.append_cancel_left same, trimStart_append_of_isAllBlank leading.2]
  rw [← takeWhile_isName named behind rest, whole, takeWhile_isName too between]

/-- What is shown is what is left when the blanks are trimmed. -/
theorem Shows.trim_eq (shows : Shows text line) (begins : ∃ c ∈ text.head?, isBlank c = false)
    (ends : ∃ c ∈ text.getLast?, isBlank c = false) : trim line = text := by
  obtain ⟨lead, trail, before, behind, rfl⟩ := shows
  obtain ⟨first, head, solid⟩ := begins
  obtain ⟨last, back, firm⟩ := ends
  refine trim_between ?_ (fun c same => ?_) (fun c same => ?_) before behind
  · rintro rfl
    contradiction
  · rwa [Option.mem_unique same head]
  · rwa [Option.mem_unique same back]

/-! ## Lines of a header -/

/-- A definition has no condition of a platform in it. -/
theorem Defines.inLine?_eq_none (defines : Defines name text value) (nameless : '#' ∉ name)
    (valueless : '#' ∉ value) : Platform.inLine? text = none := by
  obtain ⟨front, back, before, behind, rfl⟩ := defines
  have gap : ∀ {blanks : List Char}, Gap blanks → '#' ∉ blanks := fun blanks member =>
    absurd (List.all_eq_true.mp blanks.2 '#' member) (by decide)
  have once : '#' ∉ "define".toList ++ (front ++ (name ++ (back ++ value))) := by
    have word : '#' ∉ "define".toList := by decide
    simp only [List.mem_append, not_or]
    exact ⟨word, gap before, nameless, gap behind, valueless⟩
  by_contra some
  obtain ⟨platform, found⟩ := Option.ne_none_iff_exists'.mp some
  have inside := Platform.marker_infix_of_inLine? found
  -- A condition and a definition begin with the only `#` that they have, and differ behind it.
  rcases List.infix_cons_iff.mp inside with ⟨_, begins⟩ | later
  · cases platform <;> exact absurd (List.cons.inj (List.cons.inj begins).2).1 (by decide)
  · have directive : '#' ∈ platform.marker.toList := by cases platform <;> decide
    exact once (later.subset directive)

/-- A line has no condition of a platform and defines no hash of a version. -/
structure Idle (version line : List Char) : Prop where
  noCondition : Platform.inLine? line = none
  noHash : ∀ hash, ¬DefinesHash version line hash

theorem Aside.idle (aside : Aside line) (version : List Char) : Idle version line where
  noCondition := List.find?_eq_none.mpr fun platform _ => by
    simpa [contains_iff_occurs] using aside.noCondition platform
  noHash := by
    rintro hash ⟨_, _, rest, front, back, _, _, same⟩
    have inside : hashStem.toList <:+: trim line :=
      ⟨defineWord ++ front, version ++ (back ++ '"' :: (hash ++ '"' :: rest)), by
        simp only [same, List.append_assoc]⟩
    exact aside.noHash ((infix_trim_iff ⟨'C', rfl, by decide⟩ ⟨'_', rfl, by decide⟩).mp inside)

theorem recordedAt?_of_unread (unanswered : ∀ hash, ¬DefinesHash version line hash)
    (pending : Option Platform) : recordedAt? version pending line = none := by
  have unread : hashInLine? version (trim line) = none :=
    Option.eq_none_iff_forall_not_mem.mpr fun hash read =>
      unanswered hash (hashInLine?_eq_some_iff.mp read)
  rw [recordedAt?, unread]
  cases (Platform.inLine? line).or pending <;> rfl

theorem pendingAfter_of_idle (idle : Idle version line) (pending : Option Platform) :
    pendingAfter version pending line = pending := by
  refine Option.ext fun platform => ?_
  simp [pendingAfter_eq_some_iff, idle.noHash, idle.noCondition]

/-- Idle lines do not bear on what is recorded. -/
theorem hashesInLines_of_idle (idle : ∀ line ∈ above, Idle version line)
    (pending : Option Platform) (below : List (List Char)) :
    hashesInLines version pending (above ++ below) = hashesInLines version pending below := by
  induction above with
  | nil => rfl
  | cons line above ih =>
    obtain ⟨first, later⟩ := List.forall_mem_cons.mp idle
    rw [List.cons_append, hashesInLines_cons, recordedAt?_of_unread first.noHash,
      pendingAfter_of_idle first, ih later]
    rfl

/-! ## Lines with conditions and definitions -/

/-- Where something else is shown than a definition, no hash is defined. -/
theorem not_definesHash (other : ¬defineWord <+: trim line) (version hash : List Char) :
    ¬DefinesHash version line hash := by
  rintro ⟨_, _, _, _, _, _, _, same⟩
  exact other ⟨_, same.symm⟩

/-- The condition of a platform is followed by the wait for its hash. -/
theorem Shows.condition (shows : Shows platform.marker.toList line) (version : List Char) :
    Platform.inLine? line = some platform ∧ ∀ hash, ¬DefinesHash version line hash := by
  have whole := shows.trim_eq platform.marker_ends.1 platform.marker_ends.2
  constructor
  · rw [← Platform.inLine?_trim, whole]
    cases platform <;> decide
  · apply not_definesHash
    rw [whole]
    cases platform <;> decide

theorem Shows.idle_of_end (shows : Shows "#endif".toList line) (version : List Char) :
    Idle version line := by
  have whole := shows.trim_eq ⟨'#', rfl, by decide⟩ ⟨'f', rfl, by decide⟩
  constructor
  · rw [← Platform.inLine?_trim, whole]
    decide
  · apply not_definesHash
    rw [whole]
    decide

/-- A definition that is shown is what the blanks are trimmed to. -/
theorem ShowsDefinition.trim (shows : ShowsDefinition name value line)
    (ends : ∃ c ∈ value.getLast?, isBlank c = false) : Defines name (trim line) value := by
  obtain ⟨text, defines, shows⟩ := shows
  have whole : Text.trim line = text := by
    obtain ⟨front, back, _, _, rfl⟩ := defines
    obtain ⟨last, back, solid⟩ := ends
    refine shows.trim_eq ⟨'#', rfl, by decide⟩ ⟨last, ?_, solid⟩
    simp only [← List.append_assoc]
    exact List.mem_getLast?_append_of_mem_getLast? back
  rwa [whole]

/-- The line with the latest version says nothing of hashes. -/
theorem ShowsDefinition.idle_of_latest {latest : List Char}
    (shows : ShowsDefinition lastVersionName.toList (versionStem.toList ++ latest) line)
    (too : IsNumber latest) (number : IsNumber version) : Idle version line := by
  have stem : '#' ∉ versionStem.toList := by decide
  have last := List.getLast_mem too.1
  have defines := shows.trim ⟨_, List.mem_getLast?_append_of_mem_getLast?
    (List.getLast?_eq_some_getLast too.1), too.isBlank_eq_false _ last⟩
  constructor
  · rw [← Platform.inLine?_trim]
    apply defines.inLine?_eq_none (by decide)
    simp only [List.mem_append, not_or]
    exact ⟨stem, too.hash_not_mem⟩
  · rintro hash ⟨_, _, _, again⟩
    have same := defines.name_eq again isName_lastVersionName number.isName_hashStem
    have differs : some 'V' = some 'H' := congrArg (fun name => name[8]?) same
    contradiction

/-- A hash is read from the line that shows it, for its own version and for no other. -/
theorem ShowsDefinition.hash
    (shows : ShowsDefinition block.hashName (block.quotedHash platform) line)
    (valid : block.Valid) : Platform.inLine? line = none ∧
      ∀ version, IsNumber version → ∀ hash, DefinesHash version line hash ↔
        version = block.version ∧ hash = block.hash platform := by
  have word := valid.words platform
  have ends : '"' ∈ (block.quotedHash platform).getLast? := by
    rw [VersionBlock.quotedHash, ← List.cons_append]
    exact List.getLast?_concat
  have defines := shows.trim ⟨'"', ends, by decide⟩
  refine ⟨?_, fun version number hash => ⟨?_, ?_⟩⟩
  · have stem : '#' ∉ hashStem.toList := by decide
    rw [← Platform.inLine?_trim]
    apply defines.inLine?_eq_none
    · rw [VersionBlock.hashName, List.mem_append, not_or]
      exact ⟨stem, valid.number.hash_not_mem⟩
    · have inside : '#' ∉ block.hash platform := fun member => absurd (word '#' member) (by decide)
      simp [VersionBlock.quotedHash, inside]
  · rintro ⟨_, letters, rest, again⟩
    have same := again.name_eq defines number.isName_hashStem valid.number.isName_hashStem
    obtain rfl := List.append_cancel_left same
    have quoted := again.trimStart_eq defines
    have begins : ∀ rest, trimStart ('"' :: rest) = '"' :: rest := fun rest =>
      trimStart_eq_self (by simp; decide)
    rw [begins, VersionBlock.quotedHash, begins] at quoted
    have both := (List.cons.inj quoted).2
    have first := (takeWhile_isWord_eq_iff.mpr ⟨letters, rest, rfl⟩).1
    have second := (takeWhile_isWord_eq_iff.mpr ⟨word, [], rfl⟩).1
    exact ⟨rfl, by rw [first, second, both]⟩
  · rintro ⟨rfl, rfl⟩
    exact ⟨valid.filled platform, word, [], defines⟩

/-! ## Blocks -/

/-- The hash of a branch is recorded for the platform of the branch, if it is of the version. -/
theorem recordedAt?_of_hash
    (shows : ShowsDefinition block.hashName (block.quotedHash platform) line)
    (valid : block.Valid) (number : IsNumber version) :
    recordedAt? version (some platform) line =
      if block.version = version then some (block.pair platform) else none := by
  obtain ⟨noCondition, hash⟩ := shows.hash valid
  split
  · next same =>
    have read := hashInLine?_eq_some_iff.mpr ((hash version number _).mpr ⟨same.symm, rfl⟩)
    rw [recordedAt?, noCondition, read]
    rfl
  · next other =>
    apply recordedAt?_of_unread
    intro found defines
    exact other ((hash version number found).mp defines).1.symm

/-- A block gives its hashes when it is of the version, and none otherwise, whatever is awaited. -/
theorem Branches.hashesInLines_eq {platforms : List Platform}
    (branches : Branches block platforms lines) (valid : block.Valid) (number : IsNumber version)
    (pending : Option Platform) : hashesInLines version pending lines =
      if block.version = version then platforms.map block.pair else [] := by
  induction branches generalizing pending with
  | @close line ending =>
    rw [hashesInLines_cons, recordedAt?_of_unread (ending.idle_of_end version).noHash, List.map_nil,
      ite_self]
    rfl
  | @branch platform platforms condition line above below rest opens asides shows later _ ih =>
    obtain ⟨seen, unanswered⟩ := opens.condition version
    have awaited : pendingAfter version pending condition = some platform :=
      pendingAfter_eq_some_iff.mpr ⟨unanswered, .inl seen⟩
    rw [hashesInLines_cons, recordedAt?_of_unread unanswered, awaited,
      hashesInLines_of_idle fun other member => (asides other member).idle version,
      hashesInLines_cons, recordedAt?_of_hash shows valid number,
      hashesInLines_of_idle fun other member => (later other member).idle version, ih]
    split <;> rfl

/-- The hashes that are recorded from a header are those of the blocks of the version. -/
theorem Document.hashesInLines_eq {blocks : List VersionBlock} {latest : Option (List Char)}
    (document : Document blocks latest lines) (valid : ∀ block ∈ blocks, block.Valid)
    (numbers : ∀ other ∈ latest, IsNumber other) (number : IsNumber version)
    (pending : Option Platform) : hashesInLines version pending lines =
      (blocks.filter (·.version = version)).flatMap VersionBlock.pairs := by
  induction document generalizing pending with
  | nil => rfl
  | @aside _ _ line rest aside _ ih =>
    rw [← ih valid numbers pending, ← List.singleton_append, hashesInLines_of_idle]
    exact List.forall_mem_singleton.mpr (aside.idle version)
  | @block block blocks _ _ _ branches _ ih =>
    obtain ⟨first, others⟩ := List.forall_mem_cons.mp valid
    rw [hashesInLines_append, branches.hashesInLines_eq first number, ih others numbers]
    by_cases same : block.version = version
    · rw [if_pos same, List.filter_cons_of_pos (by simpa using same), List.flatMap_cons]
      rfl
    · rw [if_neg same, List.filter_cons_of_neg (by simpa using same), List.nil_append]
  | @latest _ _ line rest shows _ ih =>
    rw [← ih valid (by simp) pending, ← List.singleton_append, hashesInLines_of_idle]
    exact List.forall_mem_singleton.mpr (shows.idle_of_latest (numbers _ rfl) number)

/-- The lines of a block that has nothing more than it needs. -/
def VersionBlock.plainLines (block : VersionBlock) : List (List Char) :=
  (Platform.all.flatMap fun platform => [platform.marker.toList,
    defineWord ++ (' ' :: (block.hashName ++ ' ' :: block.quotedHash platform))]) ++
      ["#endif".toList]

theorem VersionBlock.branches_plainLines (block : VersionBlock) :
    Branches block Platform.all block.plainLines := by
  have shows : ∀ text, Shows text text := fun text =>
    ⟨[], [], rfl, rfl, by rw [List.nil_append, List.append_nil]⟩
  have branch : ∀ {platforms rest} (platform : Platform), Branches block platforms rest →
      Branches block (platform :: platforms) (platform.marker.toList ::
        (defineWord ++ (' ' :: (block.hashName ++ ' ' :: block.quotedHash platform))) :: rest) := by
    intro platforms rest platform branches
    have defines : Defines block.hashName
        (defineWord ++ (' ' :: (block.hashName ++ ' ' :: block.quotedHash platform)))
        (block.quotedHash platform) :=
      ⟨[' '], [' '], ⟨by decide, by decide⟩, ⟨by decide, by decide⟩, rfl⟩
    have none : ∀ other ∈ ([] : List (List Char)), Aside other := by simp
    exact .branch (shows _) none ⟨_, defines, shows _⟩ none branches
  exact branch _ (branch _ (branch _ (.close (shows _))))

/-- What is recorded from lines does not depend on the blanks at their ends. -/
theorem hashesInLines_congr {others : List (List Char)} (same : lines.map trim = others.map trim)
    (pending : Option Platform) :
    hashesInLines version pending lines = hashesInLines version pending others := by
  induction lines generalizing others pending with
  | nil => rw [List.map_eq_nil_iff.mp same.symm]
  | cons line lines ih =>
    obtain ⟨other, others, rfl, first, later⟩ := List.map_eq_cons_iff.mp same.symm
    have condition : Platform.inLine? line = Platform.inLine? other := by
      rw [← Platform.inLine?_trim, ← first, Platform.inLine?_trim]
    have recorded : recordedAt? version pending line = recordedAt? version pending other := by
      rw [recordedAt?, recordedAt?, first, condition]
    have awaited : pendingAfter version pending line = pendingAfter version pending other := by
      rw [pendingAfter, pendingAfter, first, condition]
    rw [hashesInLines_cons, hashesInLines_cons, recorded, awaited, ih later.symm]

/-! ## The line of the latest version -/

theorem Aside.quiet (aside : Aside line) : Quiet line := quiet_of_absent aside.noLatest

/-- What is shown in a quiet text is shown in a quiet line. -/
theorem Shows.quiet (shows : Shows text line) (quiet : Quiet text) : Quiet line := by
  obtain ⟨lead, trail, before, behind, rfl⟩ := shows
  exact (quiet.prepend before).append_of_isAllBlank behind

/-- The line of a hash is quiet, even if the hash is the name of the latest version. -/
theorem ShowsDefinition.quiet
    (shows : ShowsDefinition block.hashName (block.quotedHash platform) line)
    (valid : block.Valid) : Quiet line := by
  obtain ⟨text, ⟨front, back, before, behind, rfl⟩, shows⟩ := shows
  apply shows.quiet
  have word : Quiet defineWord := quiet_of_absent (by decide)
  have name : Quiet block.hashName := by
    apply quiet_of_not_prefix valid.number.isName_hashStem.2
    rintro ⟨rest, same⟩
    have differs : some 'V' = some 'H' := congrArg (fun name => name[8]?) same
    contradiction
  have hash : Quiet (block.quotedHash platform) := by
    apply quiet_of_not_prefix
    · have quote : isBlank '"' = false := by decide
      have solid : ∀ c ∈ block.hash platform, isBlank c = false := by
        intro c member
        by_contra blank
        have word := valid.words platform c member
        rw [isWord_of_isBlank (by simpa using blank)] at word
        contradiction
      simpa [VersionBlock.quotedHash, or_imp, forall_and, quote] using solid
    · rintro ⟨rest, same⟩
      exact absurd (List.cons.inj same).1 (by decide)
  exact word.append_gap (name.append_gap hash behind) before

/-- No line of a block is where the latest version is found. -/
theorem Branches.quiet {platforms : List Platform} (branches : Branches block platforms lines)
    (valid : block.Valid) : ∀ line ∈ lines, Quiet line := by
  induction branches with
  | close ending =>
    exact List.forall_mem_singleton.mpr (ending.quiet (quiet_of_absent (by decide)))
  | @branch platform _ _ _ _ _ _ opens asides shows later _ ih =>
    have condition : Quiet platform.marker.toList :=
      quiet_of_absent (by cases platform <;> decide)
    rw [List.forall_mem_cons, List.forall_mem_append, List.forall_mem_cons, List.forall_mem_append]
    exact ⟨opens.quiet condition, fun other member => (asides other member).quiet,
      shows.quiet valid, fun other member => (later other member).quiet, ih⟩

/-- The line of the latest version has quiet lines above it. -/
theorem Document.exists_latest {blocks : List VersionBlock}
    (document : Document blocks (some version) lines) (valid : ∀ block ∈ blocks, block.Valid) :
    ∃ above line below, lines = above ++ line :: below ∧ (∀ other ∈ above, Quiet other) ∧
      ShowsDefinition lastVersionName.toList (versionStem.toList ++ version) line := by
  generalize given : some version = latest at document
  induction document with
  | nil => contradiction
  | @aside _ _ line _ aside _ ih =>
    obtain ⟨above, last, below, rfl, quiet, shows⟩ := ih valid given
    exact ⟨line :: above, last, below, rfl, List.forall_mem_cons.mpr ⟨aside.quiet, quiet⟩, shows⟩
  | @block _ _ _ lines _ branches _ ih =>
    obtain ⟨first, others⟩ := List.forall_mem_cons.mp valid
    obtain ⟨above, last, below, rfl, quiet, shows⟩ := ih others given
    exact ⟨lines ++ above, last, below, (List.append_assoc ..).symm,
      List.forall_mem_append.mpr ⟨branches.quiet first, quiet⟩, shows⟩
  | @latest _ _ line rest shows _ _ =>
    obtain rfl := Option.some.inj given
    exact ⟨[], line, rest, rfl, by simp, shows⟩

/-! ## Headers -/

/-- What is read from a header of version blocks is the latest version, and the hashes of its block
in their order. -/
theorem apiHashes_of_document {blocks : List VersionBlock} {header : String}
    (valid : ∀ block ∈ blocks, block.Valid)
    (distinct : (blocks.map VersionBlock.version).Nodup) (member : block ∈ blocks)
    (document : Document blocks (some block.version) lines)
    (renders : Renders lines header.toList) :
    apiHashes header = .ok ⟨String.ofList block.version, block.pairs⟩ := by
  have number := (valid block member).number
  obtain ⟨above, line, below, rfl, quiet, shows⟩ := document.exists_latest valid
  have latest := lastVersion?_of_renders number shows quiet renders
  have recorded := document.hashesInLines_eq valid (by simpa using number) number none
  rw [filter_key_eq member distinct, List.flatMap_singleton] at recorded
  rw [apiHashes, latest]
  simp only
  rw [hashesInLines_congr (map_trim_lines renders), recorded]

/-- The hashes of version 133. -/
def shortVersion : VersionBlock :=
  ⟨"133".toList, fun
    | .windows => "a1".toList
    | .mac => "b2".toList
    | .linux => "c3".toList⟩

/-- The hashes of version 1330. -/
def longVersion : VersionBlock :=
  ⟨"1330".toList, fun
    | .windows => "d4".toList
    | .mac => "e5".toList
    | .linux => "f6".toList⟩

/-- A comment, the blocks of both versions, and the latest version between them. -/
def twoVersions : List (List Char) :=
  "// Versions".toList :: (longVersion.plainLines ++
    "  #define CEF_API_VERSION_LAST CEF_API_VERSION_133".toList :: (shortVersion.plainLines ++ []))

theorem apiHashes_of_document_twoVersions :
    apiHashes (String.ofList (twoVersions.flatMap (· ++ ['\r', '\n']))) =
      .ok ⟨"133", [(.windows, "a1"), (.mac, "b2"), (.linux, "c3")]⟩ := by
  have aside : Aside "// Versions".toList :=
    ⟨fun platform => by cases platform <;> decide, by decide, by decide⟩
  have latest : ShowsDefinition lastVersionName.toList (versionStem.toList ++ shortVersion.version)
      "  #define CEF_API_VERSION_LAST CEF_API_VERSION_133".toList :=
    ⟨"#define CEF_API_VERSION_LAST CEF_API_VERSION_133".toList,
      ⟨[' '], [' '], ⟨by decide, by decide⟩, ⟨by decide, by decide⟩, rfl⟩,
      [' ', ' '], [], by decide, by decide, rfl⟩
  have document : Document [longVersion, shortVersion] (some shortVersion.version) twoVersions :=
    .aside aside (.block longVersion.branches_plainLines (.latest latest
      (.block shortVersion.branches_plainLines .nil)))
  have valid : ∀ block ∈ [longVersion, shortVersion], block.Valid := by
    rw [List.forall_mem_cons, List.forall_mem_singleton]
    constructor
    all_goals
      exact ⟨⟨by decide, List.all_eq_true.mp (by decide)⟩,
        fun platform => by cases platform <;> decide,
        fun platform => List.all_eq_true.mp (by cases platform <;> decide +kernel)⟩
  have ends : ['\r', '\n'] ∈ lineEnds := by decide
  refine apiHashes_of_document valid (by decide) (by simp) document ?_
  rw [String.toList_ofList]
  exact renders_flatMap ends (by decide +kernel)

end Bindery.Header
