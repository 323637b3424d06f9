import Mathlib.Data.List.Basic
import Bindery.Proofs.Source.Names
import Bindery.Proofs.Text.Splitting

/-! # Rows of generated code

What generated code says is read off the rows of its text: how far a row is indented says in how
many blocks it stands. Main statements: where no row has a line feed, the rows of a generated file
are the lines of its text (`splitOn_text_sourceFile`); the rows of a file with one type are those of
the body of the type and others that stand in fewer blocks (`exists_rows_sourceFile`); and the rows
of a block are found by its heading (`bodyOf_eq`).
-/

namespace Bindery

namespace Code

/-! ## Rows -/

/-- A row inside `depth` blocks; an empty one is not indented. -/
def row (depth : Nat) (text : String) : String :=
  if text.isEmpty then "" else String.ofList (List.replicate (depth * 4) ' ') ++ text

/-- The rows of the comment that begins every generated file. -/
def bannerRows : List String := ["//", "// DO NOT MODIFY! THIS IS AUTOGENERATED FILE!", "//"]

/-- The rows of code that stands inside `depth` blocks. -/
def rows : (depth : Nat) → Code → List String
  | _, [] => []
  | depth, .line text :: rest => row depth text :: rows depth rest
  | depth, .blank :: rest => "" :: rows depth rest
  | depth, .banner :: rest => bannerRows ++ rows depth rest
  | depth, .enter heading :: rest =>
    row depth heading :: row depth openBrace :: rows (depth + 1) rest
  | depth, .leave :: rest => row (depth - 1) closeBrace :: rows (depth - 1) rest

/-- Code of lines and whole blocks. -/
inductive WellNested : Code → Prop
  | nil : WellNested []
  | line {text : String} {rest : Code} : WellNested rest → WellNested (.line text :: rest)
  | blank {rest : Code} : WellNested rest → WellNested (.blank :: rest)
  | block {heading : String} {body rest : Code} : WellNested body → WellNested rest →
    WellNested (Code.block heading body ++ rest)

namespace WellNested

attribute [grind ←] nil line blank

variable {code first second body : Code} {heading : String}

@[grind ←]
theorem append (left : WellNested first) (right : WellNested second) :
    WellNested (first ++ second) := by
  induction left with
  | nil => exact right
  | line _ ih => exact .line ih
  | blank _ ih => exact .blank ih
  | block inner _ _ ih =>
    rw [List.append_assoc]
    exact .block inner ih

@[grind ←]
theorem braced (inner : WellNested body) : WellNested (Code.block heading body) := by
  rw [← List.append_nil (Code.block heading body)]
  exact .block inner .nil

@[grind ←]
theorem spaced (inner : WellNested body) : WellNested (spacedBlock heading body) :=
  inner.braced.append (.blank .nil)

@[grind ←]
theorem concat {parts : List Code} (each : ∀ part ∈ parts, WellNested part) :
    WellNested (Code.concat parts) := by
  induction parts with
  | nil => exact .nil
  | cons part rest ih =>
    obtain ⟨here, later⟩ := List.forall_mem_cons.mp each
    exact here.append (ih later)

@[grind ←]
theorem flatMap {α : Type} {items : List α} {part : α → Code}
    (each : ∀ item ∈ items, WellNested (part item)) : WellNested (items.flatMap part) := by
  rw [List.flatMap_def]
  refine concat fun code member => ?_
  obtain ⟨item, inside, rfl⟩ := List.mem_map.mp member
  exact each item inside

@[grind ←]
theorem map {α : Type} {items : List α} {directive : α → Directive}
    (each : ∀ item ∈ items, WellNested [directive item]) : WellNested (items.map directive) := by
  induction items with
  | nil => exact .nil
  | cons item rest ih =>
    obtain ⟨here, later⟩ := List.forall_mem_cons.mp each
    exact here.append (ih later)

/-- Whether a directive is a line, or a blank one. -/
def plainDirective : Directive → Bool
  | .line _ => true
  | .blank => true
  | _ => false

theorem plain (each : code.all plainDirective = true) : WellNested code := by
  induction code with
  | nil => exact .nil
  | cons directive rest ih =>
    rw [List.all_cons, Bool.and_eq_true] at each
    cases directive with
    | line => exact .line (ih each.2)
    | blank => exact .blank (ih each.2)
    | _ => exact absurd each.1 Bool.false_ne_true

end WellNested

variable {code first second body : Code} {heading : String} {depth : Nat}

/-- A block has its heading, its braces and the rows of its body, whatever comes after it. -/
theorem rows_block_append {body : Code}
    (inside : ∀ depth rest, rows depth (body ++ rest) = rows depth body ++ rows depth rest)
    (depth : Nat) (heading : String) (rest : Code) :
    rows depth (block heading body ++ rest) =
      row depth heading :: row depth openBrace ::
        (rows (depth + 1) body ++ row depth closeBrace :: rows depth rest) := by
  rw [block, List.cons_append, List.cons_append, List.append_assoc, rows, inside,
    List.singleton_append, rows, Nat.add_sub_cancel]

theorem rows_append (nested : WellNested first) (depth : Nat) (second : Code) :
    rows depth (first ++ second) = rows depth first ++ rows depth second := by
  induction nested generalizing depth second with
  | nil => rfl
  | line _ ih => rw [List.cons_append, rows, rows, ih, List.cons_append]
  | blank _ ih => rw [List.cons_append, rows, rows, ih, List.cons_append]
  | block _ _ inside after =>
    rw [List.append_assoc, rows_block_append inside, rows_block_append inside, after]
    simp only [List.cons_append, List.append_assoc]

theorem rows_block (nested : WellNested body) (depth : Nat) (heading : String) :
    rows depth (block heading body) =
      row depth heading :: row depth openBrace ::
        (rows (depth + 1) body ++ [row depth closeBrace]) := by
  have alone := rows_block_append (rows_append nested) depth heading []
  rwa [List.append_nil] at alone

theorem rows_concat {parts : List Code} (nested : ∀ part ∈ parts, WellNested part) (depth : Nat) :
    rows depth (concat parts) = parts.flatMap (rows depth) := by
  induction parts with
  | nil => rfl
  | cons part rest ih =>
    obtain ⟨here, later⟩ := List.forall_mem_cons.mp nested
    rw [concat, List.flatten_cons, rows_append here, List.flatMap_cons, ← ih later, concat]

theorem rows_flatMap {α : Type} {items : List α} {part : α → Code}
    (nested : ∀ item ∈ items, WellNested (part item)) (depth : Nat) :
    rows depth (items.flatMap part) = items.flatMap fun item => rows depth (part item) := by
  have each : ∀ code ∈ items.map part, WellNested code := by simpa using nested
  rw [List.flatMap_def, ← concat, rows_concat each, List.flatMap_map]

/-- Every row of code stands at least as deep as the code. -/
theorem exists_row_of_mem_rows (nested : WellNested code) {text : String}
    (member : text ∈ rows depth code) : ∃ inner line, depth ≤ inner ∧ text = row inner line := by
  induction nested generalizing depth with
  | nil => cases member
  | @line line rest _ ih =>
    rcases List.mem_cons.mp member with rfl | later
    · exact ⟨depth, line, Nat.le_refl _, rfl⟩
    · exact ih later
  | blank _ ih =>
    rcases List.mem_cons.mp member with rfl | later
    · exact ⟨depth, "", Nat.le_refl _, rfl⟩
    · exact ih later
  | @block heading body rest nested _ inside after =>
    rw [rows_append nested.braced, rows_block nested] at member
    simp only [List.mem_append, List.mem_cons, List.not_mem_nil, or_false] at member
    rcases member with (rfl | rfl | member | rfl) | later
    · exact ⟨depth, heading, Nat.le_refl _, rfl⟩
    · exact ⟨depth, openBrace, Nat.le_refl _, rfl⟩
    · obtain ⟨inner, line, deep, same⟩ := inside member
      exact ⟨inner, line, Nat.le_of_succ_le deep, same⟩
    · exact ⟨depth, closeBrace, Nat.le_refl _, rfl⟩
    · exact after later

/-! ## Rows and text -/

theorem lineText_eq_row (depth : Nat) (line : String) :
    lineText 4 depth line = row depth line ++ "\n" := by
  unfold lineText row
  split
  · rfl
  · rw [String.append_assoc]

theorem pieces_append (nested : WellNested first) (depth : Nat) (second : Code) :
    pieces 4 depth (first ++ second) =
      (rows depth first).map (· ++ "\n") ++ pieces 4 depth second := by
  induction nested generalizing depth second with
  | nil => rfl
  | line _ ih =>
    rw [List.cons_append, pieces, rows, ih, List.map_cons, lineText_eq_row, List.cons_append]
  | blank _ ih =>
    rw [List.cons_append, pieces, rows, ih, List.map_cons, List.cons_append]
    rfl
  | block nested _ inside after =>
    rw [rows_append nested.braced, rows_block nested, block, List.append_assoc, List.cons_append,
      List.cons_append, List.append_assoc, pieces, inside, List.singleton_append, pieces,
      Nat.add_sub_cancel, after]
    simp [lineText_eq_row]

/-- The text of a generated file is that of its rows, each with the end of its line. -/
theorem text_sourceFile {name : String} (nested : WellNested body) :
    (sourceFile name body).text =
      String.join ((rows 0 (sourceFile name body)).map (· ++ "\n")) := by
  have braced : WellNested (block s!"namespace {name}" body) := nested.braced
  have whole := pieces_append braced 0 []
  have banner : String.join (bannerRows.map (· ++ "\n")) = bannerText := by decide
  rw [List.append_nil, pieces, closing, List.append_nil] at whole
  rw [text, textWith, sourceFile, pieces, rows, whole, List.map_append, String.join_append, banner,
    String.join_cons]

/-- No line of code goes over the end of a line. -/
def Unbroken (code : Code) : Prop := ∀ line, code.Writes line → '\n' ∉ line.toList

theorem not_mem_row {line : String} (unbroken : '\n' ∉ line.toList) (depth : Nat) :
    '\n' ∉ (row depth line).toList := by
  unfold row
  split
  · simp
  · rw [String.toList_append, String.toList_ofList, List.mem_append, not_or]
    exact ⟨fun member => absurd (List.eq_of_mem_replicate member) (by decide), unbroken⟩

theorem not_mem_of_mem_rows (unbroken : code.Unbroken) {text : String}
    (member : text ∈ rows depth code) : '\n' ∉ text.toList := by
  induction depth, code using rows.induct with
  | case1 => cases member
  | case2 depth line rest ih =>
    rcases List.mem_cons.mp member with rfl | later
    · exact not_mem_row (unbroken line (by simp)) depth
    · exact ih (fun other written => unbroken other (by simp [written])) later
  | case3 depth rest ih =>
    rcases List.mem_cons.mp member with rfl | later
    · simp
    · exact ih (fun other written => unbroken other (by simp [written])) later
  | case4 depth rest ih =>
    rcases List.mem_append.mp member with inBanner | later
    · have plain : ∀ line ∈ bannerRows, '\n' ∉ line.toList := by decide
      exact plain text inBanner
    · exact ih (fun other written => unbroken other (by simp [written])) later
  | case5 depth heading rest ih =>
    rcases List.mem_cons.mp member with rfl | later
    · exact not_mem_row (unbroken heading (.inr List.mem_cons_self)) depth
    · rcases List.mem_cons.mp later with rfl | inside
      · exact not_mem_row (by decide) depth
      · exact ih (fun other written =>
          unbroken other (written.imp (List.mem_cons_of_mem _) (List.mem_cons_of_mem _))) inside
  | case6 depth rest ih =>
    rcases List.mem_cons.mp member with rfl | later
    · exact not_mem_row (by decide) (depth - 1)
    · exact ih (fun other written =>
        unbroken other (written.imp (List.mem_cons_of_mem _) (List.mem_cons_of_mem _))) later

/-- A text of ended lines has these lines, and nothing after the last of them. -/
theorem splitOn_join {lines : List String} (unbroken : ∀ line ∈ lines, '\n' ∉ line.toList) :
    Text.splitOn '\n' (String.join (lines.map (· ++ "\n"))).toList =
      lines.map String.toList ++ [[]] := by
  induction lines with
  | nil => rfl
  | cons line rest ih =>
    obtain ⟨here, later⟩ := List.forall_mem_cons.mp unbroken
    have ended : (line ++ "\n").toList = line.toList ++ ['\n'] := by simp
    rw [List.map_cons, String.join_cons, String.toList_append, ended, List.append_assoc,
      List.singleton_append, Text.splitOn_append_cons, Text.splitOn_of_not_mem here, ih later,
      List.singleton_append, List.map_cons, List.cons_append]

/-- The lines of a generated file's text are its rows. -/
theorem splitOn_text_sourceFile {name : String} (nested : WellNested body)
    (unbroken : (sourceFile name body).Unbroken) :
    Text.splitOn '\n' (sourceFile name body).text.toList =
      (rows 0 (sourceFile name body)).map String.toList ++ [[]] := by
  rw [text_sourceFile nested]
  exact splitOn_join fun line member => not_mem_of_mem_rows unbroken member

/-! ## Reading rows -/

/-- Whether a text begins with something else than a blank, and is of a kind. -/
def isFlush (kind : List Char → Bool) : List Char → Bool
  | [] => false
  | c :: text => c ≠ ' ' && kind (c :: text)

/-- Whether a row stands in a number of blocks and is of a kind. -/
def standsAt (depth : Nat) (kind : List Char → Bool) (text : String) : Bool :=
  match Text.after? (List.replicate (depth * 4) ' ') text.toList with
  | some rest => isFlush kind rest
  | none => false

variable {kind : List Char → Bool}

theorem toList_row {line : String} (filled : line ≠ "") (depth : Nat) :
    (row depth line).toList = List.replicate (depth * 4) ' ' ++ line.toList := by
  rw [row, if_neg (by simpa using filled), String.toList_append, String.toList_ofList]

theorem standsAt_empty (depth : Nat) (kind : List Char → Bool) :
    standsAt depth kind "" = false := by
  cases depth with
  | zero => rfl
  | succ depth => rw [standsAt, Nat.succ_mul]; rfl

@[simp]
theorem standsAt_row (depth : Nat) (kind : List Char → Bool) (line : String) :
    standsAt depth kind (row depth line) = isFlush kind line.toList := by
  by_cases filled : line = ""
  · subst filled
    exact standsAt_empty depth kind
  · have indented := Text.after?_eq_some_iff.mpr (toList_row filled depth)
    rw [standsAt, indented]

/-- A row that stands deeper goes on with a blank. -/
theorem replicate_indentation (depth more : Nat) :
    List.replicate ((depth + more + 1) * 4) ' ' =
      List.replicate (depth * 4) ' ' ++ ' ' :: List.replicate (more * 4 + 3) ' ' := by
  rw [← List.replicate_succ, ← List.replicate_add]
  congr 1
  omega

/-- Rows that stand in more blocks are none of those that stand in fewer. -/
theorem standsAt_row_of_lt {inner : Nat} (deeper : depth < inner) (line : String) :
    standsAt depth kind (row inner line) = false := by
  by_cases filled : line = ""
  · subst filled
    exact standsAt_empty depth kind
  · obtain ⟨more, rfl⟩ := Nat.exists_eq_add_of_lt deeper
    have indented := toList_row filled (depth + more + 1)
    rw [replicate_indentation, List.append_assoc] at indented
    rw [standsAt, Text.after?_eq_some_iff.mpr indented]
    rfl

/-- A line that is not indented by itself. -/
def Flush (line : String) : Prop := isFlush (fun _ => true) line.toList = true

/-- Rows that stand in fewer blocks are none of those that stand in more. -/
theorem standsAt_row_of_gt {outer : Nat} (higher : outer < depth) {line : String}
    (flush : Flush line) :
    standsAt depth kind (row outer line) = false := by
  have filled : line ≠ "" := by
    rintro rfl
    exact absurd flush Bool.false_ne_true
  obtain ⟨more, rfl⟩ := Nat.exists_eq_add_of_lt higher
  unfold standsAt
  split
  · next rest indented =>
    rw [Text.after?_eq_some_iff, toList_row filled, replicate_indentation, List.append_assoc]
      at indented
    rw [Flush, List.append_cancel_left indented] at flush
    exact absurd flush Bool.false_ne_true
  · rfl

/-! ## The surface of code -/

/-- The lines and headings of code that are not in one of its own blocks, when the first of them
stands `inside` blocks. -/
def surface : (inside : Nat) → Code → List String
  | _, [] => []
  | 0, .line text :: rest => text :: surface 0 rest
  | inside + 1, .line _ :: rest => surface (inside + 1) rest
  | inside, .blank :: rest => surface inside rest
  | inside, .banner :: rest => surface inside rest
  | 0, .enter heading :: rest => heading :: surface 1 rest
  | inside + 1, .enter _ :: rest => surface (inside + 2) rest
  | inside, .leave :: rest => surface (inside - 1) rest

theorem surface_succ_append (nested : WellNested first) (inside : Nat) (second : Code) :
    surface (inside + 1) (first ++ second) = surface (inside + 1) second := by
  induction nested generalizing inside second with
  | nil => rfl
  | line _ ih => exact ih inside second
  | blank _ ih => exact ih inside second
  | block _ _ within after =>
    rw [block, List.append_assoc, List.cons_append, List.cons_append, List.append_assoc, surface,
      within, List.singleton_append, surface, Nat.add_sub_cancel, after]

theorem surface_block_append (nested : WellNested body) (heading : String) (rest : Code) :
    surface 0 (block heading body ++ rest) = heading :: surface 0 rest := by
  rw [block, List.cons_append, List.cons_append, List.append_assoc, surface,
    surface_succ_append nested, List.singleton_append, surface]

@[simp]
theorem surface_append (nested : WellNested first) (second : Code) :
    surface 0 (first ++ second) = surface 0 first ++ surface 0 second := by
  induction nested generalizing second with
  | nil => rfl
  | line _ ih => rw [List.cons_append, surface, surface, ih, List.cons_append]
  | blank _ ih => rw [List.cons_append, surface, surface, ih]
  | block nested _ _ after =>
    rw [List.append_assoc, surface_block_append nested, surface_block_append nested, after,
      List.cons_append]

theorem surface_block (nested : WellNested body) (heading : String) :
    surface 0 (block heading body) = [heading] := by
  rw [← List.append_nil (block heading body), surface_block_append nested, surface]

theorem surface_spacedBlock (nested : WellNested body) (heading : String) :
    surface 0 (spacedBlock heading body) = [heading] := by
  rw [spacedBlock, surface_block_append nested, surface, surface]

theorem surface_concat {parts : List Code} (nested : ∀ part ∈ parts, WellNested part) :
    surface 0 (concat parts) = parts.flatMap (surface 0) := by
  induction parts with
  | nil => rfl
  | cons part rest ih =>
    obtain ⟨here, later⟩ := List.forall_mem_cons.mp nested
    rw [concat, List.flatten_cons, surface_append here, List.flatMap_cons, ← ih later, concat]

theorem surface_flatMap {α : Type} {items : List α} {part : α → Code}
    (nested : ∀ item ∈ items, WellNested (part item)) :
    surface 0 (items.flatMap part) = items.flatMap fun item => surface 0 (part item) := by
  have each : ∀ code ∈ items.map part, WellNested code := by simpa using nested
  rw [List.flatMap_def, ← concat, surface_concat each, List.flatMap_map]

theorem surface_map {α : Type} (items : List α) (line : α → String) :
    surface 0 (items.map fun item => .line (line item)) = items.map line := by
  induction items with
  | nil => rfl
  | cons item rest ih => rw [List.map_cons, surface, ih, List.map_cons]

/-- The rows of a kind that stand where the code stands are those of its surface. Braces are of no
kind. -/
theorem filter_rows_eq (nested : WellNested code) (opening : kind openBrace.toList = false)
    (closing : kind closeBrace.toList = false) (depth : Nat) :
    (rows depth code).filter (standsAt depth kind) =
      ((surface 0 code).filter fun line => isFlush kind line.toList).map (row depth) := by
  have noBraces : isFlush kind openBrace.toList = false ∧ isFlush kind closeBrace.toList = false :=
    ⟨by simpa [isFlush, openBrace] using opening, by simpa [isFlush, closeBrace] using closing⟩
  induction nested with
  | nil => rfl
  | line _ ih =>
    rw [rows, surface, List.filter_cons, List.filter_cons, standsAt_row, ih, apply_ite (List.map _),
      List.map_cons]
  | blank _ ih =>
    rw [rows, surface, List.filter_cons_of_neg (by simp [standsAt_empty]), ih]
  | @block heading body _ nested _ _ after =>
    have deeper : (rows (depth + 1) body).filter (standsAt depth kind) = [] := by
      refine List.filter_eq_nil_iff.mpr fun text member => ?_
      obtain ⟨inner, line, deep, rfl⟩ := exists_row_of_mem_rows nested member
      simp [standsAt_row_of_lt deep]
    rw [rows_append nested.braced, surface_block_append nested, rows_block nested,
      List.filter_append, after]
    simp only [List.filter_cons, standsAt_row, noBraces, List.filter_append, deeper,
      apply_ite (List.map _), Bool.false_eq_true, if_false, List.filter_nil, List.nil_append,
      List.map_cons]
    split <;> rfl

/-- Whether nothing on the surface of code is of a kind. -/
def Lacks (kind : List Char → Bool) (code : Code) : Prop :=
  ∀ line ∈ surface 0 code, kind line.toList = false

theorem isFlush_eq_false {text : List Char} (other : kind text = false) :
    isFlush kind text = false := by
  cases text with
  | nil => rfl
  | cons c text => rw [isFlush, other, Bool.and_false]

namespace Lacks

theorem nil : Lacks kind [] := fun _ member => absurd member List.not_mem_nil

theorem append (nested : WellNested first) (left : Lacks kind first) (right : Lacks kind second) :
    Lacks kind (first ++ second) := by
  rw [Lacks, surface_append nested, List.forall_mem_append]
  exact ⟨left, right⟩

/-- Of a block only the heading is on the surface. -/
theorem block (nested : WellNested body) (other : kind heading.toList = false) :
    Lacks kind (block heading body) := by
  rw [Lacks, surface_block nested]
  exact List.forall_mem_singleton.mpr other

theorem flatMap {α : Type} {items : List α} {part : α → Code}
    (nested : ∀ item ∈ items, WellNested (part item))
    (each : ∀ item ∈ items, Lacks kind (part item)) : Lacks kind (items.flatMap part) := by
  rw [Lacks, surface_flatMap nested]
  intro line member
  obtain ⟨item, inside, here⟩ := List.mem_flatMap.mp member
  exact each item inside line here

theorem filter_eq (lacks : Lacks kind code) :
    ((surface 0 code).filter fun line => isFlush kind line.toList) = [] :=
  List.filter_eq_nil_iff.mpr fun line member => by simp [isFlush_eq_false (lacks line member)]

theorem standsAt_eq_false (lacks : Lacks kind code) (nested : WellNested code)
    (opening : kind openBrace.toList = false) (closing : kind closeBrace.toList = false)
    {text : String} (member : text ∈ rows depth code) : standsAt depth kind text = false := by
  have none := filter_rows_eq nested opening closing depth
  rw [lacks.filter_eq, List.map_nil, List.filter_eq_nil_iff] at none
  simpa using none text member

end Lacks

/-! ## Files with one type -/

/-- Lines that are not indented by themselves, with blank lines between them. -/
def Preamble (code : Code) : Prop :=
  ∀ directive ∈ code, directive = .blank ∨ ∃ line, directive = .line line ∧ Flush line

theorem Preamble.wellNested (lines : Preamble code) : WellNested code := by
  induction code with
  | nil => exact .nil
  | cons directive rest ih =>
    obtain ⟨here, later⟩ := List.forall_mem_cons.mp lines
    obtain rfl | ⟨line, rfl, _⟩ := here
    · exact .blank (ih later)
    · exact .line (ih later)

theorem Preamble.standsAt_eq_false (lines : Preamble code) {outer : Nat} (higher : outer < depth)
    {text : String} (member : text ∈ rows outer code) : standsAt depth kind text = false := by
  induction code with
  | nil => cases member
  | cons directive rest ih =>
    obtain ⟨here, later⟩ := List.forall_mem_cons.mp lines
    obtain rfl | ⟨line, rfl, flush⟩ := here
    · rcases List.mem_cons.mp member with rfl | member
      · exact standsAt_empty depth kind
      · exact ih later member
    · rcases List.mem_cons.mp member with rfl | member
      · exact standsAt_row_of_gt higher flush
      · exact ih later member

/-- The rows of a file with one type: those of the type's body stand in two blocks, and no others
do. -/
theorem exists_rows_sourceFile {preamble : Code} (lines : Preamble preamble)
    (nested : WellNested body) (flush : Flush heading) (name : String) : ∃ before after,
      rows 0 (sourceFile name (preamble ++ block heading body)) = before ++ rows 2 body ++ after ∧
        ∀ text ∈ before ++ after, ∀ kind, standsAt 2 kind text = false := by
  let before := bannerRows ++ row 0 s!"namespace {name}" :: row 0 openBrace :: rows 1 preamble ++
    [row 1 heading, row 1 openBrace]
  refine ⟨before, [row 1 closeBrace, row 0 closeBrace], ?_, ?_⟩
  · have inside : WellNested (preamble ++ block heading body) :=
      lines.wellNested.append nested.braced
    rw [sourceFile, rows, rows_block inside, rows_append lines.wellNested, rows_block nested]
    simp [before]
  · intro text member kind
    have outside : ∀ row ∈ bannerRows, standsAt 2 kind row = false := fun row inBanner => by
      have short : ∀ row ∈ bannerRows, Text.after? (List.replicate 8 ' ') row.toList = none := by
        decide
      rw [standsAt, short row inBanner]
    have brace : Flush openBrace ∧ Flush closeBrace := ⟨rfl, rfl⟩
    have opening : Flush s!"namespace {name}" := by simp [Flush, isFlush, toString]
    simp only [before, List.mem_append, List.mem_cons, List.not_mem_nil, or_false] at member
    rcases member with ((member | rfl | rfl | member) | rfl | rfl) | rfl | rfl
    · exact outside text member
    · exact standsAt_row_of_gt (by decide) opening
    · exact standsAt_row_of_gt (by decide) brace.1
    · exact lines.standsAt_eq_false (by decide) member
    · exact standsAt_row_of_gt (by decide) flush
    · exact standsAt_row_of_gt (by decide) brace.1
    · exact standsAt_row_of_gt (by decide) brace.2
    · exact standsAt_row_of_gt (by decide) brace.2

/-- What a file with one type has of a kind, two blocks in, is on the surface of the type's body. -/
theorem filter_rows_sourceFile {preamble : Code} (lines : Preamble preamble)
    (nested : WellNested body) (flush : Flush heading) (name : String)
    (opening : kind openBrace.toList = false) (closing : kind closeBrace.toList = false) :
    (rows 0 (sourceFile name (preamble ++ block heading body))).filter (standsAt 2 kind) =
      ((surface 0 body).filter fun line => isFlush kind line.toList).map (row 2) := by
  obtain ⟨before, after, same, outside⟩ := exists_rows_sourceFile lines nested flush name
  have none : ∀ part : List String, (∀ text ∈ part, text ∈ before ++ after) →
      part.filter (standsAt 2 kind) = [] := fun part inside =>
    List.filter_eq_nil_iff.mpr fun text member => by simp [outside text (inside text member) kind]
  rw [same, List.filter_append, List.filter_append,
    none before fun text => List.mem_append_left after,
    none after fun text => List.mem_append_right before, List.nil_append, List.append_nil,
    filter_rows_eq nested opening closing]

/-- The rows of the first block with a heading. -/
def bodyOf (depth : Nat) (heading : String) (text : List String) : List String :=
  ((text.dropWhile fun row => !standsAt depth (· == heading.toList) row).drop 2).takeWhile
    fun row => !standsAt depth (· == closeBrace.toList) row

theorem bodyOf_eq {before : List String}
    (fresh : ∀ text ∈ before, standsAt depth (· == heading.toList) text = false)
    (after : List String) (flush : Flush heading) (nested : WellNested body) :
    bodyOf depth heading (before ++ rows depth (block heading body) ++ after) =
      rows (depth + 1) body := by
  have found : standsAt depth (· == heading.toList) (row depth heading) = true := by
    rw [standsAt_row]
    revert flush
    unfold Flush
    cases heading.toList with
    | nil => simp [isFlush]
    | cons c text => simp [isFlush]
  have deeper : ∀ text ∈ rows (depth + 1) body,
      standsAt depth (· == closeBrace.toList) text = false := by
    intro text member
    obtain ⟨inner, line, deep, rfl⟩ := exists_row_of_mem_rows nested member
    exact standsAt_row_of_lt deep line
  have closed : standsAt depth (· == closeBrace.toList) (row depth closeBrace) = true := by
    rw [standsAt_row]
    rfl
  rw [bodyOf, rows_block nested, List.append_assoc,
    List.dropWhile_append_of_pos (by simpa using fresh), List.cons_append,
    List.dropWhile_cons_of_neg (by simp [found])]
  rw [List.cons_append, List.drop_succ_cons, List.drop_succ_cons, List.drop_zero, List.append_assoc,
    List.takeWhile_append_of_pos (by simpa using deeper), List.singleton_append,
    List.takeWhile_cons_of_neg (by simp [closed]), List.append_nil]

end Code

end Bindery
