import Bindery.Proofs.Source.Blocks
import Bindery.Source.Context

/-! # Documentation comments in print

A documentation comment has one line for each comment that is worth one, and every line of it begins
with the mark of such comments. This holds as long as the comments themselves go over no end of a
line: trimming takes such ends from both sides of a comment, and escaping leaves those inside of it
as they are. Main statement: what a documentation comment adds to a draft stays inside the comment
exactly when no trimmed comment has an end of a line in it (`keepsInside_iff`).
-/

namespace Bindery

open Text (LineEnds)

namespace Text.Xml

/-- Reading entities brings in none but the four special characters. -/
theorem mem_of_mem_unescape {c : Char} {s : List Char} (member : c ∈ unescape s) :
    c ∈ s ∨ c ∈ ['&', '<', '>', '"'] := by
  fun_induction unescape s with
  | case1 rest ih | case2 rest ih | case3 rest ih | case4 rest ih =>
    rcases List.mem_cons.mp member with rfl | later
    · simp
    · exact (ih later).imp_left fun inside => by simp [inside]
  | case5 d rest _ _ _ _ ih =>
    rcases List.mem_cons.mp member with rfl | later
    · exact .inl List.mem_cons_self
    · exact (ih later).imp_left (List.mem_cons_of_mem _)
  | case6 => cases member

end Text.Xml

namespace Draft

/-- The indentation of the next line. -/
def indentation (draft : Draft) : List Char := List.replicate (draft.indent * draft.depth) ' '

/-- The lines of a documentation comment that shows texts. -/
def documented (draft : Draft) (shown : List (List Char)) : List (List Char) :=
  (draft.indentation ++ "/// <summary>".toList) ::
    (shown.map fun text => draft.indentation ++ ("/// ".toList ++ text)) ++
      [draft.indentation ++ "/// </summary>".toList]

/-- What is asked of a text that is added to a draft to document something. It consists of lines that
begin, behind the indentation, with the mark of such comments; it is empty when no comment is worth a
line; and otherwise its lines between the two tags, with the entities in them read, are the trimmed
comments that are worth a line. -/
structure Documents (ends : LineEnds) (draft : Draft) (comment : List String) (added : String)
    (lines : List (List Char)) : Prop where
  ended : ends.Ended added.toList lines
  marked : ∀ line ∈ lines, draft.indentation ++ "///".toList <+: line
  nothing : added = "" ↔ ∀ text ∈ comment, trimmed text = "" ∨ trimmed text = "/"
  shown : added ≠ "" → ∃ shown, lines = draft.documented shown ∧
    shown.map Text.Xml.unescape =
      ((comment.map trimmed).filter fun text => text ≠ "" ∧ text ≠ "/").map String.toList

/-- What the documentation comment adds to a draft is inside the comment. -/
def KeepsInside (ends : LineEnds) (draft : Draft) (comment : List String) : Prop :=
  ∃ added lines, (draft.writeAll (Code.documentation comment)).text = draft.text ++ added ∧
    Documents ends draft comment added lines

end Draft

namespace Code

variable {comment : List String}

theorem keptComments_eq (comment : List String) : keptComments comment =
    (comment.map trimmed).filter fun text => text ≠ "" ∧ text ≠ "/" := by
  refine List.filter_congr fun text _ => ?_
  rw [Bool.eq_iff_iff]
  simp

theorem keptComments_eq_nil_iff : keptComments comment = [] ↔
    ∀ text ∈ comment, trimmed text = "" ∨ trimmed text = "/" := by
  rw [keptComments_eq, List.filter_eq_nil_iff, List.forall_mem_map]
  refine forall₂_congr fun text _ => ?_
  simp only [decide_eq_true_eq, not_and_or, not_not]

/-- The rows of a documentation comment, without their indentation. -/
def commentRows (comment : List String) : List String :=
  if keptComments comment = [] then []
  else "/// <summary>" :: (keptComments comment).map (fun text => "/// " ++ escapeXml text) ++
    ["/// </summary>"]

theorem documentation_eq (comment : List String) :
    documentation comment = (commentRows comment).map .line := by
  unfold documentation commentRows
  split
  · next none => rw [if_pos none, List.map_nil]
  · next kept some =>
    rw [if_neg some, List.map_append, List.map_cons, List.map_map]
    rfl

theorem linesFrom_map_line (depth : Nat) (rows : List String) :
    linesFrom depth (rows.map .line) = rows.map (.text depth) := by
  induction rows with
  | nil => rfl
  | cons row rest ih =>
    rw [List.map_cons, linesFrom, List.map_cons, ← ih]
    rfl

/-- Every row of a documentation comment begins with its mark. -/
theorem mark_of_mem_commentRows {row : String} (member : row ∈ commentRows comment) :
    "///".toList <+: row.toList := by
  unfold commentRows at member
  split at member
  · cases member
  simp only [List.mem_append, List.mem_cons, List.mem_map, List.not_mem_nil, or_false] at member
  rcases member with (rfl | ⟨text, _, rfl⟩) | rfl
  · decide
  · rw [String.toList_append]
    exact ⟨' ' :: (escapeXml text).toList, rfl⟩
  · decide

theorem ne_empty_of_mem_commentRows {row : String} (member : row ∈ commentRows comment) :
    row ≠ "" := by
  rintro rfl
  exact absurd (List.prefix_nil.mp (mark_of_mem_commentRows member)) (by decide)

/-- No row of a documentation comment goes over an end of a line if no comment does. -/
theorem isEnd_of_mem_commentRows {ends : LineEnds}
    (plain : ∀ text ∈ comment, Text.Without ends.isEnd (trimmed text)) {row : String}
    (member : row ∈ commentRows comment) : Text.Without ends.isEnd row := by
  have entities : ∀ c ∈ Text.entityCharacters, ends.isEnd c = false :=
    LineEnds.isEnd_of_all_isSolid (by decide)
  unfold commentRows at member
  split at member
  · cases member
  simp only [List.mem_append, List.mem_cons, List.mem_map, List.not_mem_nil, or_false] at member
  rcases member with (rfl | ⟨text, kept, rfl⟩) | rfl
  · exact LineEnds.isEnd_of_all_isSolid (by decide)
  · obtain ⟨raw, given, rfl⟩ := List.mem_map.mp (List.mem_filter.mp kept).1
    have mark : Text.Without ends.isEnd "/// " := LineEnds.isEnd_of_all_isSolid (by decide)
    exact Text.without_append.mpr ⟨mark, Text.without_escapeXml entities (plain raw given)⟩
  · exact LineEnds.isEnd_of_all_isSolid (by decide)

end Code

namespace Draft

variable {ends : LineEnds} {draft : Draft} {comment : List String}

/-- What a documentation comment adds to a draft. -/
def addition (draft : Draft) (comment : List String) : String :=
  PrintedLine.join draft.indent ((Code.commentRows comment).map (.text draft.depth))

theorem writeAll_documentation (draft : Draft) (comment : List String) :
    (draft.writeAll (Code.documentation comment)).text = draft.text ++ draft.addition comment := by
  rw [writeAll_eq, Code.documentation_eq, Code.linesFrom_map_line]
  rfl

/-- It is written row by row behind the indentation. -/
theorem toList_addition (draft : Draft) (comment : List String) :
    (draft.addition comment).toList =
      ((Code.commentRows comment).map fun row => draft.indentation ++ row.toList).flatMap
        (· ++ ['\n']) := by
  rw [addition, PrintedLine.toList_join, List.map_map]
  congr 1
  refine List.map_congr_left fun row member => ?_
  rw [Function.comp_apply, PrintedLine.shown, PrintedLine.content,
    if_neg (Code.ne_empty_of_mem_commentRows member), String.toList_append, String.toList_ofList]
  rfl

theorem addition_eq_empty_iff : draft.addition comment = "" ↔
    ∀ text ∈ comment, trimmed text = "" ∨ trimmed text = "/" := by
  rw [← Code.keptComments_eq_nil_iff, ← String.toList_eq_nil_iff, toList_addition,
    Code.commentRows]
  split
  · next none => simp [none]
  · next some => simp [some]

/-- If what is added stays inside the comment, no comment goes over an end of a line, since no line
does and the entities bring none in. -/
theorem KeepsInside.without (inside : KeepsInside ends draft comment) :
    ∀ text ∈ comment, Text.Without ends.isEnd (trimmed text) := by
  obtain ⟨added, lines, _, documents⟩ := inside
  intro text member c character
  by_cases worthless : trimmed text = "" ∨ trimmed text = "/"
  · have solid : (trimmed text).toList.all LineEnds.isSolid = true := by
      rcases worthless with same | same <;> rw [same] <;> decide
    exact LineEnds.isEnd_of_all_isSolid solid c character
  · have worthy : trimmed text ≠ "" ∧ trimmed text ≠ "/" := not_or.mp worthless
    have filled : added ≠ "" := fun empty => worthless (documents.nothing.mp empty text member)
    obtain ⟨shown, rfl, read⟩ := documents.shown filled
    have listed : (trimmed text).toList ∈ shown.map Text.Xml.unescape := by
      rw [read]
      exact List.mem_map_of_mem (List.mem_filter.mpr
        ⟨List.mem_map_of_mem member, decide_eq_true worthy⟩)
    obtain ⟨words, inShown, same⟩ := List.mem_map.mp listed
    rw [← same] at character
    rcases Text.Xml.mem_of_mem_unescape character with written | special
    · have line : draft.indentation ++ ("/// ".toList ++ words) ∈ draft.documented shown := by
        simp only [documented, List.mem_append, List.mem_cons, List.mem_map]
        exact .inl (.inr ⟨words, inShown, rfl⟩)
      exact documents.ended.isEnd_eq_false line c (by simp [written])
    · have solid : ['&', '<', '>', '"'].all LineEnds.isSolid = true := by decide
      exact LineEnds.isEnd_of_all_isSolid solid c special

theorem keepsInside_iff (ends : LineEnds) (draft : Draft) (comment : List String) :
    KeepsInside ends draft comment ↔
      ∀ text ∈ comment, Text.Without ends.isEnd (trimmed text) := by
  refine ⟨KeepsInside.without, fun plain => ⟨draft.addition comment,
    (Code.commentRows comment).map fun row => draft.indentation ++ row.toList,
    draft.writeAll_documentation comment, ?_, ?_, addition_eq_empty_iff, fun filled => ?_⟩⟩
  · rw [toList_addition]
    refine LineEnds.ended_flatMap (List.forall_mem_map.mpr fun row member c inside => ?_)
    rcases List.mem_append.mp inside with space | character
    · rw [List.eq_of_mem_replicate space]
      exact ends.space
    · exact Code.isEnd_of_mem_commentRows plain member c character
  · refine List.forall_mem_map.mpr fun row member => ?_
    exact (List.prefix_append_right_inj _).mpr (Code.mark_of_mem_commentRows member)
  · have some : Code.keptComments comment ≠ [] := fun none =>
      filled (addition_eq_empty_iff.mpr (Code.keptComments_eq_nil_iff.mp none))
    refine ⟨(Code.keptComments comment).map fun text => Text.Xml.escape text.toList, ?_, ?_⟩
    · rw [Code.commentRows, if_neg some, documented]
      simp [escapeXml]
    · rw [← Code.keptComments_eq, List.map_map]
      refine List.map_congr_left fun text _ => ?_
      exact Text.Xml.unescape_escape text.toList

/-- A comment of two lines: its second one is no comment any more. -/
theorem not_keepsInside_lineFeed :
    ((new 4).writeAll (Code.documentation ["a\nb"])).text =
        "/// <summary>\n/// a\nb\n/// </summary>\n" ∧
      ¬KeepsInside .lineFeed (new 4) ["a\nb"] := by
  refine ⟨by decide, fun inside => ?_⟩
  have plain := inside.without "a\nb" List.mem_cons_self
  exact absurd plain (by decide)

end Draft

end Bindery
