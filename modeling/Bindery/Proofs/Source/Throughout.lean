import Bindery.Proofs.Source.Names
import Bindery.Source.Context

/-! # What holds of all lines of generated code

The lines of code, headings of blocks included, are those of the parts that it is put together
from. So what holds of all lines of the parts holds of all lines of the whole.
-/

namespace Bindery.Code

/-- All lines of code, and all headings, have a property. -/
def Throughout (P : String → Prop) (code : Code) : Prop := ∀ line, code.Writes line → P line

variable {P : String → Prop} {first second body rest : Code} {heading text name : String}

@[simp]
theorem throughout_nil : Throughout P [] := fun _ written => absurd written not_writes_nil

@[simp]
theorem throughout_line : Throughout P (.line text :: rest) ↔ P text ∧ Throughout P rest := by
  simp only [Throughout, writes_cons_line, forall_eq_or_imp]

@[simp]
theorem throughout_blank : Throughout P (.blank :: rest) ↔ Throughout P rest := by
  simp only [Throughout, writes_cons_blank]

@[simp]
theorem throughout_append :
    Throughout P (first ++ second) ↔ Throughout P first ∧ Throughout P second := by
  simp only [Throughout, writes_append, or_imp, forall_and]

@[simp]
theorem throughout_block : Throughout P (block heading body) ↔ P heading ∧ Throughout P body := by
  simp only [Throughout, writes_block, forall_eq_or_imp]

@[simp]
theorem throughout_spacedBlock :
    Throughout P (spacedBlock heading body) ↔ P heading ∧ Throughout P body := by
  simp only [Throughout, writes_spacedBlock, forall_eq_or_imp]

@[simp]
theorem throughout_concat {parts : List Code} :
    Throughout P (concat parts) ↔ ∀ part ∈ parts, Throughout P part := by
  simp only [Throughout, writes_concat]
  constructor
  · intro all part member line written
    exact all line ⟨part, member, written⟩
  · rintro all line ⟨part, member, written⟩
    exact all part member line written

@[simp]
theorem throughout_flatMap {α : Type} {items : List α} {part : α → Code} :
    Throughout P (items.flatMap part) ↔ ∀ item ∈ items, Throughout P (part item) := by
  rw [List.flatMap_def, ← concat, throughout_concat, List.forall_mem_map]

@[simp]
theorem throughout_map {α : Type} {items : List α} {line : α → String} :
    Throughout P (items.map fun item => .line (line item)) ↔ ∀ item ∈ items, P (line item) := by
  induction items with
  | nil => simp
  | cons item rest ih => rw [List.map_cons, throughout_line, ih, List.forall_mem_cons]

@[simp]
theorem throughout_sourceFile :
    (sourceFile name body).Throughout P ↔ P s!"namespace {name}" ∧ Throughout P body := by
  simp only [Throughout, writes_sourceFile, forall_eq_or_imp]

/-- The comments that are shown are trimmed ones. -/
theorem throughout_documentation {comment : List String} (opening : P "/// <summary>")
    (closing : P "/// </summary>")
    (each : ∀ text ∈ comment, P s!"/// {escapeXml (trimmed text)}") :
    (documentation comment).Throughout P := by
  unfold documentation
  split
  · exact throughout_nil
  · simp only [throughout_append, throughout_map, throughout_line]
    refine ⟨⟨⟨opening, throughout_nil⟩, fun text member => ?_⟩, closing, throughout_nil⟩
    obtain ⟨raw, inside, rfl⟩ := List.mem_map.mp (List.mem_filter.mp member).1
    exact each raw inside

end Bindery.Code
