import Mathlib.Data.List.Basic
import Bindery.Signature
import Bindery.Text.Xml

/-! # Texts without characters of a kind

Whatever is put together from texts without characters of a kind has none either, if what stands
between them has none. Main statements: this holds of lists with separators (`without_joined`), of
texts that are trimmed or written as markup (`without_trimmed`, `without_escapeXml`), and of what is
declared and called with the names of a signature (`Signature.Without.parameterList` and its like).
-/

namespace Bindery

namespace Text

/-- A text that has no character of a kind. -/
def Without (kind : Char → Bool) (text : String) : Prop := ∀ c ∈ text.toList, kind c = false

variable {kind : Char → Bool} {text : String}

-- By the characters of the text: that there are finitely many characters at all is no help.
instance : DecidablePred (Without kind) := fun text => List.decidableBAll _ text.toList

theorem without_ofList {text : List Char} (plain : ∀ c ∈ text, kind c = false) :
    Without kind (String.ofList text) := by
  rwa [Without, String.toList_ofList]

theorem without_literal {text : List Char} (plain : text.all (fun c => !kind c) = true) :
    Without kind (String.ofList text) :=
  without_ofList (by simpa using plain)

@[simp]
theorem without_append {first second : String} :
    Without kind (first ++ second) ↔ Without kind first ∧ Without kind second := by
  simp only [Without, String.toList_append, List.mem_append, or_imp, forall_and]

theorem without_joined {separator : String} {pieces : List String}
    (between : Without kind separator) (each : ∀ piece ∈ pieces, Without kind piece) :
    Without kind (joined separator pieces) := by
  unfold joined
  induction pieces with
  | nil => exact nofun
  | cons piece rest ih =>
    obtain ⟨here, later⟩ := List.forall_mem_cons.mp each
    cases rest with
    | nil => simpa using here
    | cons next rest =>
      rw [String.intercalate_cons_cons, without_append, without_append]
      exact ⟨⟨here, between⟩, ih later⟩

/-- The characters of entities. -/
def entityCharacters : List Char := ['&', 'a', 'm', 'p', 'l', 't', 'g', 'q', 'u', 'o', ';']

theorem without_escapeXml (entities : ∀ c ∈ entityCharacters, kind c = false)
    (plain : Without kind text) : Without kind (escapeXml text) := by
  intro c member
  rw [escapeXml, String.toList_ofList, Xml.escape, List.mem_flatMap] at member
  obtain ⟨written, inside, shown⟩ := member
  have known : Xml.entity written = [written] ∨ Xml.entity written ⊆ entityCharacters := by
    unfold Xml.entity
    split <;> first | exact .inl rfl | exact .inr (by decide)
  obtain same | named := known
  · rw [same, List.mem_singleton] at shown
    rw [shown]
    exact plain written inside
  · exact entities c (named shown)

theorem mem_of_mem_trim {c : Char} {text : List Char} (member : c ∈ trim text) : c ∈ text := by
  rw [trim, trimEnd, List.mem_reverse] at member
  exact List.dropWhile_subset _ (List.mem_reverse.mp (List.dropWhile_subset _ member))

theorem without_trimmed (plain : Without kind text) : Without kind (trimmed text) := by
  rw [trimmed]
  exact without_ofList fun c member => plain c (mem_of_mem_trim member)

end Text

namespace Signature

variable {kind : Char → Bool}

/-- A signature without characters of a kind in its names and comments. -/
@[mk_iff]
structure Without (kind : Char → Bool) (sig : Signature) : Prop where
  name : Text.Without kind sig.name
  fieldName : Text.Without kind sig.fieldName
  delegateType : Text.Without kind sig.delegateType
  targetName : Text.Without kind sig.targetName
  targetReturn : Text.Without kind sig.targetReturn
  entryPoint : Text.Without kind sig.entryPoint
  parameters : ∀ p ∈ sig.parameters, Text.Without kind p.type ∧ Text.Without kind p.name
  comment : ∀ text ∈ sig.comment, Text.Without kind text

instance : DecidablePred (Without kind) := fun sig => decidable_of_iff' _ (without_iff kind sig)

variable {sig : Signature}

theorem mem_parameters_of_instance {p : TargetParameter} (member : p ∈ sig.instanceParameters) :
    p ∈ sig.parameters := by
  unfold instanceParameters at member
  split at member
  · next first rest same =>
    rw [same]
    split at member
    · exact List.mem_cons_of_mem first member
    · exact member
  · cases member

theorem without_declared (between : Text.Without kind ", ") {parameters : List TargetParameter}
    (each : ∀ p ∈ parameters, Text.Without kind p.type ∧ Text.Without kind p.name) :
    Text.Without kind (declared parameters) := by
  refine Text.without_joined between (List.forall_mem_map.mpr fun p member => ?_)
  obtain ⟨type, name⟩ := each p member
  have parts : ", " = "," ++ " " := by decide
  rw [parts, Text.without_append] at between
  simp [TargetParameter.display, toString, type, name, between.2]

namespace Without

variable (plain : sig.Without kind)
include plain

theorem instanceArguments : ∀ name ∈ sig.instanceArguments, Text.Without kind name :=
  List.forall_mem_map.mpr fun p member =>
    (plain.parameters p (mem_parameters_of_instance member)).2

variable (between : Text.Without kind ", ")
include between

theorem parameterList : Text.Without kind sig.parameterList :=
  without_declared between plain.parameters

theorem instanceParameterList : Text.Without kind sig.instanceParameterList :=
  without_declared between fun p member => plain.parameters p (mem_parameters_of_instance member)

theorem argumentList : Text.Without kind sig.argumentList :=
  Text.without_joined between
    (List.forall_mem_map.mpr fun p member => (plain.parameters p member).2)

end Without

end Signature

end Bindery
