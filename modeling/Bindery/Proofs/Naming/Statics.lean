import Bindery.Proofs.Text.Finding
import Bindery.Signature

/-! # Entry names of statics

A static is called by its name in lower case, without what the name of its class already says. The
name ends where the class's own part begins, so it also loses what stands behind that part. Main
statement: an entry name loses the class's own part and nothing else exactly when the first
occurrence of that part ends the name (`losesOnlyOwnPart_iff`).
-/

namespace Bindery

/-- What is left of a name that ends before a piece was there before. -/
theorem Text.mem_of_mem_cutAt {c : Char} {piece name : List Char}
    (member : c ∈ cutAt piece name) : c ∈ name := by
  unfold cutAt at member
  split at member
  · exact member
  · cases found : upTo? piece name with
    | none => rwa [found] at member
    | some before =>
      obtain ⟨behind, cut⟩ := upTo?_eq_some_iff.mp found
      rw [found] at member
      rw [cut.split]
      exact List.mem_append_left _ member

namespace Naming

variable {naming : Naming} {f : NativeFunction} {cls : NativeClass}
  {own before behind : List Char}

/-- The characters of an entry name are those of the name in lower case. -/
theorem mem_abiCase_of_mem_staticName {c : Char} (member : c ∈ (naming.staticName f cls).toList) :
    c ∈ Text.abiCase f.name.toList := by
  unfold staticName at member
  split at member
  · rw [String.toList_ofList] at member
    exact Text.mem_of_mem_cutAt member
  · rwa [String.toList_ofList] at member

/-- The struct name of a class, without its ending, goes on after what all native names begin
with. -/
structure HasOwnPart (naming : Naming) (cls : NativeClass) (own : List Char) : Prop where
  nonempty : own ≠ []
  split : Text.withoutAbiSuffix cls.abiName.toList = naming.abiPrefix.toList ++ own

/-- The entry name of a static is its name in lower case, without the first occurrence of the
class's own part where there is one. -/
structure LosesOnlyOwnPart (naming : Naming) (f : NativeFunction) (cls : NativeClass) : Prop where
  cut : ∀ own before behind, HasOwnPart naming cls own →
    Text.FirstAt own (Text.abiCase f.name.toList) before behind →
      (naming.classStatic f cls).targetName = String.ofList (before ++ behind)
  kept : (∀ own, HasOwnPart naming cls own → ¬own <:+: Text.abiCase f.name.toList) →
    (naming.classStatic f cls).targetName = abiCase f.name

/-- The entry name ends before the class's own part. -/
theorem targetName_of_firstAt (part : HasOwnPart naming cls own)
    (cut : Text.FirstAt own (Text.abiCase f.name.toList) before behind) :
    (naming.classStatic f cls).targetName = String.ofList before := by
  have found : Text.upTo? own (Text.abiCase f.name.toList) = some before :=
    Text.upTo?_eq_some_iff.mpr ⟨behind, cut⟩
  have filled : own.isEmpty = false := List.isEmpty_eq_false_iff.mpr part.nonempty
  simp only [classStatic, staticName]
  rw [Text.after?_eq_some_iff.mpr part.split]
  simp only [Text.cutAt, filled, found, Bool.false_eq_true, if_false, Option.getD_some]

/-- Where a name does not have the class's own part, nothing is taken from it. -/
theorem targetName_of_absent
    (absent : ∀ own, HasOwnPart naming cls own → ¬own <:+: Text.abiCase f.name.toList) :
    (naming.classStatic f cls).targetName = abiCase f.name := by
  simp only [classStatic, staticName]
  split
  · next own found =>
    by_cases filled : own = []
    · subst filled
      rfl
    · have missing : Text.upTo? own (Text.abiCase f.name.toList) = none := by
        rw [← Option.not_isSome_iff_eq_none, Text.upTo?_isSome_iff]
        exact absent own ⟨filled, Text.after?_eq_some_iff.mp found⟩
      rw [Text.cutAt, missing, Option.getD_none, ite_self]
      rfl
  · rfl

/-- The entry name of a static loses nothing but the class's own part exactly when nothing stands
behind the first occurrence of that part. -/
theorem losesOnlyOwnPart_iff (naming : Naming) (f : NativeFunction) (cls : NativeClass) :
    LosesOnlyOwnPart naming f cls ↔ ∀ own before behind, HasOwnPart naming cls own →
      Text.FirstAt own (Text.abiCase f.name.toList) before behind → behind = [] := by
  constructor
  · intro loses own before behind part cut
    have same := (targetName_of_firstAt part cut).symm.trans (loses.cut own before behind part cut)
    exact List.self_eq_append_right.mp (String.ofList_injective same)
  · intro ends
    refine ⟨fun own before behind part cut => ?_, targetName_of_absent⟩
    rw [targetName_of_firstAt part cut, ends own before behind part cut, List.append_nil]

/-- A class of images. -/
def image : NativeClass :=
  .bare "CefImage" "cef_image_t" "CefBaseRefCounted" "cef_base_ref_counted_t"

/-- A static without parameters. -/
def static (name abiName : String) : NativeFunction := ⟨name, abiName, "int", [], true, []⟩

/-- The static that makes an image from a file gets the entry name of the one that makes an empty
image. -/
theorem not_losesOnlyOwnPart_fromFile :
    HasOwnPart ⟨default, "cef"⟩ image "_image".toList ∧
      Text.FirstAt "_image".toList (Text.abiCase "CreateImageFromFile".toList) "create".toList
        "_from_file".toList ∧
      (classStatic ⟨default, "cef"⟩ (static "CreateImageFromFile" "cef_image_create_from_file")
        image).targetName = "create" ∧
      (classStatic ⟨default, "cef"⟩ (static "CreateImage" "cef_image_create") image).targetName =
        "create" ∧
      ¬LosesOnlyOwnPart ⟨default, "cef"⟩
        (static "CreateImageFromFile" "cef_image_create_from_file") image := by
  have part : HasOwnPart ⟨default, "cef"⟩ image "_image".toList := ⟨by decide, by decide⟩
  have found : Text.upTo? "_image".toList (Text.abiCase "CreateImageFromFile".toList) =
      some "create".toList := by decide
  obtain ⟨behind, cut⟩ := Text.upTo?_eq_some_iff.mp found
  have whole : Text.abiCase "CreateImageFromFile".toList =
      "create".toList ++ ("_image".toList ++ "_from_file".toList) := by decide
  obtain rfl : "_from_file".toList = behind :=
    List.append_cancel_left (List.append_cancel_left (whole.symm.trans cut.split))
  refine ⟨part, cut, by decide, by decide, fun loses => ?_⟩
  have named := loses.cut _ _ _ part cut
  rw [targetName_of_firstAt part cut] at named
  exact absurd named (by decide)

end Naming

end Bindery
