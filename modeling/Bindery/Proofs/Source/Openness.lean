import Bindery.Proofs.Source.Bases

/-! # Proxies that can be derived from

A proxy can be a base when its class is not sealed and its constructor, and its reference where it
holds one, can be used by derived classes. What is said about this is read off the heading and off
the surface of the body. Main statement: a proxy is open exactly when its class is classified as
abstract (`ProxyClass.isOpen_iff`).
-/

namespace Bindery.ProxyClass

variable {names : MemberNames} {ctx : Context} {cls : NativeClass} {layout : Layout}

/-- Whether the heading of a class closes it to derived classes. -/
def isSealed (text : List Char) : Bool := "public sealed ".toList.isPrefixOf text

/-- What lets the derived classes of the same program use a member. -/
def derivedAccess : List String :=
  ["public", "protected", "internal", "protected internal", "private protected"]

/-- Whether a line declares a member for its own class alone. -/
def isPrivate (text : List Char) : Bool :=
  match Text.after? "private ".toList text with
  | some declaration => !"protected ".toList.isPrefixOf declaration
  | none => false

/-- The heading of a wrapper's constructor. -/
def constructorHeading (access : String) (ctx : Context) (cls : NativeClass) (layout : Layout) :
    String :=
  s!"{access} {ctx.wrapperName cls}({layout.abiName}* ptr)"

/-- The field that holds a wrapper's reference. -/
def referenceField (access : String) (layout : Layout) : String :=
  s!"{access} {layout.abiName}* _self;"

/-- A proxy can be derived from: its class is not sealed, derived classes can use its constructor
and, where the class is next to the root and has it, the field with the reference, and no member is
for the class alone. -/
structure IsOpen (ctx : Context) (cls : NativeClass) (layout : Layout) : Prop where
  unsealed : isSealed (heading ctx cls layout).toList = false
  constructor : ∃ access ∈ derivedAccess, constructorHeading access ctx cls layout ∈
    Code.surface 0 (body FlatMember.name ctx cls layout)
  reference : layout.isRootChild = true → ∃ access ∈ derivedAccess,
    referenceField access layout ∈ Code.surface 0 (body FlatMember.name ctx cls layout)
  shared : Code.Lacks isPrivate (body FlatMember.name ctx cls layout)

/-! ## What is written -/

theorem isSealed_heading : isSealed (heading ctx cls layout).toList =
    !ctx.classification.isAbstract cls.name := by
  unfold isSealed heading
  cases ctx.classification.isAbstract cls.name <;> simp [toString, List.isPrefixOf]

theorem isPrivate_eq_false {text : List Char} (other : ¬"private ".toList <+: text) :
    isPrivate text = false := by
  unfold isPrivate
  split
  · next rest found => exact absurd ⟨rest, (Text.after?_eq_some_iff.mp found).symm⟩ other
  · rfl

theorem surface_refCountedMembers (name interface : String) :
    Code.surface 0 (refCountedMembers names name interface) = [
      s!"~{name}()", "public void Dispose()", "internal void AddRef()", "internal bool Release()",
      "internal bool HasOneRef", "internal bool HasAtLeastOneRef"] := rfl

/-- The construction of a wrapper next to the root declares its fields and its constructor; that of
a derived wrapper declares the constructor. -/
theorem surface_construction (access name : String) :
    Code.surface 0 (construction names access name cls layout) =
      if layout.isRootChild then
        s!"{access} {layout.abiName}* _self;" ::
          ((if layout.isRefCounted then [s!"{access} int _disposed = 0;"] else []) ++
            s!"{access} {name}({layout.abiName}* ptr)" ::
              if layout.isRefCounted then
                Code.surface 0 (refCountedMembers names name layout.abiName)
              else [])
      else [s!"{access} {name}({layout.abiName}* ptr)", baseCall cls.parentAbiName] := by
  unfold construction
  cases layout.isRootChild <;> cases layout.isRefCounted <;> rfl

/-- What is on the surface of the construction is on that of the wrapper. -/
theorem mem_surface_body {line : String}
    (inside : line ∈ Code.surface 0
      (construction names (access ctx cls) (ctx.wrapperName cls) cls layout)) :
    line ∈ Code.surface 0 (body names ctx cls layout) := by
  obtain ⟨before, behind, _, surface⟩ := surface_body names ctx cls layout
  rw [surface]
  exact List.mem_append_left _ (List.mem_append_left _ (List.mem_append_right _ inside))

theorem constructorHeading_mem : constructorHeading (access ctx cls) ctx cls layout ∈
    Code.surface 0 (body names ctx cls layout) := by
  apply mem_surface_body
  rw [surface_construction]
  split <;> simp [constructorHeading]

theorem referenceField_mem (rootChild : layout.isRootChild = true) :
    referenceField (access ctx cls) layout ∈ Code.surface 0 (body names ctx cls layout) := by
  apply mem_surface_body
  rw [surface_construction, rootChild, if_pos rfl]
  exact List.mem_cons_self

/-- What an open class constructs is for derived classes too. -/
theorem lacks_construction (name : String) :
    Code.Lacks isPrivate (construction names "private protected" name cls layout) := by
  rw [Code.Lacks, surface_construction, surface_refCountedMembers]
  cases layout.isRootChild <;> cases layout.isRefCounted <;>
    simp [isPrivate, Text.after?, baseCall, toString]

/-- Nothing in the wrapper of an abstract class is for itself alone. -/
theorem lacks_body (isAbstract : ctx.classification.isAbstract cls.name = true) :
    Code.Lacks isPrivate (body names ctx cls layout) := by
  obtain ⟨before, behind, conversions, surface⟩ := surface_body names ctx cls layout
  have shared : access ctx cls = "private protected" := if_pos isAbstract
  have members : Code.Lacks isPrivate (publicMembers names ctx cls layout) := by
    refine lacks_publicMembers (fun text => isPrivate_eq_false (by simp [toString])) ?_
    rintro _ ⟨rest, rfl⟩
    exact isPrivate_eq_false (by simp)
  have conversion : ∀ line ∈ before ++ behind, isPrivate line.toList = false := by
    intro line member
    obtain ⟨rest, text⟩ := conversions line member
    rw [← text]
    exact isPrivate_eq_false (by simp)
  rw [Code.Lacks, surface, shared]
  intro line member
  simp only [List.mem_append, or_assoc] at member
  rcases member with inBefore | inConstruction | inBehind | inMembers
  · exact conversion line (List.mem_append_left _ inBefore)
  · exact lacks_construction _ line inConstruction
  · exact conversion line (List.mem_append_right _ inBehind)
  · exact members line inMembers

/-- A proxy can be derived from exactly when its class is classified as abstract. -/
theorem isOpen_iff : IsOpen ctx cls layout ↔ ctx.classification.isAbstract cls.name = true := by
  constructor
  · intro isOpen
    have unsealed := isOpen.unsealed
    rw [isSealed_heading] at unsealed
    simpa using unsealed
  · intro isAbstract
    have shared : access ctx cls = "private protected" := if_pos isAbstract
    have known : access ctx cls ∈ derivedAccess := by
      rw [shared]
      decide
    refine ⟨by rw [isSealed_heading, isAbstract]; rfl, ⟨_, known, constructorHeading_mem⟩,
      fun rootChild => ⟨_, known, referenceField_mem rootChild⟩, lacks_body isAbstract⟩

end Bindery.ProxyClass
