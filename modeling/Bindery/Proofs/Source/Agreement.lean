import Bindery.Generator.Plan

/-! # Files of contexts that agree

Layouts and generated files see the types of a run only through the dictionary and through the
target types of the native spellings that are listed for them. The structs of the classes stand for
themselves, as unknown names do, so that the target types are those of the dictionary alone. Main
statements: what is made from a class or an interface is the same in contexts that agree on the
listed spellings (`Context.Alike.ofAncestry_eq`, `Context.Alike.artifacts_eq`); the structs that are
registered do not bear on target types (`map_ofClasses`); so a generator generates the same files
for a class with a layout in whatever interface it stands (`Generator.alike_context`).
-/

namespace Bindery

namespace Table

variable {α : Type}

/-- What holds of all pairs that are put into a table, and of its entries before, holds of its
entries afterwards. -/
theorem of_get?_insertAll (holds : String → α → Prop) {table : Table α}
    {pairs : List (String × α)}
    (before : ∀ key value, table.get? key = some value → holds key value)
    (added : ∀ pair ∈ pairs, holds pair.1 pair.2) {key : String} {value : α}
    (found : (table.insertAll pairs).get? key = some value) : holds key value := by
  induction pairs generalizing table with
  | nil => exact before key value found
  | cons pair rest ih =>
    obtain ⟨here, later⟩ := List.forall_mem_cons.mp added
    refine ih ?_ later found
    intro other stored there
    rw [get?_insert] at there
    split at there
    · next same =>
      obtain rfl := Option.some.inj there
      rwa [same]
    · exact before other stored there

end Table

namespace TypeMap

/-- The structs of classes are registered under their own names. -/
theorem eq_of_get?_structs {dictionary : Dictionary} {classes : List NativeClass}
    {bare target : String}
    (found : (ofClasses dictionary classes).structs.get? bare = some target) : target = bare := by
  refine Table.of_get?_insertAll (fun key value => value = key) ?_ ?_ found
  · intro key value there
    cases there
  · intro pair member
    obtain ⟨cls, _, rfl⟩ := List.mem_map.mp member
    rfl

@[simp] theorem dictionary_ofClasses (dictionary : Dictionary) (classes : List NativeClass) :
    (ofClasses dictionary classes).dictionary = dictionary := rfl

/-- A bare name stands for itself unless the dictionary has it: so it does as an unknown name, and
so it does as the name of a struct. -/
theorem getD_lookup?_ofClasses (dictionary : Dictionary) (classes : List NativeClass)
    (bare : String) :
    ((ofClasses dictionary classes).lookup? bare).getD bare =
      ((dictionary.concrete.get? bare).or (dictionary.enums.get? bare)).getD bare := by
  rw [lookup?, ← Option.or_assoc, dictionary_ofClasses]
  cases (dictionary.concrete.get? bare).or (dictionary.enums.get? bare) with
  | some target => rfl
  | none =>
    cases registered : (ofClasses dictionary classes).structs.get? bare with
    | none => rfl
    | some target => exact eq_of_get?_structs registered

/-- The target types of spellings are those of the dictionary, whatever structs there are. -/
theorem map_ofClasses (dictionary : Dictionary) (classes : List NativeClass) (native : String) :
    (ofClasses dictionary classes).map native =
      ((dictionary.concrete.get? (Spelling.ofText native).name).or
          (dictionary.enums.get? (Spelling.ofText native).name)).getD
        (Spelling.ofText native).name ++
        String.ofList (List.replicate (Spelling.ofText native).depth Spelling.mark) := by
  rw [map, getD_lookup?_ofClasses]

end TypeMap

namespace Context

/-- Contexts that differ in nothing that generated files see: the spellings of a list have the same
target types in both. -/
structure Alike (a b : Context) (spellings : List String) : Prop where
  settings : a.settings = b.settings
  classification : a.classification = b.classification
  dictionary : a.types.dictionary = b.types.dictionary
  map : ∀ native ∈ spellings, a.types.map native = b.types.map native

namespace Alike

variable {a b : Context} {spellings fewer : List String}

theorem of_subset (alike : a.Alike b spellings) (inside : fewer ⊆ spellings) :
    a.Alike b fewer where
  settings := alike.settings
  classification := alike.classification
  dictionary := alike.dictionary
  map native member := alike.map native (inside member)

/-! ## Signatures -/

variable {f : NativeFunction} {cls : NativeClass}

theorem target_eq (alike : a.Alike b spellings) {native : String} (listed : native ∈ spellings) :
    a.naming.types.map native = b.naming.types.map native := alike.map native listed

theorem parameters_eq (alike : a.Alike b f.parameterSpellings) :
    a.naming.parameters f = b.naming.parameters f := by
  unfold NativeFunction.parameterSpellings at alike
  unfold Naming.parameters
  split
  · rfl
  · next takes =>
    rw [if_neg takes] at alike
    refine List.map_congr_left fun p member => ?_
    rw [alike.target_eq (List.mem_map_of_mem member)]

theorem virtualMethod_eq (alike : a.Alike b f.methodSpellings) (declaring : NativeClass)
    (slot : Nat) : a.naming.virtualMethod f declaring slot =
      b.naming.virtualMethod f declaring slot := by
  have parameters := (alike.of_subset (List.subset_append_left _ _)).parameters_eq
  have returned := alike.target_eq (List.mem_append_right _ List.mem_cons_self)
  simp only [Naming.virtualMethod, parameters, returned]

theorem classStatic_eq (alike : a.Alike b f.directSpellings) (cls : NativeClass) :
    a.naming.classStatic f cls = b.naming.classStatic f cls := by
  have parameters := (alike.of_subset (List.subset_cons_self _ _)).parameters_eq
  have returned := alike.target_eq List.mem_cons_self
  have named : a.naming.staticName f cls = b.naming.staticName f cls := by
    simp only [Naming.staticName, naming, alike.settings]
  simp only [Naming.classStatic, parameters, returned, named]

theorem classStatics_eq (alike : a.Alike b cls.staticSpellings) :
    a.naming.classStatics cls = b.naming.classStatics cls :=
  List.map_congr_left fun f member =>
    (alike.of_subset fun _ inside => List.mem_flatMap.mpr ⟨f, member, inside⟩).classStatic_eq cls

theorem freeFunction_eq (alike : a.Alike b f.directSpellings) :
    a.naming.freeFunction f = b.naming.freeFunction f := by
  have parameters := (alike.of_subset (List.subset_cons_self _ _)).parameters_eq
  have returned := alike.target_eq List.mem_cons_self
  have named : a.naming.freeName f = b.naming.freeName f := by
    simp only [Naming.freeName, naming, alike.settings]
  simp only [Naming.freeFunction, parameters, returned, named]

/-! ## Layouts and files -/

/-- Classes of one ancestry have one layout. -/
theorem ofAncestry_eq {ancestry : Ancestry} (alike : a.Alike b (ancestry.spellings cls)) :
    Layout.ofAncestry a.naming cls ancestry = Layout.ofAncestry b.naming cls ancestry := by
  have methods : Layout.methodSlots a.naming ancestry.root.capabilities.length
      (Layout.methods ancestry.chain) = Layout.methodSlots b.naming
        ancestry.root.capabilities.length (Layout.methods ancestry.chain) := by
    refine List.mapIdx_eq_mapIdx_iff.mpr fun index bound => ?_
    obtain ⟨ancestor, above, member⟩ := List.mem_flatMap.mp (List.getElem_mem bound)
    obtain ⟨f, declared, same⟩ := List.mem_map.mp member
    have method : a.Alike b f.methodSpellings := alike.of_subset fun _ inside =>
      List.mem_append_left _ (List.mem_flatMap.mpr
        ⟨ancestor, above, List.mem_flatMap.mpr ⟨f, declared, inside⟩⟩)
    rw [← same, method.virtualMethod_eq]
  have statics := (alike.of_subset (List.subset_append_right _ _)).classStatics_eq
  simp only [Layout.ofAncestry, methods, statics]

theorem structArtifact_eq (alike : a.Alike b cls.staticSpellings) (layout : Layout) :
    Generator.structArtifact a cls layout = Generator.structArtifact b cls layout := by
  have statics := alike.classStatics_eq
  obtain ⟨settings, classification, dictionary, structs⟩ := a
  obtain ⟨_, _, _, others⟩ := b
  obtain ⟨rfl, rfl, rfl, _⟩ := alike
  simp only [Generator.structArtifact, FlatStruct.file, FlatStruct.fileUnder, FlatStruct.body,
    statics]
  rfl

theorem proxyWrapper_eq (alike : a.Alike b cls.staticSpellings) (layout : Layout) :
    ProxyClass.wrapper a cls layout = ProxyClass.wrapper b cls layout := by
  have statics := alike.classStatics_eq
  obtain ⟨settings, classification, _⟩ := a
  obtain ⟨_, _, _⟩ := b
  obtain ⟨rfl, rfl, _, _⟩ := alike
  simp only [ProxyClass.wrapper, ProxyClass.body, statics]
  rfl

/-- The wrapper of a handler has no types in it but those of its layout. -/
theorem wrapperArtifact_eq
    (alike : a.Alike b (if (a.role cls).isProxy then cls.staticSpellings else []))
    (layout : Layout) :
    Generator.wrapperArtifact a cls layout = Generator.wrapperArtifact b cls layout := by
  have role : b.role cls = a.role cls := by rw [Context.role, Context.role, alike.classification]
  have handler : HandlerClass.wrapper a cls layout = HandlerClass.wrapper b cls layout := by
    obtain ⟨settings, classification, _⟩ := a
    obtain ⟨_, _, _⟩ := b
    obtain ⟨rfl, rfl, _, _⟩ := alike
    rfl
  unfold Generator.wrapperArtifact Wrapper.file
  rw [handler, role, wrapperName, wrapperName, alike.settings, alike.classification]
  split
  · next proxy =>
    rw [if_pos proxy] at alike
    rw [alike.proxyWrapper_eq]
  · rfl

theorem functionsArtifact_eq {functions : List NativeFunction}
    (alike : a.Alike b (functions.flatMap NativeFunction.directSpellings)) :
    Generator.functionsArtifact a functions = Generator.functionsArtifact b functions := by
  have signatures : functions.map a.naming.freeFunction = functions.map b.naming.freeFunction :=
    List.map_congr_left fun f member =>
      (alike.of_subset fun _ inside => List.mem_flatMap.mpr ⟨f, member, inside⟩).freeFunction_eq
  have declared (ctx : Context) : FreeFunctions.file ctx functions =
      FreeFunctions.nativeClassFile ctx
        ((functions.map ctx.naming.freeFunction).flatMap ctx.directCall) := by
    rw [List.flatMap_map, FreeFunctions.file]
  have call : a.directCall = b.directCall := by
    funext sig
    rw [directCall, directCall, directCallAs, directCallAs, alike.settings]
  simp only [Generator.functionsArtifact, declared, FreeFunctions.nativeClassFile, alike.settings,
    signatures, call]

theorem versionArtifact_eq (alike : a.Alike b spellings) (constants : Header.VersionConstants) :
    Generator.versionArtifact a constants = Generator.versionArtifact b constants := by
  simp only [Generator.versionArtifact, Version.file, FreeFunctions.nativeClassFile,
    alike.settings]

/-- The same artifacts come from the same layouts. -/
theorem artifacts_eq {functions : List NativeFunction} {layouts : List (NativeClass × Layout)}
    (alike : a.Alike b (Generator.artifactSpellings a functions layouts))
    (constants : Option Header.VersionConstants) :
    Generator.artifacts a functions layouts constants =
      Generator.artifacts b functions layouts constants := by
  have structs : layouts.map (fun entry => Generator.structArtifact a entry.1 entry.2) =
      layouts.map fun entry => Generator.structArtifact b entry.1 entry.2 := by
    refine List.map_congr_left fun entry member => ?_
    refine (alike.of_subset fun _ inside => ?_).structArtifact_eq entry.2
    exact List.mem_append_left _ (List.mem_append_left _
      (List.mem_flatMap.mpr ⟨entry, member, inside⟩))
  have wrappers : layouts.map (fun entry => Generator.wrapperArtifact a entry.1 entry.2) =
      layouts.map fun entry => Generator.wrapperArtifact b entry.1 entry.2 := by
    refine List.map_congr_left fun entry member => ?_
    refine (alike.of_subset fun _ inside => ?_).wrapperArtifact_eq entry.2
    exact List.mem_append_right _ (List.mem_flatMap.mpr ⟨entry, member, inside⟩)
  have free : Generator.functionsArtifact a functions = Generator.functionsArtifact b functions :=
    (alike.of_subset fun _ inside =>
      List.mem_append_left _ (List.mem_append_right _ inside)).functionsArtifact_eq
  have versions := funext alike.versionArtifact_eq
  simp only [Generator.artifacts, structs, wrappers, free, versions]

end Alike

end Context

namespace Generator

/-- A generator has one view of all interfaces. -/
theorem alike_context (g : Generator) (first second : NativeApi) (spellings : List String) :
    (g.context first).Alike (g.context second) spellings where
  settings := rfl
  classification := rfl
  dictionary := rfl
  map native _ := by
    simp only [context, typeMap, TypeMap.map_ofClasses]

end Generator

end Bindery
