import Mathlib
import Bindery.Proofs.Ancestry.Ascent
import Bindery.Proofs.Generator.Outcome
import Bindery.Proofs.Layout.Extension
import Bindery.Proofs.Spelling.Stripping

/-! # What the check foretells of planning

The check looks at every function once, as it is declared. Planning maps types through the table of
every class that inherits a function, through statics, free functions and the generated files, and
leaves out the parameters of functions that take nothing. Main statement: both come to the same
spellings (`check_foretells_plan`).
-/

namespace Bindery

namespace Logged

variable {α β : Type}

@[simp] theorem records_pure (value : α) : (pure value : Logged α).records = [] := rfl

theorem records_write_bind (records : List Record) (next : Unit → Logged α) :
    (write records >>= next).records = records ++ (next ()).records := rfl

theorem records_note_bind (level : Level) (text : String) (next : Unit → Logged α) :
    (note level text >>= next).records = ⟨level, text⟩ :: (next ()).records := rfl

theorem records_bind_of_ok {first : Logged α} {value : α} (ended : first.outcome = .ok value)
    (next : α → Logged β) : (first >>= next).records = first.records ++ (next value).records := by
  rw [records_bind, ended]

/-- Computations one after the other that all end with a result write what each of them writes. -/
theorem mem_records_mapM {f : α → Logged β} {items : List α} {results : List β}
    (ended : (items.mapM f).outcome = .ok results) (record : Record) :
    record ∈ (items.mapM f).records ↔ ∃ item ∈ items, record ∈ (f item).records := by
  induction items generalizing results with
  | nil =>
    rw [List.mapM_nil]
    exact iff_of_false nofun (by simp)
  | cons item rest ih =>
    rw [List.mapM_cons] at ended ⊢
    obtain ⟨result, first, later⟩ := outcome_bind_eq_ok_iff.mp ended
    obtain ⟨others, found, _⟩ := outcome_bind_eq_ok_iff.mp later
    simp only [records_bind_of_ok first, records_bind_of_ok found, records_pure, List.append_nil,
      List.mem_append, ih found, List.mem_cons, or_and_right, exists_or, exists_eq_left]

end Logged

namespace NativeApi

variable {api : NativeApi} {cls : NativeClass} {ancestry : Ancestry}

/-- A class is one of its own ancestry. -/
theorem mem_chain_of_ancestry (walked : api.ancestry cls = .ok ancestry) : cls ∈ ancestry.chain :=
  List.mem_of_getLast? (ancestry_eq_ok_iff.mp walked).1.getLast?_eq

/-- The ancestry of a class of an interface is made of its classes. -/
theorem Ascent.mem_classes {chain : List NativeClass} {root : RootStruct}
    (ascent : api.Ascent cls chain root) (inside : cls ∈ api.classes) :
    ∀ ancestor ∈ chain, ancestor ∈ api.classes := by
  induction ascent with
  | root => simpa using inside
  | parent _ found _ ih =>
    intro ancestor member
    obtain above | own := List.mem_append.mp member
    · exact ih (mem_of_parent? found) ancestor above
    · rwa [List.mem_singleton.mp own]

end NativeApi

/-! ## Spellings that no table knows -/

/-- The spellings that a function is declared with. -/
def NativeFunction.declared (f : NativeFunction) : List String :=
  f.returnType :: f.parameters.map (·.type)

namespace TypeMap

variable {types : TypeMap} {native : String}

/-- A spelling is read without the blanks around it. -/
theorem isMapped_eq_of_trim_eq {other : String}
    (same : Text.trim native.toList = Text.trim other.toList) :
    types.isMapped native = types.isMapped other := by
  simp only [isMapped, Spelling.ofText, Spelling.ofChars, same]

/-- Where the tables know `void`, whatever a function that takes nothing declares is known. -/
theorem isMapped_of_takesNothing (void : types.isMapped "void" = true) {f : NativeFunction}
    (nothing : f.takesNothing = true) {p : Parameter} (member : p ∈ f.parameters) :
    types.isMapped p.type = true := by
  unfold NativeFunction.takesNothing at nothing
  split at nothing
  · next none =>
    rw [none] at member
    contradiction
  · next only single =>
    rw [single] at member
    obtain rfl := List.mem_singleton.mp member
    obtain ⟨blank, _⟩ := Bool.and_eq_true_iff.mp nothing
    have same : Text.trim p.type.toList = Text.trim "void".toList :=
      (eq_of_beq blank).trans (by decide)
    rw [isMapped_eq_of_trim_eq same, void]
  · contradiction

/-- What a signature leaves out is known, so that it maps all else that is declared. -/
theorem mem_parameterSpellings_iff (void : types.isMapped "void" = true) {f : NativeFunction}
    (unknown : types.isMapped native = false) :
    native ∈ f.parameterSpellings ↔ native ∈ f.parameters.map (·.type) := by
  unfold NativeFunction.parameterSpellings
  cases nothing : f.takesNothing with
  | false => rfl
  | true =>
    refine iff_of_false nofun fun member => ?_
    obtain ⟨p, inside, rfl⟩ := List.mem_map.mp member
    rw [isMapped_of_takesNothing void nothing inside] at unknown
    contradiction

theorem mem_methodSpellings_iff (void : types.isMapped "void" = true) {f : NativeFunction}
    (unknown : types.isMapped native = false) :
    native ∈ f.methodSpellings ↔ native ∈ f.declared := by
  rw [NativeFunction.methodSpellings, List.mem_append, List.mem_singleton, or_comm,
    mem_parameterSpellings_iff void unknown, NativeFunction.declared, List.mem_cons]

theorem mem_directSpellings_iff (void : types.isMapped "void" = true) {f : NativeFunction}
    (unknown : types.isMapped native = false) :
    native ∈ f.directSpellings ↔ native ∈ f.declared := by
  rw [NativeFunction.directSpellings, List.mem_cons, mem_parameterSpellings_iff void unknown,
    NativeFunction.declared, List.mem_cons]

theorem mem_staticSpellings_iff (void : types.isMapped "void" = true) {cls : NativeClass}
    (unknown : types.isMapped native = false) :
    native ∈ cls.staticSpellings ↔ ∃ f ∈ cls.statics, native ∈ f.declared := by
  simp only [NativeClass.staticSpellings, List.mem_flatMap, mem_directSpellings_iff void unknown]

theorem mem_spellings_iff (void : types.isMapped "void" = true) {cls : NativeClass}
    {ancestry : Ancestry} (unknown : types.isMapped native = false) :
    native ∈ ancestry.spellings cls ↔
      (∃ ancestor ∈ ancestry.chain, ∃ f ∈ ancestor.virtuals, native ∈ f.declared) ∨
        ∃ f ∈ cls.statics, native ∈ f.declared := by
  simp only [Ancestry.spellings, List.mem_append, List.mem_flatMap,
    mem_methodSpellings_iff void unknown, mem_staticSpellings_iff void unknown]

/-- A spelling is warned about where it is in the list and no table knows it. -/
theorem notice_mem_warnings_iff {spellings : List String} :
    ⟨.warn, unmappedNotice native⟩ ∈ types.warnings spellings ↔
      native ∈ spellings ∧ types.isMapped native = false := by
  simp only [warnings, List.mem_map, List.mem_filter, Bool.not_eq_true', Record.mk.injEq, true_and]
  constructor
  · rintro ⟨other, found, same⟩
    rwa [← unmappedNotice_injective same]
  · intro found
    exact ⟨native, found, rfl⟩

end TypeMap

/-- Where an item comes first it is kept, and later it is not. -/
theorem firstOnly_foldl (items kept : List String) (distinct : kept.Nodup) :
    (items.foldl (fun kept item => if kept.contains item then kept else item :: kept)
        kept).Nodup ∧
      ∀ item, item ∈ items.foldl (fun kept item =>
          if kept.contains item then kept else item :: kept) kept ↔ item ∈ kept ∨ item ∈ items := by
  induction items generalizing kept with
  | nil => exact ⟨distinct, fun item => by simp⟩
  | cons first rest ih =>
    rw [List.foldl_cons]
    by_cases known : first ∈ kept
    · rw [if_pos (List.contains_iff_mem.mpr known)]
      obtain ⟨apart, inside⟩ := ih kept distinct
      refine ⟨apart, fun item => ?_⟩
      rw [inside, List.mem_cons]
      constructor
      · rintro (old | new)
        · exact .inl old
        · exact .inr (.inr new)
      · rintro (old | rfl | new)
        · exact .inl old
        · exact .inl known
        · exact .inr new
    · rw [if_neg fun contained => known (List.contains_iff_mem.mp contained)]
      obtain ⟨apart, inside⟩ := ih (first :: kept) (List.nodup_cons.mpr ⟨known, distinct⟩)
      refine ⟨apart, fun item => ?_⟩
      rw [inside, List.mem_cons, List.mem_cons, or_comm (a := item = first), or_assoc]

theorem nodup_firstOnly (items : List String) : (firstOnly items).Nodup :=
  (List.reverse_perm _).nodup_iff.mpr (firstOnly_foldl items [] List.nodup_nil).1

theorem mem_firstOnly_iff {items : List String} {item : String} :
    item ∈ firstOnly items ↔ item ∈ items := by
  rw [firstOnly, List.mem_reverse, (firstOnly_foldl items [] List.nodup_nil).2]
  simp

namespace Generator

variable {g : Generator} {api : NativeApi} {layouts : List (NativeClass × Layout)}

/-! ## What planning writes -/

theorem records_checkRoles (passed : (g.checkRoles api).outcome = .ok ()) :
    (g.checkRoles api).records = [] := by
  simp only [checkRoles] at passed ⊢
  split at passed
  · rfl
  · contradiction

/-- The layout of a class is made with warnings about what its ancestry and its statics map. -/
theorem warn_mem_records_layout_iff {cls : NativeClass} {ancestry : Ancestry} {text : String}
    (walked : api.ancestry cls = .ok ancestry) :
    ⟨.warn, text⟩ ∈ (g.layout api cls).records ↔
      ⟨.warn, text⟩ ∈ (g.typeMap api).warnings (ancestry.spellings cls) := by
  have written : (g.layout api cls).records =
      (g.typeMap api).warnings (ancestry.spellings cls) ++ [⟨.debug,
        s!"{cls.name}: {(Layout.ofAncestry (g.context api).naming cls ancestry).size} slots over {ancestry.chain.length} class(es), root {ancestry.root.abiName}"⟩] := by
    simp only [layout, walked]
    rfl
  rw [written, List.mem_append, List.mem_singleton, Record.mk.injEq]
  simp

/-- Where every class has a layout, every class has an ancestry. -/
theorem exists_ancestry_of_layouts (laid : (g.layouts api).outcome = .ok layouts)
    {cls : NativeClass} (inside : cls ∈ api.classes) :
    ∃ ancestry, api.ancestry cls = .ok ancestry := by
  obtain ⟨same, each⟩ := outcome_layouts_eq_ok_iff.mp laid
  rw [← NativeApi.mem_sortedClasses, ← same] at inside
  obtain ⟨entry, member, rfl⟩ := List.mem_map.mp inside
  obtain ⟨ancestry, walked, _⟩ := NativeApi.layout_eq_ok_iff.mp (each entry member)
  exact ⟨ancestry, walked⟩

/-- The layouts are made with the warnings of each of them. -/
theorem warn_mem_records_layouts_iff {text : String}
    (laid : (g.layouts api).outcome = .ok layouts) :
    ⟨.warn, text⟩ ∈ (g.layouts api).records ↔
      ∃ cls ∈ api.classes, ∃ ancestry, api.ancestry cls = .ok ancestry ∧
        ⟨.warn, text⟩ ∈ (g.typeMap api).warnings (ancestry.spellings cls) := by
  rw [Generator.layouts, Logged.mem_records_mapM laid]
  refine exists_congr fun cls => ?_
  rw [NativeApi.mem_sortedClasses]
  refine and_congr_right fun inside => ?_
  obtain ⟨ancestry, walked⟩ := exists_ancestry_of_layouts laid inside
  have ended : (g.layout api cls).outcome =
      .ok (Layout.ofAncestry (g.context api).naming cls ancestry) := by
    rw [outcome_layout, NativeApi.layout, walked]
    rfl
  rw [Logged.records_bind_of_ok ended, Logged.records_pure, List.append_nil,
    warn_mem_records_layout_iff walked]
  constructor
  · intro warned
    exact ⟨ancestry, walked, warned⟩
  · rintro ⟨other, same, warned⟩
    rw [walked] at same
    obtain rfl := Except.ok.inj same
    exact warned

/-- Planning warns about what the layouts and the artifacts map. -/
theorem warn_mem_records_plan_iff {constants : Option Header.VersionConstants} {text : String}
    (roles : (g.checkRoles (g.completed api)).outcome = .ok ())
    (laid : (g.layouts (g.completed api)).outcome = .ok layouts)
    (read : g.constants = .ok constants) :
    ⟨.warn, text⟩ ∈ (g.plan api).records ↔
      ⟨.warn, text⟩ ∈ (g.layouts (g.completed api)).records ∨
        ⟨.warn, text⟩ ∈ (g.typeMap (g.completed api)).warnings
          (artifactSpellings (g.context (g.completed api)) (g.completed api).functions
            layouts) := by
  have written : (g.plan api).records =
      ⟨.debug, s!"registered {(g.typeMap (g.completed api)).structs.size} struct types"⟩ ::
        ((g.layouts (g.completed api)).records ++
          (g.typeMap (g.completed api)).warnings (artifactSpellings
            (g.context (g.completed api)) (g.completed api).functions layouts)) := by
    rw [plan, Logged.records_note_bind, Logged.records_bind_of_ok roles, records_checkRoles roles,
      Logged.records_bind_of_ok laid, read]
    simp only [Logged.records_bind_of_ok (Logged.outcome_ofExcept _), Logged.records_write_bind,
      Logged.records_pure, List.append_nil, List.nil_append]
    rfl
  rw [written, List.mem_cons, List.mem_append, Record.mk.injEq]
  simp

/-! ## What both come to -/

theorem mem_allSpellings_iff {native : String} : native ∈ api.allSpellings ↔
    (∃ cls ∈ api.classes, (∃ f ∈ cls.virtuals, native ∈ f.declared) ∨
        ∃ f ∈ cls.statics, native ∈ f.declared) ∨
      ∃ f ∈ api.functions, native ∈ f.declared := by
  have joined : api.allSpellings = api.allFunctions.flatMap NativeFunction.declared := rfl
  simp only [joined, NativeApi.allFunctions, List.flatMap_append, List.flatMap_assoc,
    List.mem_append, List.mem_flatMap]

/-- What the artifacts map are statics and free functions. -/
theorem mem_artifactSpellings_iff {ctx : Context} {functions : List NativeFunction}
    {native : String} (void : ctx.types.isMapped "void" = true)
    (unknown : ctx.types.isMapped native = false) :
    native ∈ artifactSpellings ctx functions layouts ↔
      (∃ cls ∈ layouts.map Prod.fst, ∃ f ∈ cls.statics, native ∈ f.declared) ∨
        ∃ f ∈ functions, native ∈ f.declared := by
  simp only [artifactSpellings, List.mem_append, List.mem_flatMap,
    TypeMap.mem_directSpellings_iff void unknown, List.mem_map]
  constructor
  · rintro ((⟨entry, member, mapped⟩ | free) | ⟨entry, member, mapped⟩)
    · exact .inl ⟨_, ⟨entry, member, rfl⟩, (TypeMap.mem_staticSpellings_iff void unknown).mp mapped⟩
    · exact .inr free
    · split at mapped
      · exact .inl ⟨_, ⟨entry, member, rfl⟩,
          (TypeMap.mem_staticSpellings_iff void unknown).mp mapped⟩
      · contradiction
  · rintro (⟨_, ⟨entry, member, rfl⟩, declared⟩ | free)
    · exact .inl (.inl ⟨entry, member, (TypeMap.mem_staticSpellings_iff void unknown).mpr declared⟩)
    · exact .inl (.inr free)

/-- Where the tables know `void`, planning warns about the spellings of the interface that no table
knows. -/
theorem notice_mem_records_plan_iff {constants : Option Header.VersionConstants}
    {native : String} (void : (g.typeMap (g.completed api)).isMapped "void" = true)
    (roles : (g.checkRoles (g.completed api)).outcome = .ok ())
    (laid : (g.layouts (g.completed api)).outcome = .ok layouts)
    (read : g.constants = .ok constants) :
    ⟨.warn, TypeMap.unmappedNotice native⟩ ∈ (g.plan api).records ↔
      native ∈ (g.completed api).allSpellings ∧
        (g.typeMap (g.completed api)).isMapped native = false := by
  have classes : ∀ cls, cls ∈ layouts.map Prod.fst ↔ cls ∈ (g.completed api).classes := fun cls => by
    rw [(outcome_layouts_eq_ok_iff.mp laid).1, NativeApi.mem_sortedClasses]
  rw [warn_mem_records_plan_iff roles laid read, warn_mem_records_layouts_iff laid,
    TypeMap.notice_mem_warnings_iff]
  simp only [TypeMap.notice_mem_warnings_iff]
  cases unknown : (g.typeMap (g.completed api)).isMapped native with
  | true => simp [context]
  | false =>
    have mapped : native ∈ artifactSpellings (g.context (g.completed api))
        (g.completed api).functions layouts ↔ _ := mem_artifactSpellings_iff void unknown
    simp only [context, and_true] at mapped ⊢
    rw [mapped, mem_allSpellings_iff]
    simp only [classes, TypeMap.mem_spellings_iff void unknown]
    constructor
    · rintro (⟨cls, inside, ancestry, walked, ⟨ancestor, above, inherited⟩ | static⟩ |
        ⟨cls, inside, static⟩ | free)
      · have ascent := (NativeApi.ancestry_eq_ok_iff.mp walked).1
        exact .inl ⟨ancestor, ascent.mem_classes inside ancestor above, .inl inherited⟩
      · exact .inl ⟨cls, inside, .inr static⟩
      · exact .inl ⟨cls, inside, .inr static⟩
      · exact .inr free
    · rintro (⟨cls, inside, own | static⟩ | free)
      · obtain ⟨ancestry, walked⟩ := exists_ancestry_of_layouts laid inside
        exact .inl ⟨cls, inside, ancestry, walked,
          .inl ⟨cls, NativeApi.mem_chain_of_ancestry walked, own⟩⟩
      · exact .inr (.inl ⟨cls, inside, static⟩)
      · exact .inr (.inr free)

/-- What the check reports are the spellings of the interface that no table knows. -/
theorem mem_unmappedSpellings_iff {types : TypeMap} {native : String}
    (void : types.isMapped "void" = true) :
    native ∈ unmappedSpellings types api ↔
      native ∈ api.allSpellings ∧ types.isMapped native = false := by
  rw [unmappedSpellings, mem_firstOnly_iff, List.mem_filter, Bool.and_eq_true, Bool.not_eq_true',
    bne_iff_ne]
  refine and_congr_right fun _ => and_iff_right_of_imp ?_
  rintro unknown rfl
  rw [void] at unknown
  contradiction

/-- What is wrong with the classes of an interface is found by planning as it is by the check. -/
theorem outcome_plan_of_check {failure : Failure} (failed : (g.check api).outcome = .error failure) :
    (g.plan api).outcome = .error failure := by
  rw [outcome_plan]
  simp only [check, Logged.outcome_bind] at failed
  cases roles : (g.checkRoles (g.completed api)).outcome with
  | error fault =>
    rw [roles] at failed
    exact congrArg Except.error (Except.error.inj failed)
  | ok _ =>
    cases laid : (g.layouts (g.completed api)).outcome with
    | error fault =>
      rw [roles, laid] at failed
      exact congrArg Except.error (Except.error.inj failed)
    | ok layouts =>
      rw [roles, laid] at failed
      contradiction

theorem exists_constants_iff : (∃ constants, g.constants = .ok constants) ↔
    ∀ headers, g.headers = some headers →
      ∃ constants, Header.versionConstants headers = .ok constants := by
  rw [constants]
  cases g.headers with
  | none => simp
  | some headers =>
    cases read : Header.versionConstants headers <;> simp [read, Except.map]

/-- What the check refuses is refused by planning for the same reason. What it accepts is planned,
unless version headers are given that cannot be read; and where the tables know `void`, it reports
the spellings that planning warns about, each once. -/
theorem check_foretells_plan (g : Generator) (api : NativeApi) :
    (∀ failure, (g.check api).outcome = .error failure →
        (g.plan api).outcome = .error failure) ∧
      ∀ report, (g.check api).outcome = .ok report →
        ((∃ planned, (g.plan api).outcome = .ok planned) ↔
          ∀ headers, g.headers = some headers →
            ∃ constants, Header.versionConstants headers = .ok constants) ∧
        ((g.typeMap (g.completed api)).isMapped "void" = true →
          (∀ headers, g.headers = some headers →
            ∃ constants, Header.versionConstants headers = .ok constants) →
          report.unmapped.Nodup ∧ ∀ native, native ∈ report.unmapped ↔
            ⟨.warn, TypeMap.unmappedNotice native⟩ ∈ (g.plan api).records) := by
  refine ⟨fun failure => outcome_plan_of_check, fun report checked => ⟨?_, fun void readable => ?_⟩⟩
  · rw [exists_plan_iff, exists_constants_iff]
    exact and_iff_right ⟨report, checked⟩
  · obtain ⟨roles, layouts, laid, rfl⟩ := outcome_check_eq_ok_iff.mp checked
    obtain ⟨constants, read⟩ := exists_constants_iff.mpr readable
    refine ⟨nodup_firstOnly _, fun native => ?_⟩
    rw [notice_mem_records_plan_iff void roles laid read]
    exact mem_unmappedSpellings_iff void

/-- An interface with a class whose function takes a single nameless `void` and whose static takes a
type that no table knows, twice. -/
def gadget : NativeApi :=
  ⟨[⟨"Gadget", "gadget_t", "CefBaseRefCounted", "cef_base_ref_counted_t",
    [⟨"Make", "gadget_make", "struct _gadget_t*", [⟨"odd_t*", "first"⟩, ⟨"odd_t*", "second"⟩], true,
      []⟩],
    [⟨"Stop", "stop", "void", [⟨" void", ""⟩], false, []⟩], []⟩], []⟩

/-- A generator that adds no classes and knows `void`. -/
def forGadget : Generator :=
  .plain { Settings.default with syntheticClasses := [] }
    (Classification.empty.insert "Gadget" (.ofRole .proxy))
    { Dictionary.empty with concrete := Table.ofList [("void", "void")] }

theorem check_foretells_plan_gadget :
    (forGadget.check gadget).outcome = .ok ⟨1, 1, 0, 5, 0, ["odd_t*"]⟩ ∧
      (∃ planned, (forGadget.plan gadget).outcome = .ok planned) ∧
      ∀ native, native ∈ ["odd_t*"] ↔
        ⟨.warn, TypeMap.unmappedNotice native⟩ ∈ (forGadget.plan gadget).records := by
  have checked : (forGadget.check gadget).outcome = .ok ⟨1, 1, 0, 5, 0, ["odd_t*"]⟩ := by cbv
  have void : (forGadget.typeMap (forGadget.completed gadget)).isMapped "void" = true := by cbv
  obtain ⟨planned, warned⟩ := (check_foretells_plan forGadget gadget).2 _ checked
  have readable : ∀ headers, forGadget.headers = some headers →
      ∃ constants, Header.versionConstants headers = .ok constants := by
    intro headers given
    cases given
  exact ⟨checked, planned.mpr readable, (warned void readable).2⟩

end Generator

end Bindery
