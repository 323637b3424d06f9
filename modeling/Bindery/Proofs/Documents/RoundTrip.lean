import Bindery.Documents
import Bindery.Proofs.Documents.Flags
import Bindery.Proofs.Json.Reading

/-! # Documents are read for what they were written from

Each kind of document is read back from every text of the value it is written as. Entries of tables
come back in their order, unknown role bits come back as they were, and the wrapper name of a class,
which is left out where there is none, comes back as none. Settings are written where the paths in
them are texts. Main statement: `documents_round_trip`.
-/

namespace Bindery

open Json Reader

/-! ## Lists of texts and tables -/

theorem reads_texts (items : List String) : Reads (list text) (.texts items) items :=
  reads_list (fun item _ => reads_text item) fun _ _ _ writes => writes.opens_text

theorem Table.reads {α : Type} {item : Reader α} {toJson : α → Value} (table : Table α)
    (each : ∀ entry ∈ table.entries, Reads item (toJson entry.2) entry.2) :
    Reads (Table.reader item) (table.toJson toJson) table := by
  have read := (reads_entries each).map Table.ofList
  rwa [Table.ofList_entries] at read

theorem Path.reads {path : Path} (isText : path.isText = true) :
    Reads Path.reader path.toJson path := by
  have read : Reads Path.reader path.toJson ⟨path.text⟩ :=
    (reads_text path.text).map fun (text : String) => (⟨text⟩ : Path)
  have back : RawText.ofText path.text = path.spelling := RawText.ofText_text_eq_iff.mpr isText
  rwa [back] at read

/-- A list of records. -/
theorem reads_records {α : Type} {item : Reader α} {members : α → List (String × Value)}
    (each : ∀ value, Reads item (.object (members value)) value) (values : List α) :
    Reads (list item) (.list (values.map fun value => .object (members value))) values :=
  reads_list (fun value _ => each value) fun _ _ _ writes => writes.opens_object

/-! ## Records -/

theorem Parameter.reads (p : Parameter) : Reads Parameter.reader p.toJson p :=
  reads_record (by decide) <|
    .put ((reads_text p.type).map _) <|
    .put ((reads_text p.name).map _) .done

theorem NativeFunction.reads (f : NativeFunction) : Reads NativeFunction.reader f.toJson f :=
  reads_record (by decide) <|
    .put ((reads_text f.name).map _) <|
    .put ((reads_text f.abiName).map _) <|
    .put ((reads_text f.returnType).map _) <|
    .put ((reads_records Parameter.reads f.parameters).map _) <|
    .put ((reads_bool f.isStatic).map _) <|
    .put ((reads_texts f.comment).map _) .done

theorem NativeClass.reads (cls : NativeClass) : Reads NativeClass.reader cls.toJson cls :=
  reads_record (by decide) <|
    .put ((reads_text cls.name).map _) <|
    .put ((reads_text cls.abiName).map _) <|
    .put ((reads_text cls.parentName).map _) <|
    .put ((reads_text cls.parentAbiName).map _) <|
    .put ((reads_records NativeFunction.reads cls.statics).map _) <|
    .put ((reads_records NativeFunction.reads cls.virtuals).map _) <|
    .put ((reads_texts cls.comment).map _) .done

theorem NativeApi.reads (api : NativeApi) : Reads NativeApi.reader api.toJson api :=
  reads_record (by decide) <|
    .put ((reads_records NativeClass.reads api.classes).map _) <|
    .put ((reads_records NativeFunction.reads api.functions).map _) .done

/-- A wrapper name that is not there is left out, and stays away when it is read. -/
theorem Traits.reads (traits : Traits) : Reads Traits.reader traits.toJson traits := by
  obtain ⟨role, rename, isReversible, disposesItself, isAbstract⟩ := traits
  have written := reads_textVia role.ofText?_written
  cases rename with
  | none =>
    exact reads_record (by decide) <|
      .put (written.map _) <|
      .leave rfl <|
      .put ((reads_bool isReversible).map _) <|
      .put ((reads_bool disposesItself).map _) <|
      .put ((reads_bool isAbstract).map _) .done
  | some name =>
    exact reads_record (by decide) <|
      .put (written.map _) <|
      .put ((reads_optional_some (reads_text name)).map _) <|
      .put ((reads_bool isReversible).map _) <|
      .put ((reads_bool disposesItself).map _) <|
      .put ((reads_bool isAbstract).map _) .done

theorem Classification.reads (schema : Classification) :
    Reads Classification.reader schema.toJson schema :=
  (schema.classes.reads fun entry _ => entry.2.reads).map Classification.mk

theorem Dictionary.reads (d : Dictionary) : Reads Dictionary.reader d.toJson d :=
  reads_record (by decide) <|
    .put ((d.concrete.reads fun entry _ => reads_text entry.2).map _) <|
    .put ((d.enums.reads fun entry _ => reads_text entry.2).map _) <|
    .put ((d.platformReturns.reads fun entry _ => reads_texts entry.2).map _) .done

theorem SyntheticClass.reads (cls : SyntheticClass) :
    Reads SyntheticClass.reader cls.toJson cls :=
  reads_record (by decide) <|
    .put ((reads_text cls.name).map _) <|
    .put ((reads_text cls.abiName).map _) <|
    .put ((reads_text cls.parentName).map _) <|
    .put ((reads_text cls.parentAbiName).map _) .done

theorem Path.reads_optional {path? : Option Path}
    (texts : ∀ path ∈ path?.toList, path.isText = true) :
    Reads (optional Path.reader) ((path?.map Path.toJson).getD .null) path? := by
  cases path? with
  | none => exact reads_optional_none _
  | some path => exact reads_optional_some (Path.reads (texts path List.mem_cons_self))

theorem Settings.reads {s : Settings} (writable : s.Writable) :
    Reads Settings.reader s.toJson s := by
  obtain ⟨⟨directories, classification⟩, dictionary⟩ :
      ((∀ path ∈ s.directories, path.isText = true) ∧
        ∀ path ∈ s.classificationFile.toList, path.isText = true) ∧
        ∀ path ∈ s.dictionaryFile.toList, path.isText = true := by
    rwa [Writable, paths, List.forall_mem_append, List.forall_mem_append] at writable
  exact reads_record (by decide) <|
    .put ((reads_text s.wrapperNamespace).map _) <|
    .put ((reads_text s.interopNamespace).map _) <|
    .put ((reads_text s.nativeClass).map _) <|
    .put ((reads_text s.abiPrefix).map _) <|
    .put ((Path.reads (directories _ (by simp [Settings.directories]))).map _) <|
    .put ((Path.reads (directories _ (by simp [Settings.directories]))).map _) <|
    .put ((reads_text s.functionsFile).map _) <|
    .put ((reads_text s.versionFile).map _) <|
    .put ((Path.reads (directories _ (by simp [Settings.directories]))).map _) <|
    .put ((reads_text s.manifestFile).map _) <|
    .put ((reads_bool s.keepsBackups).map _) <|
    .put ((reads_records SyntheticClass.reads s.syntheticClasses).map _) <|
    .put ((Path.reads_optional classification).map _) <|
    .put ((Path.reads_optional dictionary).map _) .done

/-! ## Documents -/

/-- What is written for a kind of document is read back: from the text without blanks, and from
every text that differs from it in blanks only. -/
structure RoundTrips {α : Type} (writable : α → Prop) (toJson : α → Value)
    (ofText : String → Except Fault α) : Prop where
  compact : ∀ value, writable value → ofText (toJson value).render = .ok value
  spaced : ∀ value, writable value → ∀ before spelling behind, Gap before →
    (toJson value).Writes spelling → Gap behind →
    ofText (String.ofList (before ++ (spelling ++ behind))) = .ok value

theorem RoundTrips.of_reads {α : Type} {writable : α → Prop} {reader : Reader α}
    {toJson : α → Value} (reads : ∀ value, writable value → Reads reader (toJson value) value) :
    RoundTrips writable toJson fun s => reader.document s.toList where
  compact value can := by
    have read := document_of_reads (reads value can) gap_nil (toJson value).writes_chars gap_nil
    rw [List.nil_append, List.append_nil] at read
    rwa [Value.render, String.toList_ofList]
  spaced value can before spelling behind blank writes blankToo := by
    rw [String.toList_ofList]
    exact document_of_reads (reads value can) blank writes blankToo

/-- Interfaces, classifications, dictionaries and settings are read back from the documents that
they are written as. -/
theorem documents_round_trip :
    RoundTrips (fun _ => True) NativeApi.toJson NativeApi.ofText ∧
    RoundTrips (fun _ => True) Classification.toJson Classification.ofText ∧
    RoundTrips (fun _ => True) Dictionary.toJson Dictionary.ofText ∧
    RoundTrips Settings.Writable Settings.toJson Settings.ofText :=
  ⟨.of_reads fun api _ => api.reads, .of_reads fun schema _ => schema.reads,
    .of_reads fun dictionary _ => dictionary.reads, .of_reads fun _ => Settings.reads⟩

end Bindery
