import Bindery.Classification
import Bindery.Dictionary
import Bindery.Json.Record
import Bindery.Json.Value
import Bindery.Model
import Bindery.Settings

/-! # Documents

Interfaces, classifications, dictionaries and settings are kept as JSON documents. For each there is
a reader of its shape and the value it is written as. Every member of a record is written, except
the wrapper name of a class that is not renamed.
-/

namespace Bindery

open Json

namespace Parameter

/-- The members of a parameter. -/
def fields : List (RecordField Parameter) := [
  .needed "type" Reader.text fun p type => { p with type },
  .needed "name" Reader.text fun p name => { p with name }]

/-- Reads a parameter. -/
def reader : Reader Parameter := Reader.record fields ⟨"", ""⟩

/-- A parameter as a JSON value. -/
def toJson (p : Parameter) : Value := .object [("type", .text p.type), ("name", .text p.name)]

end Parameter

namespace NativeFunction

/-- The members of a function. -/
def fields : List (RecordField NativeFunction) := [
  .needed "name" Reader.text fun f name => { f with name },
  .needed "abi_name" Reader.text fun f abiName => { f with abiName },
  .needed "return_type" Reader.text fun f returnType => { f with returnType },
  .defaulted "arguments" (Reader.list Parameter.reader) fun f parameters => { f with parameters },
  .defaulted "is_static" Reader.bool fun f isStatic => { f with isStatic },
  .defaulted "comment" (Reader.list Reader.text) fun f comment => { f with comment }]

/-- Reads a function. -/
def reader : Reader NativeFunction := Reader.record fields ⟨"", "", "", [], false, []⟩

/-- A function as a JSON value. -/
def toJson (f : NativeFunction) : Value := .object [
  ("name", .text f.name),
  ("abi_name", .text f.abiName),
  ("return_type", .text f.returnType),
  ("arguments", .list (f.parameters.map Parameter.toJson)),
  ("is_static", .bool f.isStatic),
  ("comment", .texts f.comment)]

end NativeFunction

namespace NativeClass

/-- The members of a class. -/
def fields : List (RecordField NativeClass) := [
  .needed "name" Reader.text fun cls name => { cls with name },
  .needed "abi_name" Reader.text fun cls abiName => { cls with abiName },
  .defaulted "parent_name" Reader.text fun cls parentName => { cls with parentName },
  .defaulted "parent_abi_name" Reader.text fun cls parentAbiName => { cls with parentAbiName },
  .defaulted "static_functions" (Reader.list NativeFunction.reader)
    fun cls statics => { cls with statics },
  .defaulted "virtual_functions" (Reader.list NativeFunction.reader)
    fun cls virtuals => { cls with virtuals },
  .defaulted "doc_comment" (Reader.list Reader.text) fun cls comment => { cls with comment }]

/-- Reads a class. -/
def reader : Reader NativeClass := Reader.record fields (bare "" "" "" "")

/-- A class as a JSON value. -/
def toJson (cls : NativeClass) : Value := .object [
  ("name", .text cls.name),
  ("abi_name", .text cls.abiName),
  ("parent_name", .text cls.parentName),
  ("parent_abi_name", .text cls.parentAbiName),
  ("static_functions", .list (cls.statics.map NativeFunction.toJson)),
  ("virtual_functions", .list (cls.virtuals.map NativeFunction.toJson)),
  ("doc_comment", .texts cls.comment)]

end NativeClass

namespace NativeApi

/-- The members of an interface. -/
def fields : List (RecordField NativeApi) := [
  .defaulted "classes" (Reader.list NativeClass.reader) fun api classes => { api with classes },
  .defaulted "functions" (Reader.list NativeFunction.reader)
    fun api functions => { api with functions }]

/-- Reads an interface. -/
def reader : Reader NativeApi := Reader.record fields empty

/-- An interface as a JSON value. -/
def toJson (api : NativeApi) : Value := .object [
  ("classes", .list (api.classes.map NativeClass.toJson)),
  ("functions", .list (api.functions.map NativeFunction.toJson))]

/-- Reads the text of an interface document. -/
def ofText (s : String) : Except Fault NativeApi := reader.document s.toList

end NativeApi

namespace Traits

/-- The members of a class's traits. -/
def fields : List (RecordField Traits) := [
  .needed "role" (Reader.textVia Role.ofText?) fun traits role => { traits with role },
  .defaulted "name" (Reader.optional Reader.text) fun traits rename => { traits with rename },
  .defaulted "reversible" Reader.bool fun traits isReversible => { traits with isReversible },
  .defaulted "autodispose" Reader.bool fun traits disposesItself => { traits with disposesItself },
  .defaulted "abstract" Reader.bool fun traits isAbstract => { traits with isAbstract }]

/-- Reads a class's traits. -/
def reader : Reader Traits := Reader.record fields (ofRole .none)

/-- A class's traits as a JSON value. -/
def toJson (traits : Traits) : Value := .object <|
  [("role", .text traits.role.written)] ++
  (traits.rename.map fun name => ("name", Value.text name)).toList ++
  [("reversible", .bool traits.isReversible),
    ("autodispose", .bool traits.disposesItself),
    ("abstract", .bool traits.isAbstract)]

end Traits

namespace Table

/-- Reads a table. Of entries with one key the last counts. -/
def reader {α : Type} (item : Reader α) : Reader (Table α) := do
  return ofList (← Reader.entries item)

/-- A table as a JSON value. -/
def toJson {α : Type} (item : α → Value) (table : Table α) : Value :=
  .object (table.entries.map fun entry => (entry.1, item entry.2))

end Table

namespace Classification

/-- Reads a classification. -/
def reader : Reader Classification := do return ⟨← Table.reader Traits.reader⟩

/-- A classification as a JSON value. -/
def toJson (schema : Classification) : Value := schema.classes.toJson Traits.toJson

/-- Reads the text of a classification document. -/
def ofText (s : String) : Except Fault Classification := reader.document s.toList

end Classification

namespace Dictionary

/-- The members of a dictionary. -/
def fields : List (RecordField Dictionary) := [
  .defaulted "concrete" (Table.reader Reader.text) fun d concrete => { d with concrete },
  .defaulted "enums" (Table.reader Reader.text) fun d enums => { d with enums },
  .defaulted "platform_retval" (Table.reader (Reader.list Reader.text))
    fun d platformReturns => { d with platformReturns }]

/-- Reads a dictionary. -/
def reader : Reader Dictionary := Reader.record fields empty

/-- A dictionary as a JSON value. -/
def toJson (d : Dictionary) : Value := .object [
  ("concrete", d.concrete.toJson .text),
  ("enums", d.enums.toJson .text),
  ("platform_retval", d.platformReturns.toJson .texts)]

/-- Reads the text of a dictionary document. -/
def ofText (s : String) : Except Fault Dictionary := reader.document s.toList

end Dictionary

namespace SyntheticClass

/-- The members of a synthetic class. -/
def fields : List (RecordField SyntheticClass) := [
  .needed "name" Reader.text fun cls name => { cls with name },
  .needed "abi_name" Reader.text fun cls abiName => { cls with abiName },
  .needed "parent_name" Reader.text fun cls parentName => { cls with parentName },
  .needed "parent_abi_name" Reader.text fun cls parentAbiName => { cls with parentAbiName }]

/-- Reads a synthetic class. -/
def reader : Reader SyntheticClass := Reader.record fields ⟨"", "", "", ""⟩

/-- A synthetic class as a JSON value. -/
def toJson (cls : SyntheticClass) : Value := .object [
  ("name", .text cls.name),
  ("abi_name", .text cls.abiName),
  ("parent_name", .text cls.parentName),
  ("parent_abi_name", .text cls.parentAbiName)]

end SyntheticClass

namespace Path

/-- Reads a path. -/
def reader : Reader Path := do return ⟨← Reader.text⟩

/-- A path as a JSON value, for paths that are texts. -/
def toJson (path : Path) : Value := .text path.text

end Path

namespace Settings

/-- The members of settings. -/
def fields : List (RecordField Settings) := [
  .defaulted "namespace" Reader.text fun s wrapperNamespace => { s with wrapperNamespace },
  .defaulted "interop_namespace" Reader.text fun s interopNamespace => { s with interopNamespace },
  .defaulted "native_class" Reader.text fun s nativeClass => { s with nativeClass },
  .defaulted "abi_prefix" Reader.text fun s abiPrefix => { s with abiPrefix },
  .defaulted "struct_path" Path.reader fun s structDir => { s with structDir },
  .defaulted "static_table_path" Path.reader fun s functionsDir => { s with functionsDir },
  .defaulted "static_table_filename" Reader.text fun s functionsFile => { s with functionsFile },
  .defaulted "version_filename" Reader.text fun s versionFile => { s with versionFile },
  .defaulted "wrapper_path" Path.reader fun s wrapperDir => { s with wrapperDir },
  .defaulted "manifest_filename" Reader.text fun s manifestFile => { s with manifestFile },
  .defaulted "make_backup" Reader.bool fun s keepsBackups => { s with keepsBackups },
  .defaulted "synthetic_classes" (Reader.list SyntheticClass.reader)
    fun s syntheticClasses => { s with syntheticClasses },
  .defaulted "schema_file" (Reader.optional Path.reader)
    fun s classificationFile => { s with classificationFile },
  .defaulted "type_tables_file" (Reader.optional Path.reader)
    fun s dictionaryFile => { s with dictionaryFile }]

/-- Reads settings. Whatever is not given has its default. -/
def reader : Reader Settings := Reader.record fields default

/-- The paths in settings. -/
def paths (s : Settings) : List Path :=
  s.directories ++ s.classificationFile.toList ++ s.dictionaryFile.toList

/-- Settings are written as a document where the paths in them are texts. -/
def Writable (s : Settings) : Prop := ∀ path ∈ s.paths, path.isText = true

instance (s : Settings) : Decidable s.Writable := inferInstanceAs (Decidable (∀ _ ∈ _, _))

/-- Settings as a JSON value, for settings that can be written. -/
def toJson (s : Settings) : Value :=
  let path? (path : Option Path) : Value := (path.map Path.toJson).getD .null
  .object [
    ("namespace", .text s.wrapperNamespace),
    ("interop_namespace", .text s.interopNamespace),
    ("native_class", .text s.nativeClass),
    ("abi_prefix", .text s.abiPrefix),
    ("struct_path", s.structDir.toJson),
    ("static_table_path", s.functionsDir.toJson),
    ("static_table_filename", .text s.functionsFile),
    ("version_filename", .text s.versionFile),
    ("wrapper_path", s.wrapperDir.toJson),
    ("manifest_filename", .text s.manifestFile),
    ("make_backup", .bool s.keepsBackups),
    ("synthetic_classes", .list (s.syntheticClasses.map SyntheticClass.toJson)),
    ("schema_file", path? s.classificationFile),
    ("type_tables_file", path? s.dictionaryFile)]

/-- Reads the text of a settings document. -/
def ofText (s : String) : Except Fault Settings := reader.document s.toList

end Settings

end Bindery
