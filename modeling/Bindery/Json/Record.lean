import Bindery.Json.Reader

/-! # Reading records

A record is written as an object of named members in any order, or as a list of its fields in the
declared order. A field that must be given is missed only at the end; a field that is given twice
is refused at its second name. In a list, fields at the end that need not be given may be left out.
-/

namespace Bindery.Json

/-- One field of a record that is being read: its name, whether it has to be given, and how its
value enters the record. -/
structure RecordField (σ : Type) where
  key : String
  required : Bool
  read : σ → Reader σ

namespace RecordField

/-- A field that has to be given. -/
def needed {σ α : Type} (key : String) (value : Reader α) (put : σ → α → σ) : RecordField σ :=
  ⟨key, true, fun record => do return put record (← value)⟩

/-- A field that keeps its default when it is not given. -/
def defaulted {σ α : Type} (key : String) (value : Reader α) (put : σ → α → σ) : RecordField σ :=
  ⟨key, false, fun record => do return put record (← value)⟩

end RecordField

namespace Reader

/-- A finished record, unless a field that has to be given was not among the `given` names. -/
def complete {σ : Type} (fields : List (RecordField σ)) (given : List String) (record : σ) :
    Reader σ :=
  if fields.all fun field => !field.required || given.contains field.key then return record
  else fail .mismatched

/-- The named members of a record up to the closing brace. -/
def recordMembers {σ : Type} (fields : List (RecordField σ)) :
    (fuel : Nat) → (first : Bool) → (given : List String) → σ → Reader σ
  | 0, _, _, _ => fail .unfinished
  | fuel + 1, first, given, record => do
    if ← moreMembers first then
      advance
      let key ← literal
      match fields.find? (·.key = key) with
      | none =>
        colon
        skip
        recordMembers fields fuel false given record
      | some field =>
        if given.contains key then fail .mismatched
        else
          colon
          let record ← field.read record
          recordMembers fields fuel false (key :: given) record
    else
      let record ← complete fields given record
      advance
      return record

/-- The fields of a record in their declared order, up to the closing bracket. -/
def recordItems {σ : Type} (all : List (RecordField σ)) :
    List (RecordField σ) → (first : Bool) → (given : List String) → σ → Reader σ
  | [], _, _, record => do
    match ← peek with
    | none => fail .unfinished
    | some ']' => advance; return record
    | some _ => fail .malformed
  | field :: rest, first, given, record => do
    if ← moreItems first then
      let record ← field.read record
      recordItems all rest false (field.key :: given) record
    else
      let record ← complete all given record
      advance
      return record

/-- A record, starting from the one that holds every default. -/
def record {σ : Type} (fields : List (RecordField σ)) (default : σ) : Reader σ := do
  match ← peek with
  | some '[' =>
    advance
    recordItems fields fields true [] default
  | some c =>
    if c = '\x7b' then
      advance
      let rest ← get
      recordMembers fields (rest.length + 1) true [] default
    else refuse
  | none => refuse

end Reader

end Bindery.Json
