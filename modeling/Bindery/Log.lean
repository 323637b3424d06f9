import Bindery.Failure
import Bindery.Text.Terminal

/-! # Log records

Computations that write to the log are values here: they carry the records they write, in order, and
end with a result or a failure. A failure keeps the records that were written before it. Main
statement: such computations are a lawful monad.
-/

namespace Bindery

/-- The levels of log records, most important first. -/
inductive Level where
  | error
  | warn
  | info
  | debug
  | trace
  deriving DecidableEq, Repr

namespace Level

/-- The place of a level in the order of importance, from one on. -/
def rank : Level → Nat
  | .error => 1
  | .warn => 2
  | .info => 3
  | .debug => 4
  | .trace => 5

/-- The name of a level. -/
def display : Level → String
  | .error => "ERROR"
  | .warn => "WARN"
  | .info => "INFO"
  | .debug => "DEBUG"
  | .trace => "TRACE"

/-- The name of a level, five columns wide. -/
def tag (level : Level) : String :=
  level.display ++ String.ofList (List.replicate (5 - level.display.length) ' ')

end Level

/-- What a log lets through: nothing, or the records down to a level. -/
inductive LevelFilter where
  | off
  | upTo (level : Level)
  deriving DecidableEq, Repr

namespace LevelFilter

/-- The name of a filter. -/
def display : LevelFilter → String
  | .off => "OFF"
  | .upTo level => level.display

/-- Whether records of a level pass. -/
def passes : LevelFilter → Level → Bool
  | .off, _ => false
  | .upTo least, level => level.rank ≤ least.rank

/-- The filter of a given name, in upper or lower case. Any other name stands for `info`. -/
def ofName (name : String) : LevelFilter :=
  match String.ofList (name.toList.map Char.toLower) with
  | "error" => .upTo .error
  | "warn" => .upTo .warn
  | "warning" => .upTo .warn
  | "info" => .upTo .info
  | "debug" => .upTo .debug
  | "trace" => .upTo .trace
  | "off" => .off
  | _ => .upTo .info

end LevelFilter

/-- One log record. -/
structure Record where
  level : Level
  text : String
  deriving DecidableEq

/-- A record in one line, with the level in a column of its own. -/
def Record.line (record : Record) : String := s!"{record.level.tag} {record.text}\n"

/-- The text that a log with a filter keeps of some records. Each record is freed of the control
sequences of terminals by itself, so that one it leaves open does not reach into the next record;
it takes the end of its own line along. -/
def logText (filter : LevelFilter) (records : List Record) : String :=
  String.join ((records.filter fun record => filter.passes record.level).map fun record =>
    shownText record.line)

/-- A computation that writes records and ends with a result or a failure. -/
structure Logged (α : Type) where
  records : List Record
  outcome : Except Failure α

namespace Logged

/-- Ends with a result. -/
def succeed {α : Type} (value : α) : Logged α := ⟨[], .ok value⟩

/-- Ends with a failure. -/
def fail {α : Type} (failure : Failure) : Logged α := ⟨[], .error failure⟩

/-- Continues a computation that ends with a result. -/
def andThen {α β : Type} (first : Logged α) (next : α → Logged β) : Logged β :=
  match first.outcome with
  | .ok value => ⟨first.records ++ (next value).records, (next value).outcome⟩
  | .error failure => ⟨first.records, .error failure⟩

instance : Monad Logged where
  pure := succeed
  bind := andThen

/-- Writes records. -/
def write (records : List Record) : Logged Unit := ⟨records, .ok ()⟩

/-- Writes one record. -/
def note (level : Level) (text : String) : Logged Unit := write [⟨level, text⟩]

/-- A computation that writes nothing. -/
def ofExcept {α : Type} (outcome : Except Failure α) : Logged α := ⟨[], outcome⟩

@[simp] theorem outcome_pure {α : Type} (value : α) : (pure value : Logged α).outcome = .ok value :=
  rfl

@[simp] theorem outcome_bind {α β : Type} (first : Logged α) (next : α → Logged β) :
    (first >>= next).outcome = first.outcome >>= fun value => (next value).outcome := by
  change (andThen first next).outcome = _
  unfold andThen
  cases first.outcome <;> rfl

theorem records_bind {α β : Type} (first : Logged α) (next : α → Logged β) :
    (first >>= next).records =
      match first.outcome with
      | .ok value => first.records ++ (next value).records
      | .error _ => first.records := by
  change (andThen first next).records = _
  unfold andThen
  cases first.outcome <;> rfl

instance : LawfulMonad Logged := LawfulMonad.mk' Logged
  (by
    rintro α ⟨records, _ | value⟩
    · rfl
    · exact congrArg (Logged.mk · (.ok value)) (List.append_nil records))
  (fun _ _ => rfl)
  (by
    rintro α β γ ⟨records, _ | value⟩ f g
    · rfl
    change andThen (andThen _ f) g = andThen _ fun value => andThen (f value) g
    rcases same : f value with ⟨later, _ | value⟩
    · simp [andThen, same]
    · simp [andThen, same])

end Logged

end Bindery
