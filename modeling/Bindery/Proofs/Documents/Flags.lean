import Mathlib.Data.List.Forall2
import Bindery.Role
import Bindery.Proofs.Text.Splitting
import Bindery.Proofs.Text.Trimming

/-! # Reading written roles back

A written role is a list of flags with bars and blanks between them. Every flag is read for its own
bits, those without a name included. Main statement: reading a written role answers the role
(`ofText?_written`).
-/

namespace Bindery.Role

open Text (splitOn trim joined)

/-- A written flag that is read for the bits of a role. -/
structure Flag (flag : String) (role : Role) : Prop where
  nonempty : flag.toList ≠ []
  solid : ∀ c ∈ flag.toList, Text.isBlank c = false
  unbarred : '|' ∉ flag.toList
  read : ofFlag? flag.toList = some role

/-- Between blanks, a flag is what trimming finds. -/
theorem Flag.trim_eq {flag : String} {role : Role} (isFlag : Flag flag role)
    {lead trail : List Char} (before : Text.isAllBlank lead = true) (behind : Text.isAllBlank trail = true) :
    trim (lead ++ flag.toList ++ trail) = flag.toList :=
  Text.trim_between isFlag.nonempty (fun c first => isFlag.solid c (List.mem_of_mem_head? first))
    (fun c last => isFlag.solid c (List.mem_of_mem_getLast? last)) before behind

/-- Between the bars of joined flags there are the flags, up to blanks. -/
theorem splitOn_joined {flag : String} {flags : List String} {roles : List Role}
    (each : List.Forall₂ Flag (flag :: flags) roles) {lead : List Char}
    (blank : Text.isAllBlank lead = true) (unbarred : '|' ∉ lead) :
    (splitOn '|' (lead ++ (joined " | " (flag :: flags)).toList)).map trim =
      (flag :: flags).map String.toList := by
  induction flags generalizing flag roles lead with
  | nil =>
    cases each with
    | cons isFlag _ =>
      have free : '|' ∉ lead ++ flag.toList :=
        List.not_mem_append unbarred isFlag.unbarred
      have trimmed : trim (lead ++ flag.toList) = flag.toList := by
        have alone := isFlag.trim_eq blank (rfl : Text.isAllBlank [] = true)
        rwa [List.append_nil] at alone
      have whole : (joined " | " [flag]).toList = flag.toList := by simp [joined]
      rw [whole, Text.splitOn_of_not_mem free, List.map_singleton, List.map_singleton, trimmed]
  | cons next flags ih =>
    cases each with
    | cons isFlag others =>
      have free : '|' ∉ lead ++ flag.toList ++ [' '] :=
        List.not_mem_append (List.not_mem_append unbarred isFlag.unbarred) (by decide)
      have cut : lead ++ (joined " | " (flag :: next :: flags)).toList =
          (lead ++ flag.toList ++ [' ']) ++
            '|' :: ([' '] ++ (joined " | " (next :: flags)).toList) := by
        simp [joined, String.intercalate_cons_cons]
      have trimmed := isFlag.trim_eq blank (by decide : Text.isAllBlank [' '] = true)
      have rest := ih others (by decide : Text.isAllBlank [' '] = true) (by decide)
      rw [cut, Text.splitOn_append_cons, Text.splitOn_of_not_mem free, List.map_append, rest,
        List.map_singleton, trimmed, List.singleton_append, ← List.map_cons]

/-- The bits of flags are put together from the left. -/
theorem foldl_flags {flags : List String} {roles : List Role} (each : List.Forall₂ Flag flags roles)
    (total : Role) :
    (flags.map String.toList).foldl
        (fun total flag => do return (← total).union (← ofFlag? flag)) (some total) =
      some (roles.foldl union total) := by
  induction each generalizing total with
  | nil => rfl
  | @cons flag role flags roles isFlag _ ih =>
    have step : (do return (← some total).union (← ofFlag? flag.toList) : Option Role) =
        some (total.union role) := by rw [isFlag.read]; rfl
    rw [List.map_cons, List.foldl_cons, step, ih, List.foldl_cons]

/-- Joined flags are read for the bits of all of them. -/
theorem ofText?_joined {flag : String} {flags : List String} {roles : List Role}
    (each : List.Forall₂ Flag (flag :: flags) roles) :
    ofText? (joined " | " (flag :: flags)) = some (roles.foldl union none) := by
  have pieces := splitOn_joined each (rfl : Text.isAllBlank [] = true) List.not_mem_nil
  rw [List.nil_append] at pieces
  have notBlank : (trim (joined " | " (flag :: flags)).toList).isEmpty = false := by
    cases each with
    | cons isFlag _ =>
      obtain ⟨c, inside⟩ := List.exists_mem_of_ne_nil _ isFlag.nonempty
      have shown : c ∈ (joined " | " (flag :: flags)).toList := by
        cases flags with
        | nil => simpa [joined] using inside
        | cons next flags => simp [joined, String.intercalate_cons_cons, inside]
      rw [List.isEmpty_eq_false_iff]
      exact Text.trim_ne_nil shown (isFlag.solid c inside)
  rw [ofText?, notBlank, if_neg Bool.false_ne_true, ← foldl_flags each, ← pieces, List.foldl_map]

/-! ## The flags of a role -/

theorem forall_of_any_eq_false {text : List Char} (solid : text.any Text.isBlank = false) :
    ∀ c ∈ text, Text.isBlank c = false := by
  simpa using solid

theorem flag_handler : Flag "HANDLER" handler where
  nonempty := by decide
  solid := forall_of_any_eq_false (by decide)
  unbarred := by decide
  read := by decide

theorem flag_proxy : Flag "PROXY" proxy where
  nonempty := by decide
  solid := forall_of_any_eq_false (by decide)
  unbarred := by decide
  read := by decide

/-- The digits of a byte are read for the byte and hold nothing but digits. -/
theorem hexDigits_spec (bits : UInt8) : hexByte? (hexDigits bits.toNat) = some bits ∧
    (hexDigits bits.toNat).any Text.isBlank = false ∧
    '|' ∉ hexDigits bits.toNat ∧ '+' ∉ hexDigits bits.toNat := by
  have each : ∀ n : Fin 256, hexByte? (hexDigits n) = some (UInt8.ofFin n) ∧
      (hexDigits n).any Text.isBlank = false ∧ '|' ∉ hexDigits n ∧ '+' ∉ hexDigits n := by
    decide +kernel
  exact each bits.toFin

/-- Bits without a name are written in hexadecimal. -/
theorem flag_hexadecimal (bits : UInt8) :
    Flag ("0x" ++ String.ofList (hexDigits bits.toNat)) ⟨bits⟩ := by
  obtain ⟨read, solid, unbarred, unsigned⟩ := hexDigits_spec bits
  have shown : ("0x" ++ String.ofList (hexDigits bits.toNat)).toList =
      ['0', 'x'] ++ hexDigits bits.toNat := by simp
  constructor
  · rw [shown]
    exact List.cons_ne_nil _ _
  · rw [shown]
    exact forall_of_any_eq_false (by rw [List.any_append, solid]; decide)
  · rw [shown]
    exact List.not_mem_append (by decide) unbarred
  · have unprefixed : Text.after? ['+'] (hexDigits bits.toNat) = Option.none := by
      cases written : hexDigits bits.toNat with
      | nil => rfl
      | cons c rest =>
        rw [written] at unsigned
        have notPlus : '+' ≠ c := (List.ne_and_not_mem_of_not_mem_cons unsigned).1
        rw [Text.after?, if_neg notPlus]
    have hexadecimal : Text.after? ['0', 'x'] (['0', 'x'] ++ hexDigits bits.toNat) =
        some (hexDigits bits.toNat) := Text.after?_eq_some_iff.mpr rfl
    rw [shown, ofFlag?, hexadecimal]
    simp only [unprefixed, Option.getD_none, read, Option.map_some]

/-- The named parts of a role, and its bits without a name. -/
def parts (role : Role) : List Role :=
  let others := role.bits &&& ~~~(handler.union proxy).bits
  (if role.isHandler then [handler] else []) ++ (if role.isProxy then [proxy] else []) ++
    if others == 0 then [] else [⟨others⟩]

/-- The parts of a role make up the role. -/
theorem foldl_parts (role : Role) : role.parts.foldl union none = role := by
  have each : ∀ n : Fin 256,
      ((parts ⟨UInt8.ofFin n⟩).foldl union none).bits = UInt8.ofFin n := by decide +kernel
  obtain ⟨bits⟩ := role
  exact congrArg mk (each bits.toFin)

/-- A written role is one flag for each part of the role. -/
theorem written_eq (role : Role) :
    ∃ flags, role.written = joined " | " flags ∧ List.Forall₂ Flag flags role.parts := by
  refine ⟨_, rfl, List.rel_append (List.rel_append ?_ ?_) ?_⟩
  · split
    · exact .cons flag_handler .nil
    · exact .nil
  · split
    · exact .cons flag_proxy .nil
    · exact .nil
  · split
    · exact .nil
    · exact .cons (flag_hexadecimal _) .nil

/-- Reading a written role answers the role. -/
theorem ofText?_written (role : Role) : ofText? role.written = some role := by
  obtain ⟨flags, written, each⟩ := role.written_eq
  have whole := role.foldl_parts
  rw [written]
  cases flags with
  | nil =>
    rw [List.forall₂_nil_left_iff.mp each] at whole
    rw [← whole]
    rfl
  | cons flag flags => rw [ofText?_joined each, whole]

example : written ⟨0x85⟩ = "HANDLER | 0x84" := by decide

end Bindery.Role
