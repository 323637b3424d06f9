import Mathlib.Data.List.TakeWhile
import Bindery.Json.Record
import Bindery.Proofs.Json.Writing
import Bindery.Proofs.Keys

/-! # Reading texts of values back

A reader reads a value for a result when it takes every text of the value from the front of a longer
text, blanks before it included, and answers the result and all that follows.
-/

namespace Bindery.Json

/-! ## String literals -/

theorem hexValue?_hexDigit : ∀ n < 16, hexValue? (Value.hexDigit n) = some n := by decide

/-- One character of a literal is read back from its written form. -/
theorem scanLiteral_escaped (done : List Char) (c : Char) (rest : List Char) :
    scanLiteral true .plain done (Value.escaped c ++ rest) =
      scanLiteral true .plain (c :: done) rest := by
  -- One case for each way of writing a character: with a letter behind a backslash, by its number,
  -- or as it is.
  unfold Value.escaped
  split
  · simp [scanLiteral, escapeTarget?]
  · simp [scanLiteral, escapeTarget?]
  · simp [scanLiteral, escapeTarget?]
  · simp [scanLiteral, escapeTarget?]
  · simp [scanLiteral, escapeTarget?]
  · next quote backslash _ _ _ =>
    split
    · next backspace =>
      have same : c = '\x08' := Char.toNat_inj.mp backspace
      simp [scanLiteral, escapeTarget?, same]
    split
    · next formFeed =>
      have same : c = '\x0c' := Char.toNat_inj.mp formFeed
      simp [scanLiteral, escapeTarget?, same]
    split
    · next control =>
      have zero : hexValue? '0' = some 0 := by decide
      have high := hexValue?_hexDigit (c.toNat / 16) (by omega)
      have low := hexValue?_hexDigit (c.toNat % 16) (by omega)
      have whole : c.toNat / 16 * 16 + c.toNat % 16 = c.toNat := Nat.div_add_mod' _ _
      have alone : unitRead true none c.toNat = .ok (.plain, [c]) := by
        have trailing : isTrailingSurrogate c.toNat = false := by
          simp only [isTrailingSurrogate, Bool.and_eq_false_imp, decide_eq_true_eq]
          omega
        have leading : isLeadingSurrogate c.toNat = false := by
          simp only [isLeadingSurrogate, Bool.and_eq_false_imp, decide_eq_true_eq]
          omega
        simp [unitRead, trailing, leading]
      simp [scanLiteral, zero, high, low, whole, alone]
    · next printed =>
      have notQuote : c ≠ '"' := quote
      have notBackslash : c ≠ '\\' := backslash
      simp [scanLiteral, notQuote, notBackslash, printed]

theorem scanLiteral_flatMap_escaped (done s rest : List Char) :
    scanLiteral true .plain done (s.flatMap Value.escaped ++ '"' :: rest) =
      .ok (s.reverse ++ done, rest) := by
  induction s generalizing done with
  | nil => simp [scanLiteral]
  | cons c s ih =>
    rw [List.flatMap_cons, List.append_assoc, scanLiteral_escaped, ih]
    simp

/-! ## Steps of readers -/

/-- A text that does not begin with a blank or with the end of a list. -/
def Opens (text : List Char) : Prop :=
  ∃ c rest, text = c :: rest ∧ Reader.isSpace c = false ∧ c ≠ ']'

theorem Value.Writes.opens_text {s : String} {text : List Char}
    (writes : (Value.text s).Writes text) : Opens text := by
  cases writes
  exact ⟨_, _, rfl, by decide, by decide⟩

theorem Value.Writes.opens_object {members : List (String × Value)} {text : List Char}
    (writes : (Value.object members).Writes text) : Opens text := by
  cases writes
  exact ⟨_, _, rfl, by decide, by decide⟩

namespace Reader

variable {α β σ : Type} {s left gap spelling inner rest : List Char} {value : α}

theorem bind_of_ok {first : Reader α} (taken : first s = .ok (value, left))
    (next : α → Reader β) : (first >>= next) s = next value left := by
  change (first s >>= fun read => next read.1 read.2) = next value left
  rw [taken]
  rfl

theorem peek_gap (blank : Gap gap) {c : Char} (solid : isSpace c = false) (rest : List Char) :
    peek (gap ++ c :: rest) = .ok (some c, c :: rest) := by
  have dropped : (gap ++ c :: rest).dropWhile isSpace = c :: rest := by
    rw [List.dropWhile_append_of_pos blank, List.dropWhile_cons_of_neg (by simp [solid])]
  rw [peek, dropped]
  rfl

theorem literal_append (s : String) (rest : List Char) :
    literal (s.toList.flatMap Value.escaped ++ '"' :: rest) = .ok (s, rest) := by
  rw [literal, scanLiteral_flatMap_escaped]
  simp [Except.map]

/-- A reader reads a value for a result, blanks before it included. -/
def Reads (reader : Reader α) (written : Value) (value : α) : Prop :=
  ∀ ⦃gap spelling : List Char⦄, Gap gap → written.Writes spelling →
    ∀ rest, reader (gap ++ (spelling ++ rest)) = .ok (value, rest)

theorem Reads.at_once {reader : Reader α} {written : Value} (reads : Reads reader written value)
    (writes : written.Writes spelling) (rest : List Char) :
    reader (spelling ++ rest) = .ok (value, rest) := reads gap_nil writes rest

theorem reads_text (s : String) : Reads text (.text s) s := by
  intro gap spelling blank writes rest
  cases writes
  rw [Reader.text, Value.literal, List.append_assoc, List.cons_append,
    bind_of_ok (peek_gap blank (by decide) _)]
  exact literal_append s rest

theorem reads_bool (b : Bool) : Reads bool (.bool b) b := by
  intro gap spelling blank writes rest
  cases writes with
  | yes =>
    rw [Reader.bool, List.cons_append, bind_of_ok (peek_gap blank (by decide) _)]
    rfl
  | no =>
    rw [Reader.bool, List.cons_append, bind_of_ok (peek_gap blank (by decide) _)]
    rfl

/-- What is made of a result is read where the result is. -/
theorem Reads.map {reader : Reader α} {written : Value} (reads : Reads reader written value)
    (f : α → β) : Reads (do return f (← reader)) written (f value) := by
  intro gap spelling blank writes rest
  rw [bind_of_ok (reads blank writes rest)]
  rfl

theorem reads_textVia {read : String → Option α} {s : String} (same : read s = some value) :
    Reads (textVia read) (.text s) value := by
  intro gap spelling blank writes rest
  rw [textVia, bind_of_ok (reads_text s blank writes rest)]
  simp only [same]
  rfl

theorem reads_optional_none (item : Reader α) : Reads (optional item) .null none := by
  intro gap spelling blank writes rest
  cases writes
  rw [optional, List.cons_append, bind_of_ok (peek_gap blank (by decide) _)]
  rfl

theorem reads_optional_some {item : Reader α} {s : String} (reads : Reads item (.text s) value) :
    Reads (optional item) (.text s) (some value) := by
  intro gap spelling blank writes rest
  have read := reads.map some gap_nil writes rest
  cases writes
  rw [Value.literal, List.append_assoc, List.cons_append] at read ⊢
  rw [optional, bind_of_ok (peek_gap blank (by decide) _)]
  exact read

/-! ## Parts between brackets -/

theorem colon_gap (blank : Gap gap) (rest : List Char) :
    colon (gap ++ ':' :: rest) = .ok ((), rest) := by
  rw [colon, bind_of_ok (peek_gap blank (by decide) _)]
  rfl

theorem moreItems_done (first : Bool) (blank : Gap gap) (rest : List Char) :
    moreItems first (gap ++ ']' :: rest) = .ok (false, ']' :: rest) := by
  rw [moreItems, bind_of_ok (peek_gap blank (by decide) _)]
  rfl

theorem moreMembers_done (first : Bool) (blank : Gap gap) (rest : List Char) :
    moreMembers first (gap ++ '\x7d' :: rest) = .ok (false, '\x7d' :: rest) := by
  rw [moreMembers, bind_of_ok (peek_gap blank (by decide) _)]
  rfl

/-- In front of an item its comma is stepped over, if it has one, and the blanks around that. -/
theorem moreItems_of_parted {ι : Type} {writes : ι → List Char → Prop} {first : Bool} {part : ι}
    {parts : List ι} (parted : Parted writes first (part :: parts) inner)
    (opens : ∀ text, writes part text → Opens text) :
    ∃ text others, writes part text ∧ Parted writes false parts others ∧
      others.length < inner.length ∧
      ∀ rest, moreItems first (inner ++ rest) = .ok (true, text ++ (others ++ rest)) := by
  cases parted with
  | @first gap text others _ _ blank written parted =>
    obtain ⟨c, tail, rfl, solid, notEnd⟩ := opens text written
    refine ⟨_, others, written, parted, ?_, fun rest => ?_⟩
    · simp only [List.length_append, List.length_cons]
      omega
    · rw [List.append_assoc, List.append_assoc, List.cons_append, moreItems,
        bind_of_ok (peek_gap blank solid _)]
      simp only [if_true]
      rfl
  | @next before behind text others _ _ blank blankToo written parted =>
    obtain ⟨c, tail, rfl, solid, notEnd⟩ := opens text written
    refine ⟨_, others, written, parted, ?_, fun rest => ?_⟩
    · simp only [List.length_append, List.length_cons]
      omega
    · have stepped (s : List Char) : advance (',' :: s) = .ok ((), s) := rfl
      rw [List.append_assoc, List.cons_append, List.append_assoc, List.append_assoc,
        List.cons_append, moreItems, bind_of_ok (peek_gap blank (by decide) _)]
      change (advance >>= _ : Reader Bool) _ = _
      rw [bind_of_ok (stepped _), bind_of_ok (peek_gap blankToo solid _)]
      simp only
      rfl

/-- In front of a member its comma is stepped over, if it has one, and the blanks around that. -/
theorem moreMembers_of_parted {first : Bool} {key : String} {value : Value}
    {members : List (String × Value)}
    (parted : Parted (Keyed Value.Writes) first ((key, value) :: members) inner) :
    ∃ before behind spelling others, Gap before ∧ Gap behind ∧ value.Writes spelling ∧
      Parted (Keyed Value.Writes) false members others ∧ others.length < inner.length ∧
      ∀ rest, moreMembers first (inner ++ rest) =
        .ok (true, Value.literal key ++
          (before ++ ':' :: (behind ++ (spelling ++ (others ++ rest))))) := by
  cases parted with
  | @first gap _ others _ _ blank keyed parted =>
    cases keyed with
    | @mk _ _ before behind spelling blankBefore blankBehind written =>
      refine ⟨before, behind, spelling, others, blankBefore, blankBehind, written, parted, ?_,
        fun rest => ?_⟩
      · simp only [List.length_append, List.length_cons]
        omega
      · simp only [Value.literal, List.append_assoc, List.cons_append, List.nil_append]
        rw [moreMembers, bind_of_ok (peek_gap blank (by decide) _)]
        rfl
  | @next front gap _ others _ _ blank blankToo keyed parted =>
    cases keyed with
    | @mk _ _ before behind spelling blankBefore blankBehind written =>
      refine ⟨before, behind, spelling, others, blankBefore, blankBehind, written, parted, ?_,
        fun rest => ?_⟩
      · simp only [List.length_append, List.length_cons]
        omega
      · have stepped (s : List Char) : advance (',' :: s) = .ok ((), s) := rfl
        simp only [Value.literal, List.append_assoc, List.cons_append, List.nil_append]
        rw [moreMembers, bind_of_ok (peek_gap blank (by decide) _)]
        change (advance >>= _ : Reader Bool) _ = _
        rw [bind_of_ok (stepped _), bind_of_ok (peek_gap blankToo (by decide) _)]
        rfl

/-! ## Lists -/

section Lists

variable {item : Reader α} {toJson : α → Value}

/-- The items between brackets are read one after the other. -/
theorem items_of_parted {values : List α} (each : ∀ value ∈ values, Reads item (toJson value) value)
    (opens : ∀ value ∈ values, ∀ text, (toJson value).Writes text → Opens text) {first : Bool}
    (parted : Parted Value.Writes first (values.map toJson) inner) {fuel : Nat}
    (enough : inner.length < fuel) (rest : List Char) :
    items item fuel first (inner ++ ']' :: rest) = .ok (values, rest) := by
  induction values generalizing first inner fuel with
  | nil =>
    obtain _ | fuel := fuel
    · contradiction
    cases parted with
    | none blank =>
      rw [items, bind_of_ok (moreItems_done first blank rest)]
      rfl
  | cons value values ih =>
    obtain _ | fuel := fuel
    · contradiction
    obtain ⟨here, later⟩ := List.forall_mem_cons.mp each
    obtain ⟨opensHere, opensLater⟩ := List.forall_mem_cons.mp opens
    obtain ⟨text, others, written, parted, shorter, more⟩ := moreItems_of_parted parted opensHere
    have readOthers := ih later opensLater parted (by omega : others.length < fuel)
    rw [items, bind_of_ok (more _), if_pos rfl, bind_of_ok (here.at_once written _),
      bind_of_ok readOthers]
    rfl

/-- A list is read item by item. -/
theorem reads_list {values : List α} (each : ∀ value ∈ values, Reads item (toJson value) value)
    (opens : ∀ value ∈ values, ∀ text, (toJson value).Writes text → Opens text) :
    Reads (list item) (.list (values.map toJson)) values := by
  intro gap spelling blank writes rest
  cases writes with
  | @list _ inner parted =>
    have enough : inner.length < (inner ++ ']' :: rest).length + 1 := by
      simp only [List.length_append]
      omega
    have read := items_of_parted each opens parted enough rest
    simp only [List.append_assoc, List.cons_append, List.nil_append]
    rw [list, bind_of_ok (peek_gap blank (by decide) _)]
    exact read

end Lists

/-! ## Objects -/

theorem advance_literal (key : String) (rest : List Char) :
    advance (Value.literal key ++ rest) =
      .ok ((), key.toList.flatMap Value.escaped ++ '"' :: rest) := by
  simp [advance, Value.literal]

section Entries

variable {item : Reader α} {toJson : α → Value}

/-- The members between braces are read one after the other. -/
theorem members_of_parted {entries : List (String × α)}
    (each : ∀ entry ∈ entries, Reads item (toJson entry.2) entry.2) {first : Bool}
    (parted : Parted (Keyed Value.Writes) first
      (entries.map fun entry => (entry.1, toJson entry.2)) inner) {fuel : Nat}
    (enough : inner.length < fuel) (rest : List Char) :
    members item fuel first (inner ++ '\x7d' :: rest) = .ok (entries, rest) := by
  induction entries generalizing first inner fuel with
  | nil =>
    obtain _ | fuel := fuel
    · contradiction
    cases parted with
    | none blank =>
      rw [members, bind_of_ok (moreMembers_done first blank rest)]
      rfl
  | cons entry entries ih =>
    obtain _ | fuel := fuel
    · contradiction
    obtain ⟨here, later⟩ := List.forall_mem_cons.mp each
    obtain ⟨before, behind, text, others, blank, blankToo, written, parted, shorter, more⟩ :=
      moreMembers_of_parted parted
    have readOthers := ih later parted (by omega : others.length < fuel)
    rw [members, bind_of_ok (more _), if_pos rfl, bind_of_ok (advance_literal _ _),
      bind_of_ok (literal_append _ _), bind_of_ok (colon_gap blank _),
      bind_of_ok (here blankToo written _), bind_of_ok readOthers]
    rfl

/-- An object of any keys is read member by member. -/
theorem reads_entries {values : List (String × α)}
    (each : ∀ entry ∈ values, Reads item (toJson entry.2) entry.2) :
    Reads (entries item) (.object (values.map fun entry => (entry.1, toJson entry.2))) values := by
  intro gap spelling blank writes rest
  cases writes with
  | @object _ inner parted =>
    have enough : inner.length < (inner ++ '\x7d' :: rest).length + 1 := by
      simp only [List.length_append]
      omega
    have read := members_of_parted each parted enough rest
    simp only [List.append_assoc, List.cons_append, List.nil_append]
    rw [entries, bind_of_ok (peek_gap blank (by decide) _)]
    exact read

end Entries

/-! ## Records -/

/-- Members fill a record in the order of its fields. Fields that need not be given may be left
out. -/
inductive Fills : List (RecordField σ) → List (String × Value) → σ → σ → Prop
  | done {record : σ} : Fills [] [] record record
  | put {field : RecordField σ} {fields : List (RecordField σ)} {value : Value}
      {members : List (String × Value)} {record filled final : σ} :
      Reads (field.read record) value filled → Fills fields members filled final →
      Fills (field :: fields) ((field.key, value) :: members) record final
  | leave {field : RecordField σ} {fields : List (RecordField σ)}
      {members : List (String × Value)} {record final : σ} :
      field.required = false → Fills fields members record final →
      Fills (field :: fields) members record final

/-- Reading has passed the `earlier` fields of a record, `fields` are still to come, and the `given`
names are those of the earlier fields, at least of the needed ones. -/
structure Reached (all earlier fields : List (RecordField σ)) (given : List String) : Prop where
  split : all = earlier ++ fields
  given_earlier : ∀ key ∈ given, key ∈ earlier.map RecordField.key
  needed : ∀ field ∈ earlier, field.required = true → field.key ∈ given

namespace Reached

variable {all earlier fields : List (RecordField σ)} {field : RecordField σ} {given : List String}

theorem start (all : List (RecordField σ)) : Reached all [] all [] where
  split := (List.nil_append all).symm
  given_earlier := List.forall_mem_nil _
  needed := List.forall_mem_nil _

theorem put (reached : Reached all earlier (field :: fields) given) :
    Reached all (earlier ++ [field]) fields (field.key :: given) where
  split := by rw [reached.split, List.append_cons]
  given_earlier := by
    intro key inside
    rw [List.map_append, List.mem_append]
    rcases List.mem_cons.mp inside with rfl | inside
    · exact .inr List.mem_cons_self
    · exact .inl (reached.given_earlier key inside)
  needed := by
    intro other inside required
    rcases List.mem_append.mp inside with inside | last
    · exact List.mem_cons_of_mem _ (reached.needed other inside required)
    · rw [List.mem_singleton.mp last]
      exact List.mem_cons_self

theorem leave (reached : Reached all earlier (field :: fields) given)
    (optional : field.required = false) : Reached all (earlier ++ [field]) fields given where
  split := by rw [reached.split, List.append_cons]
  given_earlier := by
    intro key inside
    rw [List.map_append, List.mem_append]
    exact .inl (reached.given_earlier key inside)
  needed := by
    intro other inside required
    rcases List.mem_append.mp inside with inside | last
    · exact reached.needed other inside required
    · rw [List.mem_singleton.mp last, optional] at required
      contradiction

theorem find?_eq (reached : Reached all earlier (field :: fields) given)
    (distinct : (all.map RecordField.key).Nodup) :
    all.find? (·.key = field.key) = some field := by
  rw [find?_key_eq_some_iff distinct, reached.split]
  exact ⟨List.mem_append_right _ List.mem_cons_self, rfl⟩

theorem not_given (reached : Reached all earlier (field :: fields) given)
    (distinct : (all.map RecordField.key).Nodup) : given.contains field.key = false := by
  rw [List.contains_eq_mem, decide_eq_false_iff_not]
  intro twice
  rw [reached.split, List.map_append, List.map_cons] at distinct
  exact List.disjoint_of_nodup_append distinct (reached.given_earlier _ twice) List.mem_cons_self

theorem complete_eq (reached : Reached all earlier [] given) (record : σ) (s : List Char) :
    complete all given record s = .ok (record, s) := by
  have nothingMissed :
      (all.all fun field => !field.required || given.contains field.key) = true := by
    rw [reached.split, List.append_nil, List.all_eq_true]
    intro field inside
    rw [Bool.or_eq_true, Bool.not_eq_true', List.contains_iff_mem]
    cases required : field.required with
    | false => exact .inl rfl
    | true => exact .inr (reached.needed field inside required)
  rw [complete, if_pos nothingMissed]
  rfl

end Reached

/-- The members between braces fill a record one after the other. -/
theorem recordMembers_of_parted {all fields earlier : List (RecordField σ)}
    (distinct : (all.map RecordField.key).Nodup) {members : List (String × Value)}
    {record final : σ} (fills : Fills fields members record final) {given : List String}
    (reached : Reached all earlier fields given) {first : Bool}
    (parted : Parted (Keyed Value.Writes) first members inner) {fuel : Nat}
    (enough : inner.length < fuel) (rest : List Char) :
    recordMembers all fuel first given record (inner ++ '\x7d' :: rest) = .ok (final, rest) := by
  induction fills generalizing earlier given first inner fuel with
  | @done record =>
    obtain _ | fuel := fuel
    · contradiction
    cases parted with
    | none blank =>
      rw [recordMembers, bind_of_ok (moreMembers_done first blank rest), if_neg Bool.false_ne_true,
        bind_of_ok (reached.complete_eq _ _)]
      rfl
  | @put field fields value members record filled final reads fills ih =>
    obtain _ | fuel := fuel
    · contradiction
    obtain ⟨before, behind, text, others, blank, blankToo, written, parted, shorter, more⟩ :=
      moreMembers_of_parted parted
    have readOthers := ih reached.put parted (by omega : others.length < fuel)
    rw [recordMembers, bind_of_ok (more _), if_pos rfl, bind_of_ok (advance_literal _ _),
      bind_of_ok (literal_append _ _), reached.find?_eq distinct]
    simp only [reached.not_given distinct]
    rw [if_neg Bool.false_ne_true, bind_of_ok (colon_gap blank _),
      bind_of_ok (reads blankToo written _)]
    exact readOthers
  | leave optional _ ih => exact ih (reached.leave optional) parted enough

/-- A record is read from members that fill it in the order of its fields. -/
theorem reads_record {fields : List (RecordField σ)} {default final : σ}
    {members : List (String × Value)} (distinct : (fields.map RecordField.key).Nodup)
    (fills : Fills fields members default final) :
    Reads (record fields default) (.object members) final := by
  intro gap spelling blank writes rest
  cases writes with
  | @object _ inner parted =>
    have enough : inner.length < (inner ++ '\x7d' :: rest).length + 1 := by
      simp only [List.length_append]
      omega
    have read := recordMembers_of_parted distinct fills (.start fields) parted enough rest
    simp only [List.append_assoc, List.cons_append, List.nil_append]
    rw [record, bind_of_ok (peek_gap blank (by decide) _)]
    exact read

/-! ## Whole documents -/

/-- A document that holds a text of the value and blanks around it is read for the result. -/
theorem document_of_reads {reader : Reader α} {written : Value} (reads : Reads reader written value)
    {before behind : List Char} (blank : Gap before) (writes : written.Writes spelling)
    (blankToo : Gap behind) : document reader (before ++ (spelling ++ behind)) = .ok value := by
  have nothingLeft : (behind.dropWhile isSpace).isEmpty = true := by
    rw [List.isEmpty_iff, List.dropWhile_eq_nil_iff]
    exact blankToo
  rw [document, reads blank writes behind]
  simp only [nothingLeft, if_true]

end Reader

end Bindery.Json
