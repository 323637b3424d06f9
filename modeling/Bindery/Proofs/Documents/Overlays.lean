import Mathlib.Data.List.Basic
import Bindery.Classification
import Bindery.Proofs.Keys
import Bindery.TypeMap

/-! # Documents laid over each other

Dictionaries and classifications are made of tables, and a document that is merged into another is
laid over it table by table. What comes out depends on the documents and their order alone: each key
has the value of the last document that has the key, and keys stand in the order of their first
appearance (`Table.IsOverlay`). Main statement: this holds of dictionaries and of classifications in
whichever grouping they are merged, and a name and a return type then have what the last document
answer about them (`merges_are_overlays`).
-/

namespace Bindery

/-! ## First appearances -/

section Appearances

variable {κ : Type} [BEq κ] [LawfulBEq κ]

theorem eraseDups_of_nodup {keys : List κ} (distinct : keys.Nodup) : keys.eraseDups = keys := by
  induction keys with
  | nil => rfl
  | cons key rest ih =>
    obtain ⟨fresh, later⟩ := List.nodup_cons.mp distinct
    have others : rest.filter (fun other => !other == key) = rest :=
      List.filter_eq_self.mpr fun other member => by simpa using ne_of_mem_of_not_mem member fresh
    rw [List.eraseDups_cons, others, ih later]

/-- Keys of a kind appear in the same order as among all keys. -/
theorem filter_eraseDups (kind : κ → Bool) (keys : List κ) :
    keys.eraseDups.filter kind = (keys.filter kind).eraseDups := by
  cases keys with
  | nil => rfl
  | cons key rest =>
    have later := filter_eraseDups kind (rest.filter fun other => !other == key)
    rw [List.filter_filter] at later
    rw [List.eraseDups_cons]
    by_cases here : kind key = true
    · rw [List.filter_cons_of_pos here, List.filter_cons_of_pos here, List.eraseDups_cons, later,
        List.filter_filter]
      simp only [Bool.and_comm]
    · have others : rest.filter (fun other => kind other && !other == key) = rest.filter kind := by
        refine List.filter_congr fun other _ => ?_
        by_cases same : other = key
        · simp [same, here]
        · simp [same]
      rw [List.filter_cons_of_neg here, List.filter_cons_of_neg here, later, others]
termination_by keys.length
decreasing_by
  have := List.length_filter_le (fun other => !other == key) rest
  simp only [List.length_cons]
  omega

end Appearances

/-- What the last of the documents that has an answer has. -/
def lastSaid {α β : Type} (answer : α → Option β) (documents : List α) : Option β :=
  documents.reverse.findSome? answer

/-! ## Tables -/

namespace Table

variable {α : Type} {table base other : Table α} {layers above : List (Table α)} {key : String}

/-- The keys of a table, in order. -/
def keys (table : Table α) : List String := table.entries.map Prod.fst

theorem nodup_keys (table : Table α) : table.keys.Nodup := table.distinct

theorem lookup_eq_none_of_not_mem {entries : List (String × α)}
    (missing : key ∉ entries.map Prod.fst) : entries.lookup key = none := by
  refine List.lookup_eq_none_iff.mpr fun entry member => ?_
  simpa using ne_of_mem_of_not_mem (List.mem_map_of_mem (f := Prod.fst) member) missing |>.symm

/-- A table with no key twice is made again from its keys and their values. -/
theorem filterMap_lookup {entries : List (String × α)} (distinct : (entries.map Prod.fst).Nodup) :
    (entries.map Prod.fst).filterMap
      (fun key => (entries.lookup key).map fun held => (key, held)) = entries := by
  induction entries with
  | nil => rfl
  | cons entry rest ih =>
    obtain ⟨key, value⟩ := entry
    obtain ⟨fresh, later⟩ := List.nodup_cons.mp distinct
    have others : (rest.map Prod.fst).filterMap
          (fun other => (List.lookup other ((key, value) :: rest)).map fun held => (other, held)) =
        (rest.map Prod.fst).filterMap fun other =>
          (rest.lookup other).map fun held => (other, held) := by
      refine List.filterMap_congr fun other member => ?_
      have differs : (other == key) = false := by simpa using ne_of_mem_of_not_mem member fresh
      rw [List.lookup_cons, differs]
    rw [List.map_cons, List.filterMap_cons, List.lookup_cons_self, Option.map_some, others,
      ih later]

/-- Tables with the same keys in the same order and the same values are the same. -/
theorem eq_of_keys (order : base.keys = other.keys)
    (values : ∀ key, base.get? key = other.get? key) : base = other := by
  refine eq_of_entries ?_
  have looked (key : String) : base.entries.lookup key = other.entries.lookup key := values key
  rw [← filterMap_lookup base.distinct, ← filterMap_lookup other.distinct]
  simp only [looked]
  exact congrArg (List.filterMap _) order

/-- Pairs with new keys come in behind the entries. -/
theorem keys_insertAll {pairs : List (String × α)} (distinct : (pairs.map Prod.fst).Nodup) :
    (table.insertAll pairs).keys =
      table.keys ++ (pairs.map Prod.fst).filter (fun key => !table.keys.contains key) := by
  induction pairs generalizing table with
  | nil => simp [insertAll]
  | cons pair rest ih =>
    obtain ⟨fresh, later⟩ := List.nodup_cons.mp distinct
    have inserted : (table.insert pair.1 pair.2).keys =
        if pair.1 ∈ table.keys then table.keys else table.keys ++ [pair.1] :=
      keys_putEntry pair.1 pair.2 table.entries
    have step : (table.insertAll (pair :: rest)).keys =
        ((table.insert pair.1 pair.2).insertAll rest).keys := rfl
    rw [step, ih later, inserted, List.map_cons]
    by_cases known : pair.1 ∈ table.keys
    · rw [if_pos known, List.filter_cons_of_neg (by simpa using known)]
    · have others : (rest.map Prod.fst).filter
            (fun key => !(table.keys ++ [pair.1]).contains key) =
          (rest.map Prod.fst).filter fun key => !table.keys.contains key := by
        refine List.filter_congr fun key member => ?_
        have differs : key ≠ pair.1 := ne_of_mem_of_not_mem member fresh
        simp [differs]
      rw [if_neg known, List.filter_cons_of_pos (by simpa using known), others,
        List.append_assoc, List.singleton_append]

/-- The pairs that are put in come before the entries. -/
theorem get?_insertAll {pairs : List (String × α)} (distinct : (pairs.map Prod.fst).Nodup)
    (key : String) :
    (table.insertAll pairs).get? key = (pairs.lookup key).or (table.get? key) := by
  induction pairs generalizing table with
  | nil => rfl
  | cons pair rest ih =>
    obtain ⟨fresh, later⟩ := List.nodup_cons.mp distinct
    have step : (table.insertAll (pair :: rest)).get? key =
        ((table.insert pair.1 pair.2).insertAll rest).get? key := rfl
    rw [step, ih later, get?_insert, List.lookup_cons]
    by_cases same : key = pair.1
    · subst same
      simp [lookup_eq_none_of_not_mem fresh]
    · have differs : (key == pair.1) = false := by simpa using same
      rw [if_neg same, differs]

theorem keys_merge (base other : Table α) :
    (base.merge other).keys = base.keys ++ other.keys.filter (fun key => !base.keys.contains key) :=
  keys_insertAll other.distinct

theorem get?_merge (base other : Table α) (key : String) :
    (base.merge other).get? key = (other.get? key).or (base.get? key) :=
  get?_insertAll other.distinct key

/-- A table that has been laid over another leaves no trace when it is laid over it again. -/
theorem merge_twice (base other : Table α) :
    (base.merge other).merge other = base.merge other := by
  refine eq_of_keys ?_ fun key => ?_
  · have none : other.keys.filter (fun key => !(base.merge other).keys.contains key) = [] := by
      refine List.filter_eq_nil_iff.mpr fun key member => ?_
      by_cases known : key ∈ base.keys <;> simp [keys_merge, known, member]
    rw [keys_merge (base.merge other), none, List.append_nil]
  · rw [get?_merge (base.merge other), get?_merge]
    cases other.get? key <;> rfl

/-- A table that holds what layers of tables do: their keys in the order of their first appearance,
and for each key the value of the last layer that has it. -/
structure IsOverlay (table : Table α) (layers : List (Table α)) : Prop where
  order : table.keys = (layers.flatMap keys).eraseDups
  values : ∀ key, table.get? key = lastSaid (·.get? key) layers

namespace IsOverlay

theorem single (table : Table α) : table.IsOverlay [table] where
  order := by rw [List.flatMap_singleton, eraseDups_of_nodup table.nodup_keys]
  values key := by simp [lastSaid]

theorem merge (below : base.IsOverlay layers) (top : other.IsOverlay above) :
    (base.merge other).IsOverlay (layers ++ above) where
  order := by
    have known (key : String) : base.keys.contains key = (layers.flatMap keys).contains key := by
      rw [below.order, Bool.eq_iff_iff]
      simp only [List.contains_iff_mem, List.mem_eraseDups]
    calc
      (base.merge other).keys
          = base.keys ++ other.keys.filter (fun key => !base.keys.contains key) :=
        keys_merge base other
      _ = (layers.flatMap keys).eraseDups ++ ((above.flatMap keys).filter
            fun key => !(layers.flatMap keys).contains key).eraseDups := by
        simp only [known]
        rw [below.order, top.order, filter_eraseDups]
      _ = ((layers ++ above).flatMap keys).eraseDups := by
        rw [List.flatMap_append, List.eraseDups_append]
        rfl
  values key := by
    rw [get?_merge, below.values, top.values, lastSaid, lastSaid, lastSaid, List.reverse_append,
      List.findSome?_append]

theorem unique (first : base.IsOverlay layers) (second : other.IsOverlay layers) : base = other :=
  eq_of_keys (first.order.trans second.order.symm)
    fun key => (first.values key).trans (second.values key).symm

end IsOverlay

end Table

/-! ## Groupings -/

/-- A way to merge documents that stand in a row, two neighbours at a time. -/
inductive Grouping (α : Type) where
  | single (document : α)
  | pair (below above : Grouping α)

namespace Grouping

variable {α : Type}

/-- The documents in a row. -/
def documents : Grouping α → List α
  | single document => [document]
  | pair below above => below.documents ++ above.documents

/-- What they are merged into. -/
def result (merge : α → α → α) : Grouping α → α
  | single document => document
  | pair below above => merge (below.result merge) (above.result merge)

end Grouping

/-- Merging is laying over, where what comes out is known from the documents in order. -/
structure Layering {α : Type} (merge : α → α → α) (IsOverlay : α → List α → Prop) :
    Prop where
  single : ∀ document, IsOverlay document [document]
  laid : ∀ {below above layers others}, IsOverlay below layers → IsOverlay above others →
    IsOverlay (merge below above) (layers ++ others)
  unique : ∀ {first second layers}, IsOverlay first layers → IsOverlay second layers →
    first = second
  twice : ∀ base other, merge (merge base other) other = merge base other

/-- What is asked of merging: every grouping of documents comes to merging them one after the other
onto the base, a document merged twice in a row counts once, and what comes out is known from the
documents in order. -/
structure MergesOver {α : Type} (merge : α → α → α) (IsOverlay : α → List α → Prop) :
    Prop where
  grouped : ∀ (grouping : Grouping α) base documents, grouping.documents = base :: documents →
    grouping.result merge = documents.foldl merge base
  twice : ∀ base document, merge (merge base document) document = merge base document
  overlay : ∀ base documents, IsOverlay (documents.foldl merge base) (base :: documents)

namespace Layering

variable {α : Type} {merge : α → α → α} {IsOverlay : α → List α → Prop}
variable (layering : Layering merge IsOverlay)
include layering

theorem result (grouping : Grouping α) :
    IsOverlay (grouping.result merge) grouping.documents := by
  induction grouping with
  | single document => exact layering.single document
  | pair below above low high => exact layering.laid low high

theorem foldl {base : α} {layers : List α} (below : IsOverlay base layers) (documents : List α) :
    IsOverlay (documents.foldl merge base) (layers ++ documents) := by
  induction documents generalizing base layers with
  | nil => rwa [List.append_nil]
  | cons document rest ih =>
    rw [List.append_cons]
    exact ih (layering.laid below (layering.single document))

theorem mergesOver : MergesOver merge IsOverlay where
  grouped grouping base documents same := by
    have overlay := layering.result grouping
    rw [same] at overlay
    exact layering.unique overlay (layering.foldl (layering.single base) documents)
  twice := layering.twice
  overlay base := layering.foldl (layering.single base)

end Layering

/-! ## Dictionaries and classifications -/

/-- A dictionary that holds table by table what layers of dictionaries do. -/
structure Dictionary.IsOverlay (dictionary : Dictionary) (layers : List Dictionary) : Prop where
  concrete : dictionary.concrete.IsOverlay (layers.map Dictionary.concrete)
  enums : dictionary.enums.IsOverlay (layers.map Dictionary.enums)
  platformReturns : dictionary.platformReturns.IsOverlay (layers.map Dictionary.platformReturns)

/-- A classification that holds what layers of classifications do. -/
def Classification.IsOverlay (schema : Classification) (layers : List Classification) : Prop :=
  schema.classes.IsOverlay (layers.map Classification.classes)

theorem Dictionary.layering : Layering Dictionary.merge Dictionary.IsOverlay where
  single document := ⟨.single _, .single _, .single _⟩
  laid low high := by
    constructor
    all_goals rw [List.map_append]
    · exact low.concrete.merge high.concrete
    · exact low.enums.merge high.enums
    · exact low.platformReturns.merge high.platformReturns
  unique {first second _} one two := by
    cases first
    cases second
    congr
    · exact one.concrete.unique two.concrete
    · exact one.enums.unique two.enums
    · exact one.platformReturns.unique two.platformReturns
  twice base other := by
    simp only [Dictionary.merge, Table.merge_twice]

theorem Classification.layering : Layering Classification.merge Classification.IsOverlay where
  single document := Table.IsOverlay.single document.classes
  laid low high := by
    rw [IsOverlay, List.map_append]
    exact Table.IsOverlay.merge low high
  unique {first second _} one two := by
    cases first
    cases second
    congr
    exact Table.IsOverlay.unique one two
  twice base other := by
    simp only [Classification.merge, Table.merge_twice]

theorem lastSaid_map {α β γ : Type} (part : α → β) (answer : β → Option γ) (documents : List α) :
    lastSaid answer (documents.map part) =
      lastSaid (fun document => answer (part document)) documents := by
  rw [lastSaid, ← List.map_reverse, List.findSome?_map]
  rfl

namespace Dictionary.IsOverlay

variable {dictionary : Dictionary} {layers : List Dictionary}
variable (overlay : dictionary.IsOverlay layers)
include overlay

/-- A name that reading leaves as it is has the last target that a layer has among its plain types,
else the last among its enumerations, else that of the struct, else itself. -/
theorem map_eq (structs : Table String) {name : String}
    (bare : Spelling.ofText name = ⟨name.toList, 0⟩) :
    (TypeMap.mk dictionary structs).map name =
      ((lastSaid (·.concrete.get? name) layers).or
        ((lastSaid (·.enums.get? name) layers).or (structs.get? name))).getD name := by
  have itself : (Spelling.mk name.toList 0).name = name := String.ofList_toList
  simp only [TypeMap.map, bare, itself, TypeMap.lookup?, overlay.concrete.values,
    overlay.enums.values, lastSaid_map, List.replicate_zero, String.ofList_nil, String.append_empty]

/-- A return type has the endings that the last layer which lists it gives, if there are any. -/
theorem variants_eq (structs : Table String) (targetReturn : String) :
    (TypeMap.mk dictionary structs).variants targetReturn =
      ((lastSaid (·.platformReturns.get? targetReturn) layers).filter (· ≠ [])).getD [""] := by
  simp only [TypeMap.variants, overlay.platformReturns.values, lastSaid_map]
  cases lastSaid (·.platformReturns.get? targetReturn) layers with
  | none => rfl
  | some endings => cases endings <;> rfl

end Dictionary.IsOverlay

/-- Merging dictionaries or classifications in any grouping lays each document over those before it.
So a name that reading leaves as it is has the target that the last document gives it as a plain
type, else the last one as an enumeration, else that of the registered struct; and a return type has
the endings that the last document which lists it gives, or one empty ending. -/
theorem merges_are_overlays :
    MergesOver Dictionary.merge Dictionary.IsOverlay ∧
      MergesOver Classification.merge Classification.IsOverlay ∧
      (∀ (base : Dictionary) (documents : List Dictionary) (structs : Table String)
        (name : String),
        Spelling.ofText name = ⟨name.toList, 0⟩ →
        (TypeMap.mk (documents.foldl Dictionary.merge base) structs).map name =
          ((lastSaid (·.concrete.get? name) (base :: documents)).or
            ((lastSaid (·.enums.get? name) (base :: documents)).or (structs.get? name))).getD
              name) ∧
      ∀ (base : Dictionary) (documents : List Dictionary) (structs : Table String)
        (targetReturn : String),
        (TypeMap.mk (documents.foldl Dictionary.merge base) structs).variants targetReturn =
          ((lastSaid (·.platformReturns.get? targetReturn) (base :: documents)).filter
            (· ≠ [])).getD [""] := by
  have dictionaries := Dictionary.layering.mergesOver
  refine ⟨dictionaries, Classification.layering.mergesOver, ?_, ?_⟩
  · intro base documents structs name bare
    exact (dictionaries.overlay base documents).map_eq structs bare
  · intro base documents structs targetReturn
    exact (dictionaries.overlay base documents).variants_eq structs targetReturn

/-- An enumeration, and a return type in two variants. -/
def stateListed : Dictionary :=
  ⟨∅, Table.ofList [("state", "State")], Table.ofList [("int", ["_win", "_mac"])]⟩

/-- A new target for the enumeration, as a plain type. -/
def stateReplaced : Dictionary := ⟨Table.ofList [("state", "Status")], ∅, ∅⟩

/-- A new target for the enumeration, as such, and no more variants. -/
def stateRenamed : Dictionary :=
  ⟨∅, Table.ofList [("state", "NewState")], Table.ofList [("int", [])]⟩

theorem merges_are_overlays_state :
    (Grouping.pair (.single stateListed) (.pair (.single stateReplaced)
        (.single stateRenamed))).documents = [stateListed, stateReplaced, stateRenamed] ∧
      (Grouping.pair (.single stateListed) (.pair (.single stateReplaced)
        (.single stateRenamed))).result Dictionary.merge =
          [stateReplaced, stateRenamed].foldl Dictionary.merge stateListed ∧
      Spelling.ofText "state" = ⟨"state".toList, 0⟩ ∧
      (TypeMap.mk ([stateReplaced, stateRenamed].foldl Dictionary.merge stateListed) ∅).map
        "state" = "Status" ∧
      (TypeMap.mk ([stateReplaced, stateRenamed].foldl Dictionary.merge stateListed) ∅).variants
        "int" = [""] := by
  obtain ⟨dictionaries, _, mapped, ended⟩ := merges_are_overlays
  have bare : Spelling.ofText "state" = ⟨"state".toList, 0⟩ := by decide +kernel
  refine ⟨rfl, dictionaries.grouped _ stateListed [stateReplaced, stateRenamed] rfl, bare, ?_, ?_⟩
  · exact (mapped stateListed [stateReplaced, stateRenamed] ∅ "state" bare).trans (by decide)
  · exact (ended stateListed [stateReplaced, stateRenamed] ∅ "int").trans (by decide)

end Bindery
