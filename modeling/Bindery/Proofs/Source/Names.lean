import Mathlib.Logic.Function.Basic
import Bindery.Code
import Bindery.Source.FlatMember

/-! # Names in generated code

What generated code says of the members of a flat struct is read off the code that comes out when
the members get other names. Code that depends on the names of some members only, and that has a
line of some shape for each of them under all names, has lines of that shape for these members and
no others (`shows_iff`).
-/

namespace Bindery

namespace Code

/-- Whether code has a line, by itself or as the heading of a block. -/
def Writes (code : Code) (line : String) : Prop := .line line ∈ code ∨ .enter line ∈ code

variable {line : String}

theorem writes_of_mem {code : Code} (member : .line line ∈ code) : code.Writes line := .inl member

@[simp]
theorem not_writes_nil : ¬Writes [] line := by
  rintro (member | member) <;> cases member

@[simp]
theorem writes_cons_line {text : String} {rest : Code} :
    Writes (.line text :: rest) line ↔ line = text ∨ Writes rest line := by
  simp only [Writes, List.mem_cons, Directive.line.injEq, reduceCtorEq, false_or, or_assoc]

@[simp]
theorem writes_cons_blank {rest : Code} : Writes (.blank :: rest) line ↔ Writes rest line := by
  simp only [Writes, List.mem_cons, reduceCtorEq, false_or]

@[simp]
theorem writes_cons_banner {rest : Code} : Writes (.banner :: rest) line ↔ Writes rest line := by
  simp only [Writes, List.mem_cons, reduceCtorEq, false_or]

@[simp]
theorem writes_append {first second : Code} :
    Writes (first ++ second) line ↔ first.Writes line ∨ second.Writes line := by
  simp only [Writes, List.mem_append, or_or_or_comm]

@[simp]
theorem writes_block {heading : String} {body : Code} :
    (block heading body).Writes line ↔ line = heading ∨ body.Writes line := by
  simp only [block, Writes, List.cons_append, List.mem_cons, List.mem_append, reduceCtorEq,
    Directive.enter.injEq, List.not_mem_nil, or_false, false_or, or_left_comm]

@[simp]
theorem writes_spacedBlock {heading : String} {body : Code} :
    (spacedBlock heading body).Writes line ↔ line = heading ∨ body.Writes line := by
  simp only [spacedBlock, writes_append, writes_block, writes_cons_blank, not_writes_nil, or_false]

@[simp]
theorem writes_concat {parts : List Code} :
    (concat parts).Writes line ↔ ∃ part ∈ parts, part.Writes line := by
  simp only [concat, Writes, List.mem_flatten, and_or_left, exists_or]

@[simp]
theorem writes_flatMap {α : Type} {items : List α} {part : α → Code} :
    Writes (items.flatMap part) line ↔ ∃ item ∈ items, (part item).Writes line := by
  simp only [Writes, List.mem_flatMap, and_or_left, exists_or]

@[simp]
theorem writes_sourceFile {name : String} {body : Code} :
    (sourceFile name body).Writes line ↔ line = s!"namespace {name}" ∨ body.Writes line := by
  simp only [sourceFile, writes_cons_banner, writes_block]

/-- A line of code stands among the pieces of the text, at some depth. -/
theorem exists_lineText_mem_pieces {code : Code} (written : code.Writes line)
    (indent depth : Nat) : ∃ inner, lineText indent inner line ∈ pieces indent depth code := by
  induction code generalizing depth with
  | nil => exact absurd written not_writes_nil
  | cons directive rest ih =>
    have later : Writes rest line → ∃ inner, lineText indent inner line ∈
        pieces indent depth (directive :: rest) := by
      intro after
      cases directive with
      | enter heading =>
        obtain ⟨inner, found⟩ := ih after (depth + 1)
        exact ⟨inner, List.mem_cons_of_mem _ (List.mem_cons_of_mem _ found)⟩
      | leave =>
        obtain ⟨inner, found⟩ := ih after (depth - 1)
        exact ⟨inner, List.mem_cons_of_mem _ found⟩
      | line | blank | banner =>
        obtain ⟨inner, found⟩ := ih after depth
        exact ⟨inner, List.mem_cons_of_mem _ found⟩
    rcases written with member | member
    · rcases List.mem_cons.mp member with rfl | inRest
      · exact ⟨depth, List.mem_cons_self⟩
      · exact later (.inl inRest)
    · rcases List.mem_cons.mp member with rfl | inRest
      · exact ⟨depth, List.mem_cons_self⟩
      · exact later (.inr inRest)

theorem exists_lineText_eq (indent depth : Nat) (line : String) :
    ∃ columns, lineText indent depth line = columns ++ line ++ "\n" := by
  unfold lineText
  split
  · next blank =>
    obtain rfl := String.isEmpty_iff.mp blank
    exact ⟨"", rfl⟩
  · exact ⟨_, rfl⟩

/-- Every piece of a text ends a line. -/
theorem exists_eq_of_mem_pieces {code : Code} {indent depth : Nat} {piece : String}
    (member : piece ∈ pieces indent depth code) : ∃ text, piece = text ++ "\n" := by
  have aligned (inner : Nat) (line : String) :
      ∃ text, lineText indent inner line = text ++ "\n" := by
    obtain ⟨columns, same⟩ := exists_lineText_eq indent inner line
    exact ⟨columns ++ line, same⟩
  induction depth, code using pieces.induct with
  | case1 depth =>
    -- The blocks that are still open are closed, each on a line of its own.
    simp only [pieces] at member
    induction depth with
    | zero => cases member
    | succ depth ih =>
      rcases List.mem_cons.mp member with rfl | inner
      · exact aligned depth closeBrace
      · exact ih inner
  | case2 depth line rest ih =>
    rcases List.mem_cons.mp member with rfl | later
    · exact aligned depth line
    · exact ih later
  | case3 depth rest ih =>
    rcases List.mem_cons.mp member with rfl | later
    · exact ⟨"", rfl⟩
    · exact ih later
  | case4 depth rest ih =>
    rcases List.mem_cons.mp member with rfl | later
    · exact ⟨"//\n// DO NOT MODIFY! THIS IS AUTOGENERATED FILE!\n//", by decide⟩
    · exact ih later
  | case5 depth heading rest ih =>
    rcases List.mem_cons.mp member with rfl | later
    · exact aligned depth heading
    · rcases List.mem_cons.mp later with rfl | inside
      · exact aligned depth openBrace
      · exact ih inside
  | case6 depth rest ih =>
    rcases List.mem_cons.mp member with rfl | later
    · exact aligned (depth - 1) closeBrace
    · exact ih later

/-- What stands on one line of a text stands in one of its pieces. -/
theorem exists_mem_pieces_of_infix {code : Code} {phrase : List Char} (onLine : '\n' ∉ phrase)
    (nonempty : phrase ≠ []) (inside : phrase <:+: code.text.toList) :
    ∃ piece ∈ pieces 4 0 code, phrase <:+: piece.toList := by
  have ends : ∀ piece ∈ pieces 4 0 code, ∃ text, piece = text ++ "\n" :=
    fun piece member => exists_eq_of_mem_pieces member
  rw [text, textWith] at inside
  generalize pieces 4 0 code = all at ends inside ⊢
  induction all with
  | nil => exact absurd (List.eq_nil_of_infix_nil inside) nonempty
  | cons piece rest ih =>
    obtain ⟨here, later⟩ := List.forall_mem_cons.mp ends
    rw [String.join_cons, String.toList_append, List.infix_append_iff_ne_nil] at inside
    rcases inside with inPiece | inRest | ⟨first, second, begins, _, rfl, closes, _⟩
    · exact ⟨piece, List.mem_cons_self, inPiece⟩
    · obtain ⟨found, member, within⟩ := ih later inRest
      exact ⟨found, List.mem_cons_of_mem piece member, within⟩
    -- a phrase that goes on into the next piece has the end of the line in it
    · obtain ⟨text, rfl⟩ := here
      obtain ⟨earlier, together⟩ := closes
      have same := congrArg List.getLast? together
      rw [List.getLast?_append, String.toList_append] at same
      cases last : first.getLast? with
      | none => exact absurd (List.getLast?_eq_none_iff.mp last) begins
      | some c =>
        rw [last, Option.some_or] at same
        obtain rfl : c = '\n' := Option.some.inj (same.trans List.getLast?_concat)
        exact absurd (List.mem_append_left second (List.mem_of_getLast? last)) onLine

/-- The text of code has each line of the code, up to the end of the line. -/
theorem Writes.text_eq {code : Code} (written : code.Writes line) :
    ∃ before after, code.text = before ++ line ++ "\n" ++ after := by
  obtain ⟨inner, found⟩ := exists_lineText_mem_pieces written 4 0
  obtain ⟨earlier, later, split⟩ := List.append_of_mem found
  obtain ⟨columns, aligned⟩ := exists_lineText_eq 4 inner line
  refine ⟨String.join earlier ++ columns, String.join later, ?_⟩
  rw [text, textWith, split, String.join_append, String.join_cons, aligned]
  simp only [String.append_assoc]

end Code

/-- A shape that the lines for a member may have, given the name of the member. -/
abbrev LineShape := FlatMember → (name line : String) → Prop

/-- Whether the text of code has a line of a shape for a member with a name. -/
def Code.HasLine (code : Code) (shape : LineShape) (member : FlatMember) (name : String) : Prop :=
  ∃ before line after, code.text = before ++ line ++ "\n" ++ after ∧ shape member name line

/-- Whatever the members of the flat struct are called, the text of the code has a line of a shape
for the name of a member. -/
def Shows (shape : LineShape) (code : MemberNames → Code) (member : FlatMember) : Prop :=
  ∀ names, (code names).HasLine shape member (names member)

/-- Code that depends on the names of the members in a set only. -/
def DependsOn (code : MemberNames → Code) (members : FlatMember → Prop) : Prop :=
  ∀ names renamed : MemberNames, (∀ member, members member → names member = renamed member) →
    code names = code renamed

/-- Lines of a shape are not shorter than the name that they are for. -/
def LineShape.HoldsName (shape : LineShape) : Prop :=
  ∀ member name line, shape member name line → name.length ≤ line.length

variable {shape : LineShape} {code : MemberNames → Code} {members : FlatMember → Prop}

theorem shows_of_writes {member : FlatMember}
    (written : ∀ names, ∃ line, (code names).Writes line ∧ shape member (names member) line) :
    Shows shape code member := by
  intro names
  obtain ⟨line, inside, shaped⟩ := written names
  obtain ⟨before, after, same⟩ := inside.text_eq
  exact ⟨before, line, after, same, shaped⟩

/-- A member whose name does not matter is not shown: under a name longer than the text, the text
would have to hold it. -/
theorem mem_of_shows (holds : shape.HoldsName) (depends : DependsOn code members)
    {member : FlatMember} (shown : Shows shape code member) : members member := by
  by_contra outside
  let long := String.ofList (List.replicate ((code FlatMember.name).text.length + 1) 'x')
  let renamed := Function.update FlatMember.name member long
  have same : code FlatMember.name = code renamed := by
    refine depends FlatMember.name renamed fun other inside => ?_
    have different : other ≠ member := by
      rintro rfl
      exact outside inside
    exact (Function.update_of_ne different long FlatMember.name).symm
  obtain ⟨before, line, after, text, shaped⟩ := shown renamed
  have bound := holds member (renamed member) line shaped
  have inText := congrArg String.length text
  have called : renamed member = long := Function.update_self member long FlatMember.name
  have length : long.length = (code FlatMember.name).text.length + 1 := by
    simp only [long, String.length_ofList, List.length_replicate]
  rw [called, length, same] at bound
  simp only [String.length_append] at inText
  omega

/-- What is shown are the members whose names matter, if there is a line for each of them. -/
theorem shows_iff (holds : shape.HoldsName) (depends : DependsOn code members)
    (written : ∀ member, members member → ∀ names, ∃ line,
      (code names).Writes line ∧ shape member (names member) line) {member : FlatMember} :
    Shows shape code member ↔ members member :=
  ⟨mem_of_shows holds depends, fun inside => shows_of_writes (written member inside)⟩

end Bindery
