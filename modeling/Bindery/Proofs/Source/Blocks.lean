import Bindery.Proofs.Source.Rows
import Bindery.Proofs.Source.Throughout
import Bindery.Proofs.Text.Braces
import Bindery.Proofs.Text.LineEnds

/-! # Blocks in print

What a directive prints depends on the number of open blocks, which is counted along the code and
never falls below zero. Main statements: writing code directive by directive and then closing all
blocks gives its text (`textWith_eq_finished`); and if no line of the code goes over an end of a
line, the lines of its text are those that the directives print, each opening brace is matched by a
closing one of the same depth, and there are as many closing braces more than blocks as there are
ends of blocks where no block is open (`prints_blocks`).
-/

namespace Bindery

open Text (Balanced LineEnds)

/-! ## Lines -/

/-- A line in print: a text or a brace inside `depth` blocks. -/
inductive PrintedLine where
  | text (depth : Nat) (words : String)
  | opening (depth : Nat)
  | closing (depth : Nat)
  deriving DecidableEq

namespace PrintedLine

/-- The number of blocks around the line. -/
def depth : PrintedLine → Nat
  | text depth _ => depth
  | opening depth => depth
  | closing depth => depth

/-- What stands on the line behind its indentation. -/
def content : PrintedLine → String
  | text _ words => words
  | opening _ => Code.openBrace
  | closing _ => Code.closeBrace

/-- The whole line. An empty one is not indented. -/
def shown (indent : Nat) (line : PrintedLine) : String :=
  if line.content = "" then ""
  else String.ofList (List.replicate (indent * line.depth) ' ') ++ line.content

/-- Whether the line is the closing brace of a block. -/
def isClosing : PrintedLine → Bool
  | closing _ => true
  | _ => false

/-- The brace that the line is. -/
def brace : PrintedLine → List Char
  | text _ _ => []
  | opening _ => ['\x7b']
  | closing _ => ['\x7d']

/-- The braces of blocks in lines. -/
def braces (lines : List PrintedLine) : List Char := lines.flatMap brace

/-- The text of lines. -/
def join (indent : Nat) (lines : List PrintedLine) : String :=
  String.join (lines.map fun line => line.shown indent ++ "\n")

@[simp]
theorem join_nil (indent : Nat) : join indent [] = "" := rfl

@[simp]
theorem join_cons (indent : Nat) (line : PrintedLine) (rest : List PrintedLine) :
    join indent (line :: rest) = line.shown indent ++ "\n" ++ join indent rest := by
  rw [join, List.map_cons, String.join_cons, join]

@[simp]
theorem join_append (indent : Nat) (first second : List PrintedLine) :
    join indent (first ++ second) = join indent first ++ join indent second := by
  rw [join, List.map_append, String.join_append, join, join]

/-- The characters of the text of lines. -/
theorem toList_join (indent : Nat) (lines : List PrintedLine) : (join indent lines).toList =
    (lines.map fun line => (line.shown indent).toList).flatMap (· ++ ['\n']) := by
  induction lines with
  | nil => rfl
  | cons line rest ih =>
    rw [join_cons, String.toList_append, String.toList_append, ih]
    rfl

/-- Each opening brace is matched: behind it and a balanced part stands a closing brace, at the same
indentation. -/
def Matched (lines : List PrintedLine) : Prop :=
  ∀ front depth rest, lines = front ++ .opening depth :: rest →
    ∃ inner back, rest = inner ++ .closing depth :: back ∧ Balanced (braces inner)

end PrintedLine

open PrintedLine (braces join)

/-! ## Directives -/

namespace Directive

/-- The number of open blocks behind a directive. -/
def openAfter (depth : Nat) : Directive → Nat
  | enter _ => depth + 1
  | leave => depth - 1
  | _ => depth

/-- What a directive prints inside `depth` blocks. The comment that begins a file is not
indented. -/
def lines (depth : Nat) : Directive → List PrintedLine
  | line text => [.text depth text]
  | blank => [.text depth ""]
  | banner => Code.bannerRows.map (.text 0)
  | enter heading => [.text depth heading, .opening depth]
  | leave => [.closing (depth - 1)]

/-- Whether a directive begins a block. -/
def isEnter : Directive → Bool
  | enter _ => true
  | _ => false

/-- The only opening brace that a directive prints is the last line of the beginning of a block. -/
theorem eq_of_lines_eq {directive : Directive} {depth inner : Nat} {front more : List PrintedLine}
    (same : directive.lines depth = front ++ .opening inner :: more) :
    directive.openAfter depth = depth + 1 ∧ inner = depth ∧ more = [] := by
  cases directive with
  | enter heading =>
    cases front with
    | nil => cases same
    | cons first front =>
      have behind : [PrintedLine.opening depth] = front ++ .opening inner :: more :=
        (List.cons.inj same).2
      cases front with
      | nil =>
        obtain ⟨here, rfl⟩ := List.cons.inj behind
        exact ⟨rfl, (PrintedLine.opening.inj here).symm, rfl⟩
      | cons second front =>
        exact absurd (List.cons.inj behind).2.symm (List.append_ne_nil_of_right_ne_nil _ nofun)
  | line | blank | banner | leave =>
    have member : PrintedLine.opening inner ∈ front ++ .opening inner :: more := by simp
    rw [← same] at member
    simp [lines] at member

end Directive

namespace Code

/-- The number of open blocks behind code: one more at each beginning of a block, and one less at
each end, but never less than none. -/
def openBlocks (depth : Nat) (code : Code) : Nat := code.foldl Directive.openAfter depth

/-- What code prints inside `depth` blocks, directive by directive. -/
def linesFrom : (depth : Nat) → Code → List PrintedLine
  | _, [] => []
  | depth, directive :: rest =>
    directive.lines depth ++ linesFrom (directive.openAfter depth) rest

/-- Code with the ends of the blocks that are open behind it. -/
def completed (code : Code) : Code := code ++ List.replicate (openBlocks 0 code) .leave

/-- All lines of code in print. -/
def printed (code : Code) : List PrintedLine := linesFrom 0 code.completed

/-- The number of ends of blocks where no block is open. -/
def strayEnds : (depth : Nat) → Code → Nat
  | _, [] => 0
  | depth, directive :: rest =>
    (if directive = .leave ∧ depth = 0 then 1 else 0) + strayEnds (directive.openAfter depth) rest

variable {code : Code} {indent depth : Nat}

theorem openBlocks_append (depth : Nat) (first second : Code) :
    openBlocks depth (first ++ second) = openBlocks (openBlocks depth first) second :=
  List.foldl_append

theorem openBlocks_replicate_leave (depth ended : Nat) :
    openBlocks depth (List.replicate ended .leave) = depth - ended := by
  induction ended generalizing depth with
  | zero => rfl
  | succ ended ih =>
    have step : openBlocks depth (.leave :: List.replicate ended .leave) =
        openBlocks (depth - 1) (List.replicate ended .leave) := rfl
    rw [List.replicate_succ, step, ih]
    omega

/-- No block is left open. -/
theorem openBlocks_completed (code : Code) : openBlocks 0 code.completed = 0 := by
  rw [completed, openBlocks_append, openBlocks_replicate_leave, Nat.sub_self]

theorem linesFrom_append (depth : Nat) (first second : Code) :
    linesFrom depth (first ++ second) =
      linesFrom depth first ++ linesFrom (openBlocks depth first) second := by
  induction first generalizing depth with
  | nil => rfl
  | cons directive rest ih =>
    rw [List.cons_append, linesFrom, linesFrom, ih, List.append_assoc]
    rfl

/-! ## Matching braces -/

/-- Of code inside `depth + 1` blocks, and `inner` more, that comes down to `depth` blocks, a line
closes the outermost of them, and before it all the inner ones are closed. -/
theorem exists_closing (inner : Nat) (down : openBlocks (depth + 1 + inner) code ≤ depth) :
    ∃ front back, linesFrom (depth + 1 + inner) code = front ++ .closing depth :: back ∧
      Balanced (List.replicate inner '\x7b' ++ braces front) := by
  induction code generalizing inner with
  | nil =>
    have still : depth + 1 + inner ≤ depth := down
    omega
  | cons directive rest ih =>
    cases directive with
    | line words =>
      obtain ⟨front, back, same, balanced⟩ := ih inner down
      exact ⟨.text _ words :: front, back, congrArg (_ :: ·) same, balanced⟩
    | blank =>
      obtain ⟨front, back, same, balanced⟩ := ih inner down
      exact ⟨.text _ "" :: front, back, congrArg (_ :: ·) same, balanced⟩
    | banner =>
      obtain ⟨front, back, same, balanced⟩ := ih inner down
      exact ⟨Directive.lines 0 .banner ++ front, back, congrArg (_ ++ ·) same, balanced⟩
    | enter heading =>
      obtain ⟨front, back, same, balanced⟩ := ih (inner + 1) down
      refine ⟨.text _ heading :: .opening _ :: front, back,
        congrArg (fun lines => _ :: _ :: lines) same, ?_⟩
      rwa [List.replicate_succ', List.append_assoc] at balanced
    | leave =>
      cases inner with
      | zero => exact ⟨[], linesFrom depth rest, rfl, Text.balanced_nil⟩
      | succ inner =>
        obtain ⟨front, back, same, balanced⟩ := ih inner down
        refine ⟨.closing (depth + 1 + inner) :: front, back, congrArg (_ :: ·) same, ?_⟩
        rw [List.replicate_succ', List.append_assoc]
        exact balanced.insert

/-- Where all blocks are closed, all opening braces are matched. -/
theorem matched_linesFrom (down : openBlocks depth code = 0) :
    PrintedLine.Matched (linesFrom depth code) := by
  induction code generalizing depth with
  | nil =>
    intro front inner rest same
    exact absurd same.symm (List.append_ne_nil_of_right_ne_nil _ nofun)
  | cons directive below ih =>
    intro front inner rest same
    have onward : openBlocks (directive.openAfter depth) below = 0 := down
    obtain ⟨more, later, here⟩ | ⟨more, here, later⟩ := List.append_eq_append_iff.mp same
    · exact ih onward more inner rest here
    · cases more with
      | nil => exact ih onward [] inner rest later.symm
      | cons first more =>
        obtain ⟨rfl, behind⟩ := List.cons.inj later
        obtain ⟨deeper, rfl, rfl⟩ := Directive.eq_of_lines_eq here
        rw [deeper] at onward behind
        obtain ⟨front, back, closed, balanced⟩ := exists_closing 0 (onward.trans_le (Nat.zero_le _))
        exact ⟨front, back, behind.trans closed, balanced⟩

/-! ## Counting braces -/

/-- Each end of a block prints its closing brace. -/
theorem countP_closing_linesFrom (depth : Nat) (code : Code) :
    (linesFrom depth code).countP PrintedLine.isClosing = code.count .leave := by
  induction code generalizing depth with
  | nil => rfl
  | cons directive rest ih =>
    rw [linesFrom, List.countP_append, ih]
    cases directive with
    | leave => simp [Directive.lines, PrintedLine.isClosing, Nat.add_comm]
    | line | blank | banner | enter => simp [Directive.lines, PrintedLine.isClosing]

/-- Blocks that were open and that are begun are ended or still open, and an end of a block where
none is open ends none of them. -/
theorem openBlocks_add_count_leave (depth : Nat) (code : Code) :
    openBlocks depth code + code.count .leave =
      depth + code.countP Directive.isEnter + strayEnds depth code := by
  induction code generalizing depth with
  | nil => rfl
  | cons directive rest ih =>
    have step : openBlocks depth (directive :: rest) =
        openBlocks (directive.openAfter depth) rest := rfl
    have later := ih (directive.openAfter depth)
    rw [step, strayEnds]
    cases directive with
    | leave =>
      simp only [Directive.openAfter, Directive.isEnter, List.count_cons_self, true_and,
        List.countP_cons, Bool.false_eq_true, if_false] at later ⊢
      split <;> omega
    | line | blank | banner | enter =>
      simp [Directive.openAfter, Directive.isEnter, List.countP_cons] at later ⊢
      omega

theorem countP_closing_printed (code : Code) :
    code.printed.countP PrintedLine.isClosing =
      code.countP Directive.isEnter + strayEnds 0 code := by
  have counted := openBlocks_add_count_leave 0 code
  rw [printed, countP_closing_linesFrom, completed, List.count_append, List.count_replicate_self]
  omega

end Code

/-! ## Writing -/

/-- What a directive writes inside `depth` blocks. -/
def Directive.written (indent depth : Nat) : Directive → String
  | line text => Code.lineText indent depth text
  | blank => "\n"
  | banner => Code.bannerText
  | enter heading =>
    Code.lineText indent depth heading ++ Code.lineText indent depth Code.openBrace
  | leave => Code.lineText indent (depth - 1) Code.closeBrace

/-- Code in the course of being written: the text so far, and the number of open blocks. -/
structure Draft where
  indent : Nat
  text : String
  depth : Nat

namespace Draft

/-- The draft of a text that has not been begun. -/
def new (indent : Nat) : Draft := ⟨indent, "", 0⟩

/-- Writes a directive. -/
def write (draft : Draft) (directive : Directive) : Draft where
  indent := draft.indent
  text := draft.text ++ directive.written draft.indent draft.depth
  depth := directive.openAfter draft.depth

/-- Writes code, directive by directive. -/
def writeAll (draft : Draft) (code : Code) : Draft := code.foldl write draft

/-- The text, after all open blocks have been ended. -/
def finished (draft : Draft) : String :=
  (draft.writeAll (List.replicate draft.depth .leave)).text

end Draft

theorem PrintedLine.shown_append (indent : Nat) (line : PrintedLine) :
    line.shown indent ++ "\n" = Code.lineText indent line.depth line.content := by
  rw [Code.lineText, shown, Nat.mul_comm]
  by_cases empty : line.content = ""
  · rw [if_pos empty, if_pos (by simp [empty])]
    rfl
  · rw [if_neg empty, if_neg (by simpa using empty)]

/-- A text outside all blocks is not indented. -/
theorem PrintedLine.shown_flush (indent : Nat) (words : String) :
    (text 0 words).shown indent = words := by
  rw [shown, content, depth, Nat.mul_zero]
  split
  · next empty => exact empty.symm
  · exact String.empty_append

/-- Rows are lines in print behind the usual indentation. -/
theorem PrintedLine.shown_four (line : PrintedLine) :
    line.shown 4 = Code.row line.depth line.content := by
  rw [Code.row, shown, Nat.mul_comm]
  by_cases empty : line.content = ""
  · rw [if_pos empty, if_pos (by simp [empty])]
  · rw [if_neg empty, if_neg (by simpa using empty)]

theorem Code.rows_eq_map_shown (depth : Nat) (code : Code) :
    rows depth code = (linesFrom depth code).map (PrintedLine.shown 4) := by
  induction code generalizing depth with
  | nil => rfl
  | cons directive rest ih =>
    rw [linesFrom, List.map_append, ← ih]
    cases directive with
    | blank => rfl
    | banner =>
      rw [rows, Directive.lines, List.map_map]
      simp only [Function.comp_def, PrintedLine.shown_flush, List.map_id']
      rfl
    | line | enter | leave =>
      simp [rows, Directive.lines, Directive.openAfter, PrintedLine.shown_four,
        PrintedLine.depth, PrintedLine.content]

theorem Directive.join_lines (indent depth : Nat) (directive : Directive) :
    join indent (directive.lines depth) = directive.written indent depth := by
  cases directive with
  | blank => rfl
  | banner =>
    have text : String.join (Code.bannerRows.map (· ++ "\n")) = Code.bannerText := by decide
    rw [lines, join, List.map_map, written, ← text]
    simp only [Function.comp_def, PrintedLine.shown_flush]
  | line | enter | leave =>
    simp [lines, written, PrintedLine.shown_append, PrintedLine.depth, PrintedLine.content]

namespace Draft

/-- What a draft holds after code: the lines of the code behind the text that it had. -/
theorem writeAll_eq (draft : Draft) (code : Code) : draft.writeAll code =
    ⟨draft.indent, draft.text ++ join draft.indent (code.linesFrom draft.depth),
      code.openBlocks draft.depth⟩ := by
  induction code generalizing draft with
  | nil =>
    rw [Code.linesFrom, PrintedLine.join_nil, String.append_empty]
    rfl
  | cons directive rest ih =>
    have step : draft.writeAll (directive :: rest) = (draft.write directive).writeAll rest := rfl
    rw [step, ih, Code.linesFrom, PrintedLine.join_append, Directive.join_lines,
      ← String.append_assoc]
    rfl

end Draft

namespace Code

variable {code : Code} {indent depth : Nat}

theorem join_pieces_cons (indent depth : Nat) (directive : Directive) (rest : Code) :
    String.join (pieces indent depth (directive :: rest)) =
      directive.written indent depth ++
        String.join (pieces indent (directive.openAfter depth) rest) := by
  cases directive with
  | enter heading =>
    rw [pieces, String.join_cons, String.join_cons, ← String.append_assoc]
    rfl
  | line | blank | banner | leave => exact String.join_cons

theorem join_closing (indent depth : Nat) : String.join (closing indent depth) =
    join indent (linesFrom depth (List.replicate depth .leave)) := by
  induction depth with
  | zero => rfl
  | succ depth ih =>
    rw [closing, String.join_cons, ih, List.replicate_succ, linesFrom, PrintedLine.join_append,
      Directive.join_lines]
    rfl

/-- The pieces of a text are the lines that its code prints, and the braces of the blocks that it
leaves open. -/
theorem join_pieces (indent depth : Nat) (code : Code) :
    String.join (pieces indent depth code) =
      join indent (linesFrom depth (code ++ List.replicate (openBlocks depth code) .leave)) := by
  induction code generalizing depth with
  | nil => exact join_closing indent depth
  | cons directive rest ih =>
    rw [join_pieces_cons, ih, List.cons_append, linesFrom, PrintedLine.join_append,
      Directive.join_lines]
    rfl

theorem textWith_eq_join (indent : Nat) (code : Code) :
    code.textWith indent = join indent code.printed := join_pieces indent 0 code

/-- The text of code is what is written directive by directive, with the open blocks ended. -/
theorem textWith_eq_finished (indent : Nat) (code : Code) :
    code.textWith indent = ((Draft.new indent).writeAll code).finished := by
  rw [textWith_eq_join, Draft.finished, Draft.writeAll_eq, Draft.writeAll_eq, printed, completed,
    linesFrom_append, PrintedLine.join_append]
  simp [Draft.new]

/-- What stands on a line in print is a line of the code, or it has no blanks but spaces. -/
theorem content_of_mem_linesFrom {line : PrintedLine} (member : line ∈ linesFrom depth code) :
    code.Writes line.content ∨ line.content.toList.all LineEnds.isSolid = true := by
  have fixed : ∀ words ∈ openBrace :: closeBrace :: bannerRows,
      words.toList.all LineEnds.isSolid = true := by decide
  induction code generalizing depth with
  | nil => cases member
  | cons directive rest ih =>
    rcases List.mem_append.mp member with here | later
    · cases directive with
      | line words =>
        obtain rfl := List.mem_singleton.mp here
        exact .inl (.inl List.mem_cons_self)
      | blank =>
        obtain rfl := List.mem_singleton.mp here
        exact .inr rfl
      | banner =>
        obtain ⟨row, inside, rfl⟩ := List.mem_map.mp here
        exact .inr (fixed row (List.mem_cons_of_mem _ (List.mem_cons_of_mem _ inside)))
      | enter heading =>
        rcases List.mem_cons.mp here with rfl | brace
        · exact .inl (.inr List.mem_cons_self)
        · obtain rfl := List.mem_singleton.mp brace
          exact .inr (fixed openBrace List.mem_cons_self)
      | leave =>
        obtain rfl := List.mem_singleton.mp here
        exact .inr (fixed closeBrace (List.mem_cons_of_mem _ List.mem_cons_self))
    · exact (ih later).imp_left fun written =>
        written.imp (List.mem_cons_of_mem _) (List.mem_cons_of_mem _)

/-- No line in print has an end of a line in it if no line of the code has. -/
theorem isEnd_of_mem_printed {ends : LineEnds}
    (unbroken : code.Throughout (Text.Without ends.isEnd)) {line : PrintedLine}
    (member : line ∈ code.printed) : ∀ c ∈ (line.shown indent).toList, ends.isEnd c = false := by
  have content : ∀ c ∈ line.content.toList, ends.isEnd c = false := by
    rcases content_of_mem_linesFrom member with written | solid
    · have inCode : code.Writes line.content := by simpa [completed, Writes] using written
      exact unbroken _ inCode
    · exact LineEnds.isEnd_of_all_isSolid solid
  intro c inside
  rw [PrintedLine.shown] at inside
  split at inside
  · cases inside
  · rw [String.toList_append, String.toList_ofList, List.mem_append] at inside
    rcases inside with space | here
    · rw [List.eq_of_mem_replicate space]
      exact ends.space
    · exact content c here

/-- The text of code consists of the lines that its directives print, each behind as many spaces as
the indentation of the blocks that are open there, and nothing on an empty one. Each opening brace
is matched by a closing one at the same indentation, and there are as many closing braces as blocks
are begun, and one more for each end of a block where none is open. -/
theorem prints_blocks (ends : LineEnds) (indent : Nat) (code : Code)
    (unbroken : code.Throughout (Text.Without ends.isEnd)) :
    ends.Ended (code.textWith indent).toList
        (code.printed.map fun line => (line.shown indent).toList) ∧
      PrintedLine.Matched code.printed ∧
      code.printed.countP PrintedLine.isClosing =
        code.countP Directive.isEnter + strayEnds 0 code := by
  refine ⟨?_, matched_linesFrom (openBlocks_completed code), countP_closing_printed code⟩
  rw [textWith_eq_join, PrintedLine.toList_join]
  refine LineEnds.ended_flatMap (List.forall_mem_map.mpr fun line member => ?_)
  exact isEnd_of_mem_printed unbroken member

/-- An end of a block where none is open, and a block that is not ended. -/
def surplus : Code := .leave :: .enter "class A" :: .blank :: block "void F()" [.line "return;"]

theorem prints_blocks_surplus :
    surplus.Throughout (Text.Without LineEnds.ofTarget.isEnd) ∧
      LineEnds.ofTarget.Ended (surplus.textWith 2).toList
        (["\x7d", "class A", "\x7b", "", "  void F()", "  \x7b", "    return;", "  \x7d",
          "\x7d"].map String.toList) ∧
      PrintedLine.Matched surplus.printed ∧
      surplus.printed.countP PrintedLine.isClosing = 2 + 1 := by
  have unbroken : surplus.Throughout (Text.Without LineEnds.ofTarget.isEnd) := by
    intro line written
    have known : line ∈ ["return;", "class A", "void F()"] := by
      simpa [surplus, block, Writes] using written
    have each : ∀ line ∈ ["return;", "class A", "void F()"],
        Text.Without LineEnds.ofTarget.isEnd line := by decide
    exact each line known
  obtain ⟨ended, matched, counted⟩ := prints_blocks .ofTarget 2 surplus unbroken
  exact ⟨unbroken, ended, matched, counted⟩

end Code

end Bindery
