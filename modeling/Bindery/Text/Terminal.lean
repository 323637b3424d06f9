/-! # Control sequences of terminals

A terminal obeys some characters instead of showing them: single control characters, and sequences
that the escape character begins. Here a text is freed of both, as a log has to be whose messages
hold what others wrote. Main statements: what is left is shown (`isShown_of_mem_kept`) and stands in
its old order (`kept_sublist`), and a text that is shown as a whole is left as it is
(`shownText_eq_self`).
-/

namespace Bindery.Text.Terminal

/-- Whether a character lies in a range of codes. -/
def between (low high : Nat) (c : Char) : Bool := low ≤ c.toNat && c.toNat ≤ high

/-- Whether a character moves to another column or line. -/
def isLayout (c : Char) : Bool := c == '\t' || c == '\n' || c == '\x0c' || c == '\r'

/-- Whether a character is shown, or moves to where the next one is. -/
def isShown (c : Char) : Bool := 0x80 ≤ c.toNat || between 0x20 0x7E c || isLayout c

/-- What a terminal takes the next character for. -/
inductive State where
  /-- A character of the text. -/
  | plain
  /-- The kind of a sequence. -/
  | escape
  /-- A mark or the end of a short sequence. -/
  | escapeMarks
  /-- A parameter or the end of a control sequence. -/
  | control
  /-- The first character of a sequence for a device. -/
  | deviceStart
  /-- A later parameter of a sequence for a device. -/
  | deviceParameters
  /-- A mark of a sequence for a device. -/
  | deviceMarks
  /-- A character that is for a device. -/
  | text
  /-- A character of a command to the system, which the bell ends. -/
  | command
  deriving DecidableEq, Repr

namespace State

/-- The state after the character that tells the kind of a sequence. -/
def ofKind (c : Char) : State :=
  if between 0x20 0x2F c then .escapeMarks
  else if c == '[' then .control
  else if c == ']' then .command
  else if c == 'P' then .deviceStart
  else if c == 'X' || c == '^' || c == '_' then .text
  else if between 0x30 0x7E c then .plain
  else .escape

/-- The state after a character. The escape character begins a sequence anywhere, and two control
characters break one off. What is for a device ends at the byte 0x9C, also inside a character. -/
def next (state : State) (c : Char) : State :=
  if c == '\x1b' then .escape
  else if c == '\x18' || c == '\x1a' then .plain
  else
    match state with
    | .plain => .plain
    | .escape => ofKind c
    | .escapeMarks => if between 0x30 0x7E c then .plain else .escapeMarks
    | .control => if between 0x40 0x7E c then .plain else .control
    | .deviceStart =>
      if between 0x20 0x2F c then .deviceMarks
      else if between 0x30 0x3F c then .deviceParameters
      else if between 0x40 0x7E c then .text
      else .deviceStart
    | .deviceParameters =>
      if between 0x20 0x2F c then .deviceMarks
      else if between 0x3C 0x7E c then .text
      else .deviceParameters
    | .deviceMarks => if between 0x30 0x7E c then .text else .deviceMarks
    | .text => if (String.utf8EncodeChar c).contains 0x9C then .plain else .text
    | .command => if c == '\x07' then .plain else .command

/-- Whether a character is kept in a state. The sequences that may hold moves to another line let
them through. -/
def keeps (state : State) (c : Char) : Bool :=
  match state with
  | .plain => isShown c
  | .escape | .escapeMarks | .control => isLayout c
  | .deviceStart | .deviceParameters | .deviceMarks | .text | .command => false

theorem isShown_of_keeps {state : State} {c : Char} (kept : state.keeps c) : isShown c := by
  cases state <;> simp_all [keeps, isShown]

end State

/-- What is kept of a text. A character that is kept begins a run, in which all shown characters are
kept whatever the state was; the state counts again from the first one that is not shown. -/
def kept : (inRun : Bool) → State → List Char → List Char
  | _, _, [] => []
  | true, state, c :: rest =>
    if isShown c then c :: kept true (if 0x80 ≤ c.toNat then .plain else state) rest
    else kept false (state.next c) rest
  | false, state, c :: rest =>
    if state.keeps c then c :: kept true (state.next c) rest
    else kept false (state.next c) rest

theorem isShown_of_mem_kept {inRun : Bool} {state : State} {s : List Char} {c : Char}
    (member : c ∈ kept inRun state s) : isShown c := by
  fun_induction kept inRun state s with
  | case1 => cases member
  | case2 state first rest shown ih =>
    rcases List.mem_cons.mp member with rfl | later
    · exact shown
    · exact ih later
  | case3 state first rest hidden ih => exact ih member
  | case4 state first rest keeps ih =>
    rcases List.mem_cons.mp member with rfl | later
    · exact State.isShown_of_keeps keeps
    · exact ih later
  | case5 state first rest drops ih => exact ih member

theorem kept_sublist (inRun : Bool) (state : State) (s : List Char) :
    (kept inRun state s).Sublist s := by
  fun_induction kept inRun state s with
  | case1 => exact .slnil
  | case2 state first rest shown ih => exact .cons_cons first ih
  | case3 state first rest hidden ih => exact .cons first ih
  | case4 state first rest keeps ih => exact .cons_cons first ih
  | case5 state first rest drops ih => exact .cons first ih

theorem kept_eq_self {s : List Char} (shown : ∀ c ∈ s, isShown c) (state : State) :
    kept true state s = s := by
  induction s generalizing state with
  | nil => rfl
  | cons first rest ih =>
    rw [kept, if_pos (shown first List.mem_cons_self),
      ih (fun c member => shown c (List.mem_cons_of_mem first member))]

end Bindery.Text.Terminal

namespace Bindery

/-- What a terminal would show of a text. -/
def shownText (s : String) : String := String.ofList (Text.Terminal.kept true .plain s.toList)

theorem shownText_eq_self {s : String} (shown : ∀ c ∈ s.toList, Text.Terminal.isShown c) :
    shownText s = s := by
  rw [shownText, Text.Terminal.kept_eq_self shown, String.ofList_toList]

end Bindery
