import Bindery.Text.Search

/-! # Names that need not be texts

The system keeps the names of files as bytes. Read as UTF-8 they are characters, except for runs of
bytes that are part of none. A name is shown with a replacement character in place of each such run,
so that names which are no texts can be shown alike. Main statements: a text comes back from the
name that it is (`RawText.text_ofText`), and the names that come back from what they are shown as
are the texts (`RawText.ofText_text_eq_iff`).
-/

namespace Bindery

/-- A piece of a name. -/
inductive Glyph where
  | char (c : Char)
  /-- Bytes that begin a character and are not followed by the rest of it, or one byte that begins
  no character. -/
  | stray (bytes : List UInt8)
  deriving DecidableEq

namespace Glyph

/-- What a piece is shown as. -/
def shown : Glyph → Char
  | .char c => c
  | .stray _ => '\uFFFD'

/-- The bytes of a piece. -/
def bytes : Glyph → List UInt8
  | .char c => String.utf8EncodeChar c
  | .stray bytes => bytes

/-- How many bytes a piece has. -/
def size : Glyph → Nat
  | .char c => c.utf8Size
  | .stray bytes => bytes.length

/-- Whether a piece is a character. -/
def isChar : Glyph → Bool
  | .char _ => true
  | .stray _ => false

end Glyph

/-- A name, or several with slashes between them, as the system keeps it. -/
abbrev RawText := List Glyph

namespace RawText

/-- A text as a name. -/
def ofText (text : String) : RawText := text.toList.map .char

instance : Coe String RawText := ⟨ofText⟩

/-- What a name is shown as. -/
def text (name : RawText) : String := String.ofList (name.map Glyph.shown)

/-- How many bytes a name has. -/
def size (name : RawText) : Nat := name.foldr (fun glyph total => glyph.size + total) 0

/-- Names are ordered by their bytes. -/
def order (a b : RawText) : Ordering :=
  compareOfLessAndEq (a.flatMap Glyph.bytes) (b.flatMap Glyph.bytes)

/-- Whether a name is a text. -/
def isText (name : RawText) : Bool := name.all Glyph.isChar

variable {text other : String} {first second : RawText}

theorem text_ofText (text : String) : (ofText text).text = text := by
  rw [RawText.text, ofText, List.map_map]
  have characters : text.toList.map (Glyph.shown ∘ .char) = text.toList := List.map_id _
  rw [characters, String.ofList_toList]

theorem ofText_inj : ofText text = ofText other ↔ text = other := by
  refine ⟨fun same => ?_, congrArg ofText⟩
  rw [← text_ofText text, same, text_ofText]

theorem ofText_append (text other : String) :
    ofText (text ++ other) = ofText text ++ ofText other := by
  simp [ofText]

theorem ofText_ofList (characters : List Char) :
    ofText (String.ofList characters) = characters.map .char := by
  rw [ofText, String.toList_ofList]

theorem isText_ofText (text : String) : (ofText text).isText = true := by
  simp [isText, ofText, Glyph.isChar]

theorem text_append : RawText.text (first ++ second) = first.text ++ second.text := by
  rw [RawText.text, List.map_append, String.ofList_append]
  rfl

theorem isText_append :
    isText (first ++ second) = true ↔ first.isText = true ∧ second.isText = true := by
  simp only [isText, List.all_append, Bool.and_eq_true]

theorem isText_iff : first.isText = true ↔ ∀ bytes, .stray bytes ∉ first := by
  rw [isText, List.all_eq_true]
  constructor
  · exact fun all bytes member => absurd (all _ member) Bool.false_ne_true
  · intro none glyph member
    cases glyph with
    | char c => rfl
    | stray bytes => exact absurd member (none bytes)

/-- In the text that a name is shown as, everything is a character. -/
theorem ofText_text (name : RawText) :
    ofText name.text = name.map fun glyph => .char glyph.shown := by
  rw [RawText.text, ofText_ofList, List.map_map]
  rfl

/-- The names that come back from what they are shown as are the texts. -/
theorem ofText_text_eq_iff {name : RawText} : ofText name.text = name ↔ name.isText = true := by
  constructor
  · intro back
    rw [← back]
    exact isText_ofText _
  · intro all
    rw [ofText_text]
    refine (List.map_congr_left fun glyph member => ?_).trans (List.map_id _)
    cases glyph with
    | char c => rfl
    | stray bytes => exact absurd (List.all_eq_true.mp all _ member) Bool.false_ne_true

end RawText

end Bindery
