/-! # Blank characters and trimming

A character is blank when it has the Unicode property `White_Space`. Trimming removes blank
characters from the ends of a text and nothing from its inside. All functions work on the list of
characters of a text, so that laws about them are plain list inductions.
-/

namespace Bindery.Text

/-- The characters with the Unicode property `White_Space`. -/
def isBlank (c : Char) : Bool :=
  let n := c.toNat
  (0x09 ≤ n && n ≤ 0x0D) || n == 0x20 || n == 0x85 || n == 0xA0 || n == 0x1680 ||
    (0x2000 ≤ n && n ≤ 0x200A) || n == 0x2028 || n == 0x2029 || n == 0x202F || n == 0x205F ||
    n == 0x3000

/-- Removes the blanks at the left end. -/
def trimStart (s : List Char) : List Char := s.dropWhile isBlank

/-- Removes the blanks at the right end. -/
def trimEnd (s : List Char) : List Char := (s.reverse.dropWhile isBlank).reverse

/-- Removes the blanks at both ends. -/
def trim (s : List Char) : List Char := trimEnd (trimStart s)

theorem length_trimStart_le (s : List Char) : (trimStart s).length ≤ s.length :=
  (List.dropWhile_sublist _).length_le

theorem trimStart_nil : trimStart [] = [] := rfl

theorem trimEnd_nil : trimEnd [] = [] := rfl

/-- Whether a text has no character but blanks. -/
def isAllBlank (s : List Char) : Bool := s.all isBlank

end Bindery.Text

namespace Bindery

/-- A string without the blanks at its ends. -/
def trimmed (s : String) : String := String.ofList (Text.trim s.toList)

end Bindery
