/-! # Text inside markup

Four characters have a meaning of their own in markup and are written as named entities. `escape`
encodes a text character by character; `unescape` reads the named entities back and leaves all
other characters as they are. Main statement: reading an escaped text gives the text.
-/

namespace Bindery.Text.Xml

/-- The written form of one character. -/
def entity (c : Char) : List Char :=
  match c with
  | '&' => ['&', 'a', 'm', 'p', ';']
  | '<' => ['&', 'l', 't', ';']
  | '>' => ['&', 'g', 't', ';']
  | '"' => ['&', 'q', 'u', 'o', 't', ';']
  | c => [c]

/-- A text with its special characters written as entities. -/
def escape (s : List Char) : List Char := s.flatMap entity

/-- Reads the four named entities back. -/
def unescape : List Char → List Char
  | '&' :: 'a' :: 'm' :: 'p' :: ';' :: rest => '&' :: unescape rest
  | '&' :: 'l' :: 't' :: ';' :: rest => '<' :: unescape rest
  | '&' :: 'g' :: 't' :: ';' :: rest => '>' :: unescape rest
  | '&' :: 'q' :: 'u' :: 'o' :: 't' :: ';' :: rest => '"' :: unescape rest
  | c :: rest => c :: unescape rest
  | [] => []

theorem unescape_escape (s : List Char) : unescape (escape s) = s := by
  induction s with
  | nil => rfl
  | cons c rest ih =>
    change unescape (entity c ++ escape rest) = c :: rest
    by_cases ampersand : c = '&'
    · subst ampersand
      simpa [entity, unescape] using ih
    by_cases less : c = '<'
    · subst less
      simpa [entity, unescape] using ih
    by_cases greater : c = '>'
    · subst greater
      simpa [entity, unescape] using ih
    by_cases quote : c = '"'
    · subst quote
      simpa [entity, unescape] using ih
    have plain : entity c = [c] := by unfold entity; split <;> simp_all
    rw [plain]
    simp [unescape, ampersand, ih]

end Bindery.Text.Xml

namespace Bindery

/-- A string with the special characters of markup written as entities. -/
def escapeXml (s : String) : String := String.ofList (Text.Xml.escape s.toList)

end Bindery
