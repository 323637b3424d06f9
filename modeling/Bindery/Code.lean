/-! # Lines of generated code

Generated code is a list of directives: lines, blank lines, and the two ends of braced blocks. Its
text indents every line by the number of blocks around it. An end without a beginning writes its
brace at the outermost level, and blocks that are still open at the end of the list are closed.
-/

namespace Bindery

/-- One step of generated code. -/
inductive Directive where
  /-- A line at the current indentation; an empty one has none. -/
  | line (text : String)
  | blank
  /-- The comment that begins every generated file. -/
  | banner
  /-- A heading and an opening brace. -/
  | enter (heading : String)
  /-- A closing brace. -/
  | leave
  deriving DecidableEq

/-- Generated code. -/
abbrev Code := List Directive

namespace Code

/-- The comment that begins every generated file. -/
def bannerText : String := "//\n// DO NOT MODIFY! THIS IS AUTOGENERATED FILE!\n//\n"

/-- The opening brace of a block. -/
def openBrace : String := "\x7b"

/-- The closing brace of a block. -/
def closeBrace : String := "\x7d"

/-- A line inside `depth` blocks. -/
def lineText (indent depth : Nat) (text : String) : String :=
  if text.isEmpty then "\n"
  else String.ofList (List.replicate (depth * indent) ' ') ++ text ++ "\n"

/-- The closing braces of `depth` open blocks, innermost first. -/
def closing (indent : Nat) : (depth : Nat) → List String
  | 0 => []
  | depth + 1 => lineText indent depth closeBrace :: closing indent depth

/-- The pieces of the text of code that stands inside `depth` blocks. -/
def pieces (indent : Nat) : (depth : Nat) → Code → List String
  | depth, [] => closing indent depth
  | depth, .line text :: rest => lineText indent depth text :: pieces indent depth rest
  | depth, .blank :: rest => "\n" :: pieces indent depth rest
  | depth, .banner :: rest => bannerText :: pieces indent depth rest
  | depth, .enter heading :: rest =>
    lineText indent depth heading :: lineText indent depth openBrace ::
      pieces indent (depth + 1) rest
  | depth, .leave :: rest =>
    lineText indent (depth - 1) closeBrace :: pieces indent (depth - 1) rest

/-- The text of code with a given width of indentation. -/
def textWith (indent : Nat) (code : Code) : String := String.join (pieces indent 0 code)

/-- The text of code. Every block is indented by four columns. -/
def text (code : Code) : String := code.textWith 4

/-- A braced block. -/
def block (heading : String) (body : Code) : Code := .enter heading :: body ++ [.leave]

/-- A braced block with a blank line after it. -/
def spacedBlock (heading : String) (body : Code) : Code := block heading body ++ [.blank]

/-- Namespaces that are used, with a blank line after them. -/
def usings (namespaces : List String) : Code :=
  (namespaces.map fun name => .line s!"using {name};") ++ [.blank]

/-- A generated file: the banner and one namespace. -/
def sourceFile (name : String) (body : Code) : Code :=
  .banner :: block s!"namespace {name}" body

/-- Pieces of code one after the other. -/
def concat (parts : List Code) : Code := parts.flatten

/-- Statements in braces on one line. -/
def inBraces (statements : String) : String := s!"\x7b {statements} \x7d"

end Code

end Bindery
