import Bindery.Text.Sorted
import Bindery.Text.Xml

/-! # The manifest

The manifest is an item list for the build system. It names every generated source once, in the
order of the paths' characters.
-/

namespace Bindery.Manifest

/-- The line of one path. -/
def item (path : String) : String := s!"        <Compile Include=\"{escapeXml path}\"/>\n"

/-- The text of the manifest of a list of paths. -/
def text (paths : List String) : String :=
  "<?xml version=\"1.0\" ?>\n<Project>\n    <ItemGroup>\n" ++
    String.join ((Text.sortedOnce paths).map item) ++ "    </ItemGroup>\n</Project>\n"

end Bindery.Manifest
