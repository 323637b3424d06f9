import Bindery.Proofs.Source.Manifest

/-! # Manifests and sets of paths

The text of a manifest depends on nothing but the set of the paths, and a reader of markup gets that
set back from it: the values that stand between quotes in its `Compile` elements, with the entities
in them read, are the paths in order and each of them once (`text_determines_paths`). A path is
written with its special characters replaced one after the other in the whole text, the ampersand
first, which comes to replacing each character by itself (`escape_eq_replaceInTurn`).
-/

namespace Bindery

namespace Text.Xml

/-- A text in which something else is written for every occurrence of a character. -/
def replace (mark : Char) (shown text : List Char) : List Char :=
  text.flatMap fun c => if c = mark then shown else [c]

/-- What the four replacements in the whole text, one after the other, make of a text. -/
def replaceInTurn (text : List Char) : List Char :=
  replace '"' "&quot;".toList (replace '>' "&gt;".toList
    (replace '<' "&lt;".toList (replace '&' "&amp;".toList text)))

/-- Because the ampersand comes first, no replacement finds what another one has written. -/
theorem escape_eq_replaceInTurn (text : List Char) : escape text = replaceInTurn text := by
  simp only [replaceInTurn, replace, List.flatMap_assoc, escape]
  congr 1
  funext c
  unfold entity
  split
  · decide
  · decide
  · decide
  · decide
  · next ampersand less greater quote =>
    rw [if_neg ampersand, List.flatMap_singleton, if_neg less, List.flatMap_singleton,
      if_neg greater, List.flatMap_singleton, if_neg quote]

end Text.Xml

namespace Manifest

/-- The tags of a text: what stands behind each `<`, up to the next `>`. -/
def tags : List Char → List (List Char)
  | [] => []
  | c :: rest => if c = '<' then rest.takeWhile (· ≠ '>') :: tags rest else tags rest

/-- What stands between quotes, in a text that is cut at its quotes. -/
def quoted : (pieces : List (List Char)) → List (List Char)
  | _ :: value :: rest => value :: quoted rest
  | _ => []

/-- What stands between quotes in the `Compile` elements of a text. -/
def compileValues (text : List Char) : List (List Char) :=
  ((tags text).filter fun tag => "Compile ".toList.isPrefixOf tag).flatMap fun tag =>
    quoted (Text.splitOn '"' tag)

/-- The paths in the `Compile` elements of a text, with their entities read. -/
def compiled (text : String) : List String :=
  (compileValues text.toList).map fun value => String.ofList (Text.Xml.unescape value)

variable {lead tag rest : List Char}

theorem tags_append (free : '<' ∉ lead) : tags (lead ++ rest) = tags rest := by
  induction lead with
  | nil => rfl
  | cons c lead ih =>
    obtain ⟨differs, later⟩ := List.ne_and_not_mem_of_not_mem_cons free
    rw [List.cons_append, tags, if_neg differs.symm, ih later]

theorem tags_cons (free : '<' ∉ tag) (open_ : '>' ∉ tag) :
    tags ('<' :: (tag ++ '>' :: rest)) = tag :: tags rest := by
  have ends : (tag ++ '>' :: rest).takeWhile (· ≠ '>') = tag := by
    rw [List.takeWhile_append_of_pos]
    · simp
    · intro c member
      simpa using ne_of_mem_of_not_mem member open_
  have behind : tags (tag ++ '>' :: rest) = tags rest := by
    rw [tags_append free, tags, if_neg (by decide)]
  rw [tags, if_pos rfl, ends, behind]

/-- The tag of one path. -/
def itemTag (path : String) : List Char :=
  "Compile Include=".toList ++ '"' :: (Text.Xml.escape path.toList ++ '"' :: ['/'])

theorem quoted_itemTag (path : String) :
    quoted (Text.splitOn '"' (itemTag path)) = [Text.Xml.escape path.toList] := by
  have free : '"' ∉ Text.Xml.escape path.toList := Text.Xml.not_mem_escape (by decide) _
  unfold itemTag
  rw [Text.splitOn_append_cons, Text.splitOn_of_not_mem (by decide),
    Text.splitOn_append_cons, Text.splitOn_of_not_mem free, Text.splitOn_of_not_mem (by decide)]
  simp only [List.singleton_append, quoted]

theorem not_mem_itemTag {mark : Char} (special : mark = '<' ∨ mark = '>') (path : String) :
    mark ∉ itemTag path := by
  have free : mark ∉ Text.Xml.escape path.toList := by
    refine Text.Xml.not_mem_escape ?_ _
    rcases special with rfl | rfl <;> decide
  have lead : mark ∉ "Compile Include=".toList := by
    rcases special with rfl | rfl <;> decide
  have others : mark ≠ '"' ∧ mark ∉ ['"', '/'] := by
    rcases special with rfl | rfl <;> decide
  refine List.not_mem_append lead (List.not_mem_cons_of_ne_of_not_mem others.1 ?_)
  exact List.not_mem_append free others.2

theorem tags_item (path : String) (rest : List Char) :
    tags ((item path).toList ++ rest) = itemTag path :: tags rest := by
  have parts : (item path).toList ++ rest =
      "        ".toList ++ '<' :: (itemTag path ++ '>' :: ('\n' :: rest)) := by
    unfold itemTag
    rw [toList_item]
    simp
  have behind : tags ('\n' :: rest) = tags rest := by
    rw [tags, if_neg (by decide)]
  rw [parts, tags_append (by decide), tags_cons (not_mem_itemTag (.inl rfl) path)
    (not_mem_itemTag (.inr rfl) path), behind]

theorem tags_items (paths : List String) (rest : List Char) :
    tags ((String.join (paths.map item)).toList ++ rest) = paths.map itemTag ++ tags rest := by
  induction paths with
  | nil => rfl
  | cons path paths ih =>
    rw [List.map_cons, String.join_cons, String.toList_append, List.append_assoc, tags_item, ih]
    rfl

/-- The tags of a manifest. -/
theorem tags_text (paths : List String) : tags (text paths).toList =
    "?xml version=\"1.0\" ?".toList :: "Project".toList :: "ItemGroup".toList ::
      ((Text.sortedOnce paths).map itemTag ++ ["/ItemGroup".toList, "/Project".toList]) := by
  have parts : (text paths).toList =
      "<?xml version=\"1.0\" ?>\n<Project>\n    <ItemGroup>\n".toList ++
        ((String.join ((Text.sortedOnce paths).map item)).toList ++
          "    </ItemGroup>\n</Project>\n".toList) := by
    unfold text
    rw [String.toList_append, String.toList_append, List.append_assoc]
  have heading (rest : List Char) :
      "<?xml version=\"1.0\" ?>\n<Project>\n    <ItemGroup>\n".toList ++ rest =
        '<' :: ("?xml version=\"1.0\" ?".toList ++ '>' :: ("\n".toList ++
          '<' :: ("Project".toList ++ '>' :: ("\n    ".toList ++
            '<' :: ("ItemGroup".toList ++ '>' :: ("\n".toList ++ rest)))))) := by simp
  have closing : tags "    </ItemGroup>\n</Project>\n".toList =
      ["/ItemGroup".toList, "/Project".toList] := by decide
  rw [parts, heading, tags_cons (by decide) (by decide), tags_append (by decide),
    tags_cons (by decide) (by decide), tags_append (by decide), tags_cons (by decide) (by decide),
    tags_append (by decide), tags_items, closing]

/-- Between the quotes in the `Compile` elements of a manifest stand the paths, escaped. -/
theorem compileValues_text (paths : List String) : compileValues (text paths).toList =
    (Text.sortedOnce paths).map fun path => Text.Xml.escape path.toList := by
  have items (path : String) : "Compile ".toList.isPrefixOf (itemTag path) = true := by
    unfold itemTag
    rfl
  have filtered (paths : List String) :
      (paths.map itemTag).filter (fun tag => "Compile ".toList.isPrefixOf tag) =
        paths.map itemTag := by
    refine List.filter_eq_self.mpr fun tag member => ?_
    obtain ⟨path, _, rfl⟩ := List.mem_map.mp member
    exact items path
  have others : ["?xml version=\"1.0\" ?".toList, "Project".toList, "ItemGroup".toList].filter
        (fun tag => "Compile ".toList.isPrefixOf tag) = [] ∧
      ["/ItemGroup".toList, "/Project".toList].filter
        (fun tag => "Compile ".toList.isPrefixOf tag) = [] := by decide
  have split : tags (text paths).toList =
      ["?xml version=\"1.0\" ?".toList, "Project".toList, "ItemGroup".toList] ++
        ((Text.sortedOnce paths).map itemTag ++ ["/ItemGroup".toList, "/Project".toList]) :=
    tags_text paths
  rw [compileValues, split, List.filter_append, List.filter_append, others.1, others.2, filtered,
    List.nil_append, List.append_nil, List.flatMap_map]
  simp only [quoted_itemTag, ← List.map_eq_flatMap]

/-- A reader gets the paths in order and each of them once. -/
theorem compiled_text (paths : List String) : compiled (text paths) = Text.sortedOnce paths := by
  rw [compiled, compileValues_text, List.map_map]
  have read : ((fun value => String.ofList (Text.Xml.unescape value)) ∘
      fun path : String => Text.Xml.escape path.toList) = id := by
    funext path
    rw [Function.comp_apply, Text.Xml.unescape_escape, String.ofList_toList, id]
  rw [read, List.map_id]

/-- The text of a manifest determines the set of its paths and is determined by it. What a reader
gets from the text are the paths, strictly increasing, and what it reads is each of them with four
characters replaced one after the other. -/
theorem text_determines_paths (paths : List String) :
    (∀ others, text paths = text others ↔ ∀ path, path ∈ paths ↔ path ∈ others) ∧
      (compiled (text paths)).Pairwise (· < ·) ∧
      (∀ path, path ∈ compiled (text paths) ↔ path ∈ paths) ∧
      compileValues (text paths).toList =
        (compiled (text paths)).map fun path => Text.Xml.replaceInTurn path.toList := by
  refine ⟨fun others => ⟨fun same path => ?_, fun same => ?_⟩, ?_, fun path => ?_, ?_⟩
  · rw [← Text.mem_sortedOnce, ← compiled_text, same, compiled_text, Text.mem_sortedOnce]
  · unfold text
    rw [Text.sortedOnce_congr same]
  · rw [compiled_text]
    exact Text.pairwise_sortedOnce paths
  · rw [compiled_text, Text.mem_sortedOnce]
  · rw [compileValues_text, compiled_text]
    simp only [Text.Xml.escape_eq_replaceInTurn]

end Manifest

end Bindery
