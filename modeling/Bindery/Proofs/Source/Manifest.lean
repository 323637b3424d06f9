import Bindery.Source.Manifest
import Bindery.Proofs.Text.Ordered
import Bindery.Proofs.Text.Splitting

/-! # Reading manifests

A reader of markup takes the texts between quotes for the values of attributes and reads the
entities in them. Main statement: what it finds as items of a manifest are the paths of which the
manifest was made, in order and each of them once, whatever characters they have (`includes_text`).
-/

namespace Bindery

/-- Three of the four characters do not occur in an escaped text at all. -/
theorem Text.Xml.not_mem_escape {mark : Char} (special : mark ∈ ['<', '>', '"']) (s : List Char) :
    mark ∉ escape s := by
  intro member
  obtain ⟨c, _, shown⟩ := List.mem_flatMap.mp member
  simp only [List.mem_cons, List.not_mem_nil, or_false] at special
  obtain ⟨ampersand, less, greater, quote⟩ : mark ∉ "&amp;".toList ∧ mark ∉ "&lt;".toList ∧
      mark ∉ "&gt;".toList ∧ mark ∉ "&quot;".toList := by
    rcases special with rfl | rfl | rfl <;> simp
  unfold entity at shown
  split at shown
  · exact ampersand shown
  · exact less shown
  · exact greater shown
  · exact quote shown
  · next notLess notGreater notQuote =>
    obtain rfl := List.mem_singleton.mp shown
    rcases special with less | greater | quote
    · exact notLess less
    · exact notGreater greater
    · exact notQuote quote

namespace Manifest

/-- The values of the attributes of a name, in a text that is cut at its quotes. -/
def attributeValues (name : List Char) : (pieces : List (List Char)) → List (List Char)
  | lead :: value :: rest =>
    if (Text.before? (name ++ ['=']) lead).isSome then value :: attributeValues name rest
    else attributeValues name rest
  | _ => []

/-- The paths that a manifest names, with their entities read. -/
def includes (text : String) : List String :=
  (attributeValues "Include".toList (Text.splitOn '"' text.toList)).map fun value =>
    String.ofList (Text.Xml.unescape value)

theorem attributeValues_cons {name lead value : List Char} {rest : List (List Char)}
    (named : ∃ front, lead = front ++ (name ++ ['='])) :
    attributeValues name (lead :: value :: rest) = value :: attributeValues name rest := by
  obtain ⟨front, spelled⟩ := named
  rw [attributeValues, Text.before?_eq_some_iff.mpr spelled, Option.isSome_some, if_pos rfl]

theorem toList_item (path : String) : (item path).toList =
    "        <Compile Include=".toList ++
      '"' :: (Text.Xml.escape path.toList ++ '"' :: "/>\n".toList) := by
  have parts : item path =
      "        <Compile Include=\"" ++ String.ofList (Text.Xml.escape path.toList) ++ "\"/>\n" :=
    rfl
  rw [parts, String.toList_append, String.toList_append, String.toList_ofList]
  simp

/-- The items of a manifest, behind a text without quotes. -/
theorem attributeValues_items (paths : List String) {lead tail : List Char} (free : '"' ∉ lead)
    (freeToo : '"' ∉ tail) :
    attributeValues "Include".toList
        (Text.splitOn '"' (lead ++ ((String.join (paths.map item)).toList ++ tail))) =
      paths.map fun path => Text.Xml.escape path.toList := by
  induction paths generalizing lead with
  | nil =>
    have nothing : (String.join (([] : List String).map item)).toList = [] := rfl
    rw [nothing, List.nil_append, Text.splitOn_of_not_mem (List.not_mem_append free freeToo)]
    rfl
  | cons path paths ih =>
    have cut : lead ++ ((String.join ((path :: paths).map item)).toList ++ tail) =
        (lead ++ "        <Compile Include=".toList) ++ '"' :: (Text.Xml.escape path.toList ++
          '"' :: ("/>\n".toList ++ ((String.join (paths.map item)).toList ++ tail))) := by
      rw [List.map_cons, String.join_cons, String.toList_append, toList_item]
      simp only [List.append_assoc, List.cons_append]
    have before : '"' ∉ lead ++ "        <Compile Include=".toList :=
      List.not_mem_append free (by decide)
    have opened : ∃ front, lead ++ "        <Compile Include=".toList =
        front ++ ("Include".toList ++ ['=']) :=
      ⟨lead ++ "        <Compile ".toList, by simp⟩
    rw [cut, Text.splitOn_append_cons, Text.splitOn_of_not_mem before, Text.splitOn_append_cons,
      Text.splitOn_of_not_mem (Text.Xml.not_mem_escape (by decide) _), List.singleton_append,
      List.singleton_append, attributeValues_cons opened, ih (by decide), List.map_cons]

theorem toList_text (paths : List String) : (text paths).toList =
    "<?xml version=".toList ++ '"' :: ("1.0".toList ++
      '"' :: (" ?>\n<Project>\n    <ItemGroup>\n".toList ++
        ((String.join ((Text.sortedOnce paths).map item)).toList ++
          "    </ItemGroup>\n</Project>\n".toList))) := by
  have parts (a b c : String) : (a ++ b ++ c).toList = a.toList ++ (b.toList ++ c.toList) := by
    rw [String.toList_append, String.toList_append, List.append_assoc]
  have heading (rest : List Char) :
      "<?xml version=\"1.0\" ?>\n<Project>\n    <ItemGroup>\n".toList ++ rest =
        "<?xml version=".toList ++ '"' :: ("1.0".toList ++
          '"' :: (" ?>\n<Project>\n    <ItemGroup>\n".toList ++ rest)) := by simp
  exact (parts _ _ _).trans (heading _)

/-- A manifest names the paths of which it was made, in order and each of them once. -/
theorem includes_text (paths : List String) : includes (text paths) = Text.sortedOnce paths := by
  have values : attributeValues "Include".toList (Text.splitOn '"' (text paths).toList) =
      (Text.sortedOnce paths).map fun path => Text.Xml.escape path.toList := by
    rw [toList_text]
    have other : Text.before? ("Include".toList ++ ['=']) "<?xml version=".toList = none := by
      decide
    have free : '"' ∉ "<?xml version=".toList ∧ '"' ∉ "1.0".toList := by decide
    rw [Text.splitOn_append_cons, Text.splitOn_of_not_mem free.1, Text.splitOn_append_cons,
      Text.splitOn_of_not_mem free.2, List.singleton_append, List.singleton_append, attributeValues,
      other, Option.isSome_none, if_neg Bool.false_ne_true]
    exact attributeValues_items _ (by decide) (by decide)
  rw [includes, values, List.map_map]
  have same : ((fun value => String.ofList (Text.Xml.unescape value)) ∘
      fun path : String => Text.Xml.escape path.toList) = id := by
    funext path
    rw [Function.comp_apply, Text.Xml.unescape_escape, String.ofList_toList, id]
  rw [same, List.map_id]

end Manifest

end Bindery
