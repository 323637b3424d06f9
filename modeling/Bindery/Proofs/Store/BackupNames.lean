import Bindery.Path
import Bindery.Proofs.Text.Splitting

/-! # Names of backups

The name of a backup is what a path is shown as, with an ending that has no slash in it. Such an
ending goes to the last component, which is then a name. Main statements: every attempt gives
another path (`same_backup_iff`), and each of them has the ending of backups (`isBackup_backup`).
-/

namespace Bindery

/-- An ending without the separator goes to the last piece. -/
theorem Text.splitOn_append_ending {α : Type} [DecidableEq α] (mark : α) (text : List α) :
    ∃ front last, ∀ ending, mark ∉ ending →
      splitOn mark (text ++ ending) = front ++ [last ++ ending] := by
  induction text with
  | nil => exact ⟨[], [], fun ending free => splitOn_of_not_mem free⟩
  | cons c text ih =>
    obtain ⟨front, last, split⟩ := ih
    by_cases cut : c = mark
    · refine ⟨[] :: front, last, fun ending free => ?_⟩
      simp only [List.cons_append, splitOn, cut, if_true, split ending free]
    cases front with
    | nil =>
      refine ⟨[], c :: last, fun ending free => ?_⟩
      simp only [List.cons_append, splitOn, cut, if_false, split ending free, List.nil_append]
    | cons piece front =>
      refine ⟨(c :: piece) :: front, last, fun ending free => ?_⟩
      simp only [List.cons_append, splitOn, cut, if_false, split ending free]

/-- A piece that is longer than two dots stands for a name. -/
theorem Component.ofPiece?_of_long (atStart : Bool) {piece : RawText} (long : 2 < piece.length) :
    ofPiece? atStart piece = some (.normal piece) := by
  have filled : piece.isEmpty = false := by
    cases piece with
    | nil => simp at long
    | cons => rfl
  have notCurrent : piece ≠ [.char '.'] := by
    rintro rfl
    simp at long
  have notParent : piece ≠ [.char '.', .char '.'] := by
    rintro rfl
    simp at long
  simp only [ofPiece?, filled, notCurrent, notParent, Bool.false_eq_true, if_false]

namespace Path

/-- An ending without slashes leaves a path where it starts. -/
theorem isAbsolute_append (spelling : RawText) {ending : RawText} (free : .char '/' ∉ ending) :
    isAbsolute ⟨spelling ++ ending⟩ = isAbsolute ⟨spelling⟩ := by
  rw [isAbsolute, isAbsolute]
  cases spelling with
  | cons glyph rest => rfl
  | nil =>
    cases ending with
    | nil => rfl
    | cons glyph rest =>
      have differs := (List.ne_and_not_mem_of_not_mem_cons free).1
      simp [differs.symm]

/-- The components of a path with an ending that has no slash and is longer than two dots: all but
the last one do not depend on the ending. -/
theorem components_append_ending (spelling : RawText) : ∃ front last, ∀ ending : RawText,
    .char '/' ∉ ending → 2 < ending.length →
      components ⟨spelling ++ ending⟩ = front ++ [.normal (last ++ ending)] := by
  obtain ⟨front, last, split⟩ := Text.splitOn_append_ending (.char '/') spelling
  have named (ending : RawText) (atStart : Bool) (long : 2 < ending.length) :
      Component.ofPiece? atStart (last ++ ending) = some (.normal (last ++ ending)) := by
    refine Component.ofPiece?_of_long atStart ?_
    rw [List.length_append]
    omega
  cases absolute : isAbsolute ⟨spelling⟩ with
  | true =>
    refine ⟨.root :: front.filterMap (Component.ofPiece? false), last, fun ending free long => ?_⟩
    simp only [components, isAbsolute_append spelling free, absolute, if_true, split _ free,
      List.filterMap_append, List.filterMap_cons, List.filterMap_nil, named ending false long,
      List.cons_append]
  | false =>
    cases front with
    | nil =>
      refine ⟨[], last, fun ending free long => ?_⟩
      simp only [components, isAbsolute_append spelling free, absolute, Bool.false_eq_true,
        if_false, split _ free, List.nil_append, List.filterMap_nil, List.append_nil,
        named ending true long, Option.toList_some]
    | cons piece front =>
      refine ⟨(Component.ofPiece? true piece).toList ++ front.filterMap (Component.ofPiece? false),
        last, fun ending free long => ?_⟩
      simp only [components, isAbsolute_append spelling free, absolute, Bool.false_eq_true,
        if_false, split _ free, List.cons_append, List.filterMap_append, List.filterMap_cons,
        List.filterMap_nil, named ending false long, List.append_assoc]

/-- What a backup's name has after the spelling of the path. -/
def backupEnding (seconds attempt : Nat) : String :=
  "." ++ toString seconds ++ (if attempt = 0 then "" else "." ++ toString attempt) ++ ".bak"

theorem backup_eq_append_ending (path : Path) (seconds attempt : Nat) :
    path.backup seconds attempt =
      ⟨RawText.ofText path.text ++ RawText.ofText (backupEnding seconds attempt)⟩ := by
  rw [← RawText.ofText_append]
  by_cases first : attempt = 0
  · simp only [backup, backupEnding, first, if_true, String.append_assoc, String.empty_append]
    rfl
  · simp only [backup, backupEnding, first, if_false, String.append_assoc]
    rfl

theorem not_mem_toString {c : Char} (other : c.isDigit = false) (n : Nat) :
    c ∉ (toString n).toList := by
  intro inside
  rw [Nat.toString_eq_repr, Nat.toList_repr] at inside
  rw [Nat.isDigit_of_mem_toDigits (by decide) (by decide) inside] at other
  contradiction

theorem toString_inj {m n : Nat} (same : (toString m).toList = (toString n).toList) : m = n := by
  rw [Nat.toString_eq_repr, Nat.toString_eq_repr, Nat.toList_repr, Nat.toList_repr] at same
  rw [← @Nat.ofDigitChars_ten_toDigits m, same, Nat.ofDigitChars_ten_toDigits]

theorem toList_backupEnding (seconds attempt : Nat) : (backupEnding seconds attempt).toList =
    '.' :: (toString seconds).toList ++
      (if attempt = 0 then [] else '.' :: (toString attempt).toList) ++ ['.', 'b', 'a', 'k'] := by
  simp only [backupEnding, String.toList_append, apply_ite String.toList]
  rfl

theorem slash_not_mem_backupEnding (seconds attempt : Nat) :
    '/' ∉ (backupEnding seconds attempt).toList := by
  have inSeconds := not_mem_toString (c := '/') (by decide) seconds
  have inAttempt := not_mem_toString (c := '/') (by decide) attempt
  rw [toList_backupEnding]
  split <;> simp_all

theorem length_backupEnding (seconds attempt : Nat) :
    2 < (backupEnding seconds attempt).length := by
  rw [← String.length_toList, toList_backupEnding]
  simp only [List.length_append, List.length_cons]
  omega

theorem backupEnding_inj {seconds m n : Nat}
    (equal : backupEnding seconds m = backupEnding seconds n) : m = n := by
  have spelled := congrArg String.toList equal
  simp only [toList_backupEnding, List.append_assoc, List.append_cancel_left_eq] at spelled
  rw [List.append_cancel_right_eq] at spelled
  by_cases first : m = 0 <;> by_cases second : n = 0
  · rw [first, second]
  · simp [first, second] at spelled
  · simp [first, second] at spelled
  · simp only [first, second, if_false, List.cons.injEq, true_and] at spelled
    exact toString_inj spelled

/-- The names of all backups of a path stand in one directory, and differ in their endings. -/
theorem components_backup (path : Path) : ∃ front last, ∀ seconds attempt,
    (path.backup seconds attempt).components =
      front ++ [.normal (last ++ RawText.ofText (backupEnding seconds attempt))] := by
  obtain ⟨front, last, named⟩ := components_append_ending (RawText.ofText path.text)
  refine ⟨front, last, fun seconds attempt => ?_⟩
  have free : .char '/' ∉ RawText.ofText (backupEnding seconds attempt) := by
    simpa [RawText.ofText] using slash_not_mem_backupEnding seconds attempt
  have long : 2 < (RawText.ofText (backupEnding seconds attempt)).length := by
    rw [RawText.ofText, List.length_map, String.length_toList]
    exact length_backupEnding seconds attempt
  rw [backup_eq_append_ending, named _ free long]

/-- Every attempt gives another path. -/
theorem same_backup_iff (path : Path) {seconds m n : Nat} :
    (path.backup seconds m).same (path.backup seconds n) = true ↔ m = n := by
  constructor
  · intro same
    obtain ⟨front, last, named⟩ := path.components_backup
    have components := of_decide_eq_true same
    simp only [named, List.append_cancel_left_eq, List.cons.injEq, Component.normal.injEq,
      and_true] at components
    exact backupEnding_inj (RawText.ofText_inj.mp components)
  · rintro rfl
    exact decide_eq_true rfl

/-- What stands after the last dot of a name, where something stands before it. -/
theorem extension?_eq_bak {path : Path} {front : RawText} {glyph : Glyph}
    (named : path.fileName? = some (glyph :: front ++ RawText.ofText ".bak")) :
    path.extension? = some (RawText.ofText "bak") := by
  have back : (glyph :: front ++ RawText.ofText ".bak").reverse =
      .char 'k' :: .char 'a' :: .char 'b' :: .char '.' :: (glyph :: front).reverse := by
    rw [List.reverse_append]
    rfl
  have filled : (glyph :: front).reverse ≠ [] := by simp
  obtain ⟨last, rest, turned⟩ := List.exists_cons_of_ne_nil filled
  rw [turned] at back
  simp only [extension?, named, Option.bind_eq_bind, Option.bind_some, back]
  rfl

/-- What an archive is put under has the ending of backups. -/
theorem isBackup_backup (path : Path) (seconds attempt : Nat) :
    (path.backup seconds attempt).isBackup = true := by
  obtain ⟨front, last, named⟩ := path.components_backup
  have name : (path.backup seconds attempt).fileName? =
      some (last ++ RawText.ofText (backupEnding seconds attempt)) := by
    rw [fileName?, named, List.getLast?_concat]
  have spelled : ∃ glyph before, last ++ RawText.ofText (backupEnding seconds attempt) =
      glyph :: before ++ RawText.ofText ".bak" := by
    have dot : RawText.ofText "." = [.char '.'] := rfl
    rw [backupEnding, RawText.ofText_append, RawText.ofText_append, RawText.ofText_append, dot,
      ← List.append_assoc, ← List.append_assoc, ← List.append_assoc]
    cases last with
    | nil => exact ⟨_, _, rfl⟩
    | cons glyph last => exact ⟨glyph, _, rfl⟩
  obtain ⟨glyph, before, spelled⟩ := spelled
  rw [spelled] at name
  rw [isBackup, extension?_eq_bak name]
  rfl

end Path

end Bindery
