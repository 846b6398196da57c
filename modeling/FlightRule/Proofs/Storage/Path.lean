import FlightRule.Storage.DiskPath
import Mathlib.Data.List.DropRight

/-!
# Paths and their parents

The parent of a path that can be looked up can be looked up as well (`isValid_parent`).  A path
that does not end in dots ends in a name, and this is not the one that leads back
(`exists_lastName`).
-/

namespace FlightRule.DiskPath

theorem upToName_isPrefix (parts : List String) : upToName parts <+: parts :=
  List.rdropWhile_prefix _ parts

/-- The parts of the parent are the first parts of a path. -/
theorem parts_parent_isPrefix (path : DiskPath) : path.parent.parts <+: path.parts := by
  have withoutLast : (upToName path.parts).dropLast <+: upToName path.parts :=
    List.dropLast_prefix _
  exact (upToName_isPrefix _).trans (withoutLast.trans (upToName_isPrefix _))

/-- The text of the first parts of a path is no longer than its own and has no other characters. -/
theorem text_of_isPrefix
    {path other : DiskPath}
    (isPrefix : path.parts <+: other.parts) :
    path.text.utf8ByteSize ≤ other.text.utf8ByteSize ∧
      ∀ c ∈ path.text.toList, c ∈ other.text.toList := by
  obtain ⟨rest, split⟩ := isPrefix
  unfold text
  rw [← split]
  by_cases noParts : path.parts = []
  · simp [noParts]
  · by_cases noRest : rest = []
    · simp [noRest]
    · rw [String.intercalate_append_of_ne_nil noParts noRest]
      constructor
      · simp only [String.utf8ByteSize_append]
        omega
      · intro c member
        rw [String.toList_append, String.toList_append]
        exact List.mem_append_left _ (List.mem_append_left _ member)

/-- A path can be looked up if its text is short enough and has no null character. -/
theorem isValid_iff {path : DiskPath} :
    path.isValid = true ↔
      path.text.utf8ByteSize ≤ pathLimit ∧ '\x00' ∉ path.text.toList := by
  simp only [isValid, Bool.and_eq_true, decide_eq_true_eq, Bool.not_eq_true',
    String.contains_char_eq, decide_eq_false_iff_not]

/-- The parent of a path that can be looked up can be looked up. -/
theorem isValid_parent {path : DiskPath} (valid : path.isValid = true) :
    path.parent.isValid = true := by
  obtain ⟨short, noNull⟩ := isValid_iff.1 valid
  obtain ⟨notLonger, noOtherChar⟩ := text_of_isPrefix path.parts_parent_isPrefix
  exact isValid_iff.2 ⟨Nat.le_trans notLonger short, fun member => noNull (noOtherChar _ member)⟩

/-- The names of the parent are the first ones of the path. -/
theorem names_parent_isPrefix (path : DiskPath) : path.parent.names <+: path.names := by
  rw [names_parent]
  exact List.dropLast_prefix _

/-- A path that does not end in dots ends in a name that leads into the directory before it. -/
theorem exists_lastName
    {path : DiskPath}
    (notDots : path.endsInDots = false) :
    ∃ name, name ≠ ".." ∧ path.names = path.names.dropLast ++ [name] := by
  cases found : path.parts.reverse.find? (· != "") with
  | none => simp [endsInDots, found] at notDots
  | some part =>
      obtain ⟨nonempty, behind, before, split, behindEmpty⟩ := List.find?_eq_some_iff_append.1 found
      obtain ⟨notDot, notDotDot⟩ : part ≠ "." ∧ part ≠ ".." := by
        simpa [endsInDots, found] using notDots
      have parts_eq : path.parts = before.reverse ++ part :: behind.reverse := by
        rw [← List.reverse_reverse path.parts, split]
        simp
      have isName_part : isName part = true := by simpa [isName, notDot] using nonempty
      have noneBehind : behind.reverse.filter isName = [] := by
        rw [List.filter_eq_nil_iff]
        intro other member
        have empty : other = "" := by simpa using behindEmpty other (List.mem_reverse.1 member)
        simp [isName, empty]
      have names_eq : path.names = before.reverse.filter isName ++ [part] := by
        rw [names, parts_eq, List.filter_append, List.filter_cons_of_pos isName_part, noneBehind]
      exact ⟨part, notDotDot, by rw [names_eq, List.dropLast_concat]⟩

/-- A path that is not that of a directory does not end in dots. -/
theorem endsInDots_of_not_isOfDirectory
    {path : DiskPath}
    (notOfDirectory : path.isOfDirectory = false) :
    path.endsInDots = false := by
  simp only [isOfDirectory, Bool.or_eq_false_iff] at notOfDirectory
  exact notOfDirectory.2

end FlightRule.DiskPath
