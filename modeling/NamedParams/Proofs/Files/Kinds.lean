import Mathlib.Data.List.Basic
import NamedParams.FileTree

namespace NamedParams

namespace FileTree

theorem isBelow_iff {directory place : List String} :
    isBelow directory place = true ↔ ∃ names, names ≠ [] ∧ place = directory ++ names := by
  rw [isBelow, Bool.and_eq_true, List.isPrefixOf_iff_prefix, decide_eq_true_iff]
  constructor
  · rintro ⟨⟨names, rfl⟩, hlength⟩
    refine ⟨names, ?_, rfl⟩
    rintro rfl
    simp at hlength
  · rintro ⟨names, hne, rfl⟩
    have hpos := List.length_pos_iff.mpr hne
    exact ⟨List.prefix_append _ _, by simp [hpos]⟩

/-- What lies below a place that is below a file lies below the file. -/
theorem isBelow_of_prefix {directory place below : List String}
    (hbelow : isBelow directory place = true) (hbegins : place <+: below) :
    isBelow directory below = true := by
  obtain ⟨names, hne, rfl⟩ := isBelow_iff.mp hbelow
  obtain ⟨more, rfl⟩ := hbegins
  exact isBelow_iff.mpr ⟨names ++ more, by simp [hne], List.append_assoc _ _ _⟩

theorem isBelow_concat_iff {directory place : List String} {name : String} :
    isBelow directory (place ++ [name]) = true ↔ directory <+: place := by
  rw [isBelow, Bool.and_eq_true, List.isPrefixOf_iff_prefix, decide_eq_true_iff,
    List.prefix_concat_iff]
  constructor
  · rintro ⟨rfl | hbegins, hlength⟩
    · exact absurd hlength (Nat.lt_irrefl _)
    · exact hbegins
  · intro hbegins
    have hlength := hbegins.length_le
    exact ⟨.inr hbegins, by simp; omega⟩

variable {tree : FileTree} {place : List String}

theorem kindOf_eq_notDirectory_iff :
    tree.kindOf place = .error .notDirectory ↔ ∃ file ∈ tree.files, isBelow file.1 place = true := by
  rw [kindOf, ← List.any_eq_true]
  split_ifs with habove <;> simp [habove]

theorem any_isBelow_eq_false_iff :
    (tree.files.any fun file => isBelow file.1 place) = false ↔
      ∀ file ∈ tree.files, isBelow file.1 place = false := by
  simp [List.any_eq_false]

theorem kindOf_eq_file_iff :
    tree.kindOf place = .ok .file ↔
      (∀ file ∈ tree.files, isBelow file.1 place = false) ∧ (tree.read? place).isSome = true := by
  rw [kindOf, ← any_isBelow_eq_false_iff]
  generalize (tree.files.any fun file => isBelow file.1 place) = isFileAbove
  cases isFileAbove <;> cases tree.read? place <;> cases tree.isDirectory place <;> simp

theorem kindOf_eq_directory_iff :
    tree.kindOf place = .ok .directory ↔
      (∀ file ∈ tree.files, isBelow file.1 place = false) ∧ tree.read? place = none ∧
        tree.isDirectory place = true := by
  rw [kindOf, ← any_isBelow_eq_false_iff]
  generalize (tree.files.any fun file => isBelow file.1 place) = isFileAbove
  cases isFileAbove <;> cases tree.read? place <;> cases tree.isDirectory place <;> simp

/-- A way that runs through a file runs through it however far it leads. -/
theorem kindOf_notDirectory_of_prefix {below : List String}
    (hkind : tree.kindOf place = .error .notDirectory) (hbegins : place <+: below) :
    tree.kindOf below = .error .notDirectory := by
  obtain ⟨file, hfile, hbelow⟩ := kindOf_eq_notDirectory_iff.mp hkind
  exact kindOf_eq_notDirectory_iff.mpr ⟨file, hfile, isBelow_of_prefix hbelow hbegins⟩

end FileTree

theorem isSome_read?_of_kindOf {tree : FileTree} {place : List String}
    (hkind : tree.kindOf place = .ok .file) : (tree.read? place).isSome = true :=
  (FileTree.kindOf_eq_file_iff.mp hkind).2

end NamedParams
