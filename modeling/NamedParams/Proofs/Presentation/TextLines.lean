import NamedParams.Proofs.Text.Separators
import NamedParams.Terminal.Style

namespace NamedParams

/-- The lines of a text. -/
def linesOf (text : String) : List String :=
  (text.toList.splitOn '\n').map String.ofList

theorem intercalate_linesOf (text : String) : "\n".intercalate (linesOf text) = text :=
  Text.intercalate_segments rfl text

theorem linesOf_injective {text other : String} (hlines : linesOf text = linesOf other) :
    text = other := by
  rw [← intercalate_linesOf text, hlines, intercalate_linesOf]

theorem linesOf_append (first second : String) :
    linesOf (first ++ "\n" ++ second) = linesOf first ++ linesOf second := by
  have hchars : (first ++ "\n" ++ second).toList = first.toList ++ '\n' :: second.toList := by
    simp
  rw [linesOf, hchars, List.splitOn_append_cons_self, List.map_append, linesOf, linesOf]

theorem linesOf_intercalate {pieces : List String} (hpieces : pieces ≠ []) :
    linesOf ("\n".intercalate pieces) = pieces.flatMap linesOf := by
  induction pieces with
  | nil => exact absurd rfl hpieces
  | cons piece rest ih =>
    by_cases hrest : rest = []
    · subst hrest
      simp
    · rw [String.intercalate_cons_of_ne_nil hrest, linesOf_append, ih hrest, List.flatMap_cons]

/-- A text on one line. -/
def IsLine (text : String) : Prop :=
  '\n' ∉ text.toList

instance (text : String) : Decidable (IsLine text) :=
  inferInstanceAs (Decidable (_ ∉ _))

theorem IsLine.linesOf {text : String} (hline : IsLine text) : linesOf text = [text] := by
  rw [NamedParams.linesOf, List.splitOn_eq_singleton hline, List.map_singleton,
    String.ofList_toList]

theorem IsLine.append {first second : String} (hfirst : IsLine first) (hsecond : IsLine second) :
    IsLine (first ++ second) := by
  rw [IsLine, String.toList_append, List.mem_append, not_or]
  exact ⟨hfirst, hsecond⟩

theorem isLine_toString (n : Nat) : IsLine (toString n) := by
  intro hmem
  rw [Nat.toString_eq_repr, Nat.toList_repr] at hmem
  exact absurd (Nat.isDigit_of_mem_toDigits (by decide) (by decide) hmem) (by decide)

theorem Style.newline_not_mem_codes (style : Style) : '\n' ∉ style.start ∧ '\n' ∉ style.stop := by
  cases style <;> decide

theorem Style.newline_not_mem_paintInside (style : Style) (skip : Nat) {text : List Char}
    (hline : '\n' ∉ text) : '\n' ∉ style.paintInside skip text := by
  obtain ⟨hstart, -⟩ := style.newline_not_mem_codes
  fun_induction paintInside style skip text with
  | case1 => simp at hline
  | case2 => simp at hline
  | case3 _ c rest _ _ _ _ ih =>
    obtain ⟨hc, hrest⟩ := not_or.mp (mt List.mem_cons.mpr hline)
    simp [hc, hstart, ih hrest]
  | case4 _ c rest _ _ _ _ ih =>
    obtain ⟨hc, hrest⟩ := not_or.mp (mt List.mem_cons.mpr hline)
    simp [hc, ih hrest]
  | case5 => exact hline

/-- A style stays on the line of its text. -/
theorem IsLine.paint {text : String} (hline : IsLine text) (color : Bool) (style : Style) :
    IsLine (paint color style text) := by
  rw [NamedParams.paint]
  split
  · obtain ⟨hstart, hstop⟩ := style.newline_not_mem_codes
    simp [IsLine, hstart, hstop, style.newline_not_mem_paintInside 0 hline]
  · exact hline

end NamedParams
