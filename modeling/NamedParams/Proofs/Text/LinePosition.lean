import Mathlib.Data.List.DropRight
import Mathlib.Data.List.Infix
import Mathlib.Data.Prod.Lex
import NamedParams.Text.Position

namespace NamedParams.Text

/-- The part of a line in front of a place: what follows the last line feed. -/
def currentLine (before : List Char) : List Char :=
  before.rtakeWhile (· != '\n')

/-- The part of a line on which columns are counted: what follows the last line feed or carriage
    return. -/
def currentColumns (before : List Char) : List Char :=
  before.rtakeWhile fun c => c != '\n' && c != '\r'

/-- The position after some characters when only line feeds end lines and begin columns. -/
def linePosition (before : List Char) : Position :=
  ⟨units before, 1 + before.count '\n', 1 + units (currentLine before)⟩

/-- In a text of lines, a carriage return only stands in front of a line feed. -/
def ReturnsEndLines (text : List Char) : Prop :=
  ∀ rest, '\r' :: rest <:+ text → rest.head? = some '\n'

instance : DecidablePred ReturnsEndLines := fun text =>
  decidable_of_iff
    (∀ part ∈ text.tails, part.head? = some '\r' → part.tail.head? = some '\n') <| by
    simp only [List.mem_tails]
    constructor
    · exact fun hparts rest hrest => hparts _ hrest rfl
    · intro hlines part hpart hreturn
      obtain ⟨rest, rfl⟩ := List.head?_eq_some_iff.mp hreturn
      exact hlines rest hpart

theorem not_mem_currentLine (before : List Char) : '\n' ∉ currentLine before := by
  intro hmem
  simpa using List.mem_rtakeWhile_imp hmem

/-- More text without a line feed continues the line. -/
theorem currentLine_append {more : List Char} (hmore : '\n' ∉ more) (before : List Char) :
    currentLine (before ++ more) = currentLine before ++ more := by
  induction more using List.reverseRecOn with
  | nil => simp
  | append_singleton more c ih =>
    rw [List.mem_append, List.mem_singleton, not_or] at hmore
    have hc : (c != '\n') = true := bne_iff_ne.mpr (Ne.symm hmore.2)
    have hline : currentLine ((before ++ more) ++ [c]) = currentLine (before ++ more) ++ [c] :=
      List.rtakeWhile_concat_pos _ _ _ hc
    rw [← List.append_assoc, hline, ih hmore.1, List.append_assoc]

section Walk

@[simp] theorem Position.past_offset (place : Position) (c : Char) :
    (place.past c).offset = place.offset + unitsOf c := by
  unfold past
  split
  · rfl
  · split <;> rfl

/-- The characters of a text in front of a place move the position past themselves. -/
theorem Position.walk_append (place : Position) (before after : List Char) :
    place.walk (place.offset + units before) (before ++ after) = before.foldl past place := by
  induction before generalizing place with
  | nil => cases after <;> simp [walk]
  | cons c rest ih =>
    have hc := unitsOf_pos c
    have hfar : ¬ place.offset + units (c :: rest) ≤ place.offset := by
      rw [units_cons]
      omega
    rw [List.cons_append, walk, if_neg hfar, List.foldl_cons, ← ih, past_offset, units_cons,
      Nat.add_assoc]

/-- From the start of a text on, lines are counted by line feeds, and columns from the last line
    feed or carriage return. -/
theorem Position.foldl_past (before : List Char) :
    before.foldl past origin =
      ⟨units before, 1 + before.count '\n', 1 + units (currentColumns before)⟩ := by
  induction before using List.reverseRecOn with
  | nil => rfl
  | append_singleton before c ih =>
    rw [List.foldl_concat, ih, past, currentColumns, currentColumns, units_append]
    by_cases hfeed : c = '\n'
    · subst hfeed
      rw [if_pos rfl, List.rtakeWhile_concat_neg _ _ _ (by decide)]
      simp [Nat.add_assoc]
    · rw [if_neg hfeed]
      by_cases hreturn : c = '\r'
      · subst hreturn
        rw [if_pos rfl, List.rtakeWhile_concat_neg _ _ _ (by decide)]
        simp
      · rw [if_neg hreturn, List.rtakeWhile_concat_pos _ _ _ (by simp [hfeed, hreturn])]
        simp [hfeed, Nat.add_assoc]

end Walk

theorem positionAt_units (before after : List Char) :
    positionAt (before ++ after) (units before) =
      ⟨units before, 1 + before.count '\n', 1 + units (currentColumns before)⟩ := by
  have hwalk := Position.origin.walk_append before after
  rwa [Position.foldl_past, Position.origin, Nat.zero_add] at hwalk

/-- Columns start over in the middle of a line exactly where there is a carriage return. -/
theorem currentColumns_eq (before : List Char) :
    currentColumns before = (currentLine before).rtakeWhile (· != '\r') := by
  rw [currentColumns, currentLine, List.rtakeWhile, List.rtakeWhile, List.rtakeWhile,
    List.reverse_reverse, List.takeWhile_takeWhile]
  congr 2
  funext c
  rw [Bool.eq_iff_iff, decide_eq_true_iff, Bool.and_eq_true, and_comm]

theorem units_eq_iff_of_suffix {part text : List Char} (hpart : part <:+ text) :
    units part = units text ↔ part = text := by
  obtain ⟨front, rfl⟩ := hpart
  constructor
  · intro hunits
    have hnone : front = [] := by
      by_contra hsome
      have hpos := units_pos hsome
      rw [units_append] at hunits
      omega
    rw [hnone, List.nil_append]
  · exact fun hsame => congrArg units hsame

/-- A position is one on lines alone unless a carriage return stands in front of it in its line. -/
theorem positionAt_eq_linePosition_iff {before after : List Char} :
    positionAt (before ++ after) (units before) = linePosition before ↔
      '\r' ∉ currentLine before := by
  have hsame : units (currentColumns before) = units (currentLine before) ↔
      '\r' ∉ currentLine before := by
    rw [currentColumns_eq, units_eq_iff_of_suffix (List.rtakeWhile_suffix _ _),
      List.rtakeWhile_eq_self_iff]
    simp only [bne_iff_ne]
    exact ⟨fun hnone hreturn => hnone _ hreturn rfl, fun hnone c hc heq => hnone (heq ▸ hc)⟩
  rw [positionAt_units, linePosition, Position.mk.injEq, ← hsame]
  simp only [true_and, Nat.add_left_cancel_iff]

/-- In a text of lines, no carriage return stands in a line in front of a place, unless the place
    is in the middle of the end of a line. -/
theorem not_mem_currentLine_of_returnsEndLines {before after : List Char}
    (hlines : ReturnsEndLines (before ++ after)) (hafter : after.head? ≠ some '\n') :
    '\r' ∉ currentLine before := by
  intro hreturn
  obtain ⟨front, hfront⟩ : currentLine before <:+ before := List.rtakeWhile_suffix _ _
  obtain ⟨first, rest, hline⟩ := List.append_of_mem hreturn
  have hrest : '\r' :: (rest ++ after) <:+ before ++ after := by
    refine ⟨front ++ first, ?_⟩
    rw [← hfront, hline]
    simp
  have hfeed := hlines _ hrest
  cases rest with
  | nil => exact hafter hfeed
  | cons c rest =>
    have hc : c = '\n' := by simpa using hfeed
    refine not_mem_currentLine before ?_
    rw [hline, hc]
    simp

section Order

/-- What positions on lines are compared by: the line, and then the column. -/
def Position.lineKey (place : Position) : ℕ ×ₗ ℕ :=
  toLex (place.line, place.column)

/-- Positions on lines come later with every character. -/
theorem lineKey_linePosition_lt (before : List Char) {more : List Char} (hmore : more ≠ []) :
    (linePosition before).lineKey < (linePosition (before ++ more)).lineKey := by
  rw [Position.lineKey, Position.lineKey, Prod.Lex.toLex_lt_toLex, linePosition, linePosition,
    List.count_append]
  by_cases hfeed : '\n' ∈ more
  · have hcount : 0 < more.count '\n' := List.count_pos_iff.mpr hfeed
    left
    dsimp only
    omega
  · have hunits := units_pos hmore
    have hcolumn : units (currentLine (before ++ more)) =
        units (currentLine before) + units more := by
      rw [currentLine_append hfeed, units_append]
    rw [List.count_eq_zero_of_not_mem hfeed]
    right
    dsimp only
    omega

theorem offset_linePosition_lt (before : List Char) {more : List Char} (hmore : more ≠ []) :
    (linePosition before).offset < (linePosition (before ++ more)).offset := by
  have hunits := units_pos hmore
  rw [linePosition, linePosition, units_append]
  dsimp only
  omega

/-- In a text, offsets are ordered like lines with their columns. -/
theorem linePosition_order {text : List Char} {a b : List Char} (ha : a <+: text)
    (hb : b <+: text) :
    ((linePosition a).offset < (linePosition b).offset ↔
        (linePosition a).lineKey < (linePosition b).lineKey) ∧
      ((linePosition a).offset = (linePosition b).offset ↔
        (linePosition a).lineKey = (linePosition b).lineKey) := by
  -- Of two places in a text, one is in front of the other.
  obtain ⟨more, rfl⟩ | ⟨more, rfl⟩ := List.prefix_or_prefix_of_prefix ha hb
  · by_cases hmore : more = []
    · simp [hmore]
    · have hoffset := offset_linePosition_lt a hmore
      have hkey := lineKey_linePosition_lt a hmore
      exact ⟨iff_of_true hoffset hkey, iff_of_false hoffset.ne hkey.ne⟩
  · by_cases hmore : more = []
    · simp [hmore]
    · have hoffset := offset_linePosition_lt b hmore
      have hkey := lineKey_linePosition_lt b hmore
      exact ⟨iff_of_false hoffset.not_gt hkey.not_gt, iff_of_false hoffset.ne' hkey.ne'⟩

end Order

end NamedParams.Text
