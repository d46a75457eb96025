import NamedParams.Proofs.Outcomes
import NamedParams.Terminal.Table

namespace NamedParams.Terminal

/-- A cell fits into its column if none of its lines is wider than that. Lines are cut to the width
    of the column, but a wide character beyond the basic plane takes one column where they are cut,
    and two columns where they are aligned. -/
def Column.Fits (column : Column) (cell : List Char) : Prop :=
  ∀ line ∈ wrapCell column cell, Terminal.width line ≤ column.width

instance (column : Column) (cell : List Char) : Decidable (column.Fits cell) :=
  inferInstanceAs
    (Decidable (∀ line ∈ wrapCell column cell, Terminal.width line ≤ column.width))

variable {columns : List Column}

theorem exists_align_iff {column : Column} {line : List Char} :
    (∃ aligned, align column line = .ok aligned) ↔ width line ≤ column.width := by
  simp only [align]
  split
  case isTrue hwide => simpa using hwide
  case isFalse hnarrow => simpa using hnarrow

theorem exists_tableLine_iff {lines : List (List Char)} :
    (∃ drawn, tableLine columns lines = .ok drawn) ↔
      ∀ pair ∈ columns.zip lines, width pair.2 ≤ pair.1.width := by
  simp only [← exists_align_iff]
  rw [← exists_mapM_eq_ok_iff]
  exact exists_bind_eq_ok_iff

/-- The lines of a cell are those at the heights up to its own, and blank above that. -/
theorem forall_mem_iff_forall_getD {P : List Char → Prop} (hblank : P []) {lines : List (List Char)}
    {height : Nat} (hheight : lines.length ≤ height) :
    (∀ line ∈ lines, P line) ↔ ∀ i < height, P (lines[i]?.getD []) := by
  constructor
  · intro hlines i _
    cases hline : lines[i]? with
    | none => exact hblank
    | some line => exact hlines line (List.mem_of_getElem? hline)
  · intro hlines line hline
    obtain ⟨i, hi, rfl⟩ := List.getElem_of_mem hline
    have hthere := hlines i (by omega)
    rwa [List.getElem?_eq_getElem hi] at hthere

theorem zip_map_zip {α β γ : Type} (f : α × β → γ) (first : List α) (second : List β) :
    first.zip ((first.zip second).map f) = (first.zip second).map fun pair => (pair.1, f pair) := by
  induction first generalizing second with
  | nil => rfl
  | cons a first ih =>
    cases second with
    | nil => rfl
    | cons b second => simp [ih]

/-- A row is as high as its highest cell, so all lines of its cells are drawn. -/
theorem exists_tableRow_iff {cells : List (List Char)} :
    (∃ drawn, tableRow columns cells = .ok drawn) ↔
      ∀ pair ∈ columns.zip cells, pair.1.Fits pair.2 := by
  -- Cells are aligned one height at a time, so the two quantifiers change places.
  let wrapped := (columns.zip cells).map fun pair => wrapCell pair.1 pair.2
  let height := (wrapped.map List.length).foldl max 0
  have hheight : ∀ pair ∈ columns.zip cells, (wrapCell pair.1 pair.2).length ≤ height := by
    intro pair hpair
    have hmem : (wrapCell pair.1 pair.2).length ∈ wrapped.map List.length :=
      List.mem_map_of_mem (List.mem_map_of_mem hpair)
    have hmax := List.foldl_max (l := wrapped.map List.length) (a := 0)
    have hle := List.le_max?_getD_of_mem (k := 0) hmem
    omega
  have hline (i : Nat) : (∃ drawn,
        tableLine columns (wrapped.map fun lines => lines[i]?.getD []) = .ok drawn) ↔
      ∀ pair ∈ columns.zip cells, width ((wrapCell pair.1 pair.2)[i]?.getD []) ≤ pair.1.width := by
    rw [exists_tableLine_iff, List.map_map, zip_map_zip, List.forall_mem_map]
    rfl
  calc (∃ drawn, tableRow columns cells = .ok drawn)
      ↔ ∀ i ∈ List.range height, ∃ drawn,
          tableLine columns (wrapped.map fun lines => lines[i]?.getD []) = .ok drawn :=
        exists_bind_eq_ok_iff.trans exists_mapM_eq_ok_iff
    _ ↔ ∀ pair ∈ columns.zip cells, ∀ i < height,
          width ((wrapCell pair.1 pair.2)[i]?.getD []) ≤ pair.1.width := by
        simp only [hline, List.mem_range]
        exact ⟨fun h pair hpair i hi => h i hi pair hpair, fun h i hi pair hpair => h pair hpair i hi⟩
    _ ↔ ∀ pair ∈ columns.zip cells, pair.1.Fits pair.2 :=
        forall₂_congr fun pair hpair =>
          (forall_mem_iff_forall_getD (P := fun line => width line ≤ pair.1.width) (Nat.zero_le _)
            (hheight pair hpair)).symm

/-- The texts of the cells of a row, as a table takes them. -/
def cellsOf (row : List String) : List (List Char) :=
  row.map fun cell => unifyLines cell.toList

/-- A row of a table by itself. -/
def drawRow (columns : List Column) (row : List String) : Except TableError String :=
  if (cellsOf row).any (·.any isForbidden) then .error .controlCharacter
  else tableRow columns (cellsOf row)

/-- The borders around rows that are drawn, and between them. -/
def framed (columns : List Column) (drawn : List String) : String :=
  ruler columns "╔" "╤" "╗" "═" ++ (ruler columns "╟" "┼" "╢" "─").intercalate drawn ++
    ruler columns "╚" "╧" "╝" "═"

/-- A row without control characters all of whose cells fit. -/
def IsDrawable (columns : List Column) (row : List String) : Prop :=
  (cellsOf row).any (·.any isForbidden) = false ∧
    ∀ pair ∈ columns.zip (cellsOf row), pair.1.Fits pair.2

instance (columns : List Column) (row : List String) : Decidable (IsDrawable columns row) :=
  inferInstanceAs (Decidable (_ ∧ _))

theorem drawRow_eq_ok_iff {row : List String} {drawn : String} :
    drawRow columns row = .ok drawn ↔
      (cellsOf row).any (·.any isForbidden) = false ∧
        tableRow columns (cellsOf row) = .ok drawn := by
  rw [drawRow]
  split
  case isTrue hforbidden => simp [hforbidden]
  case isFalse hallowed => simp [hallowed]

theorem exists_drawRow_iff {row : List String} :
    (∃ drawn, drawRow columns row = .ok drawn) ↔ IsDrawable columns row := by
  simp [drawRow_eq_ok_iff, exists_tableRow_iff, IsDrawable]

/-- A table consists of its rows, each drawn by itself, and borders. -/
theorem table_eq_ok_iff {rows : List (List String)} {text : String} :
    table columns rows = .ok text ↔
      ∃ drawn, List.Forall₂ (fun row drawn => drawRow columns row = .ok drawn) rows drawn ∧
        framed columns drawn = text := by
  have hrows (drawn : List String) :
      List.Forall₂ (fun row drawn => drawRow columns row = .ok drawn) rows drawn ↔
        (rows.map cellsOf).any (·.any (·.any isForbidden)) = false ∧
          (rows.map cellsOf).mapM (tableRow columns) = .ok drawn := by
    simp only [drawRow_eq_ok_iff, List.forall₂_and_left, mapM_eq_ok_iff, List.forall₂_map_left_iff]
    simp
  simp only [hrows]
  rw [table]
  dsimp only
  split
  case isTrue hforbidden =>
    refine ⟨fun hrun => (by cases hrun), ?_⟩
    rintro ⟨drawn, ⟨hallowed, -⟩, -⟩
    exact Bool.noConfusion (hforbidden.symm.trans hallowed)
  case isFalse hallowed =>
    rw [bind_eq_ok_iff]
    refine exists_congr fun drawn => ⟨?_, ?_⟩
    · rintro ⟨hdrawn, htext⟩
      exact ⟨⟨eq_false_of_ne_true hallowed, hdrawn⟩, Except.ok.inj htext⟩
    · rintro ⟨⟨-, hdrawn⟩, rfl⟩
      exact ⟨hdrawn, rfl⟩

end NamedParams.Terminal
