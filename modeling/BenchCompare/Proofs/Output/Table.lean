import BenchCompare.Output.Format
import Mathlib.Data.List.Forall2

/-!
# Tables are aligned

A row of the table consists of cells between separators (`Table.IsCut`): the label in a cell that is
exactly as wide as its column, and numbers at the right ends of cells that are as wide as their columns
unless a number is longer.  The places of the separators follow from the widths of the cells
(`Table.separatorPlaces`, `Table.IsCut.getElem?_place`).

The border lines and the heading are drawn for fixed widths.  So a row in which every number fits its
column has the length of these lines, and its separators are at the same places
(`Table.exists_alignedRows_render`), whatever its label is.
-/

namespace BenchCompare

/-! ### Cells -/

namespace Text

/-- A text that is moved to the right is as wide as its column, unless it is wider. -/
theorem length_alignRight (width : Nat) (cs : List Char) :
    (alignRight width cs).length = max width cs.length := by
  rw [alignRight, List.length_append, List.length_replicate]
  omega

/-- A character behind a text that is moved to the right widens its column. -/
theorem alignRight_append_singleton (width : Nat) (cs : List Char) (c : Char) :
    alignRight width cs ++ [c] = alignRight (width + 1) (cs ++ [c]) := by
  rw [alignRight, alignRight, List.append_assoc, List.length_append, List.length_singleton,
    Nat.add_sub_add_right]

end Text

namespace Output.Table

/-- A label in its column: filled up with blanks if it is short enough, and otherwise cut, with an
ellipsis in the last place. -/
structure IsLabelCell (label cell : List Char) : Prop where
  length_eq : cell.length = 22
  short : label.length ≤ 22 → cell = label ++ List.replicate (22 - label.length) ' '
  long : 22 < label.length → cell = label.take 21 ++ ['…']

/-- Every label is put into its column. -/
theorem isLabelCell_labelCell (label : String) : IsLabelCell label.toList (labelCell label) := by
  unfold labelCell Text.alignLeft Text.truncate labelWidth
  by_cases hshort : label.toList.length ≤ 22
  · rw [if_pos hshort]
    refine ⟨?_, fun _ => rfl, fun hlong => absurd hshort (Nat.not_le_of_lt hlong)⟩
    rw [List.length_append, List.length_replicate]
    omega
  · have hlength : (label.toList.take 21 ++ ['…']).length = 22 := by
      rw [List.length_append, List.length_take, List.length_singleton]
      omega
    rw [if_neg hshort, hlength, Nat.sub_self, List.replicate_zero, List.append_nil]
    exact ⟨hlength, fun h => absurd h hshort, fun _ => rfl⟩

/-- A label of thirty characters loses nine of them. -/
example : labelCell "thirty characters in one label" = "thirty characters in …".toList := by decide

/-- A number at the right end of its column; a number that is longer than the column is written out. -/
structure IsNumberCell (width : Nat) (number cell : List Char) : Prop where
  length_eq : cell.length = max width number.length
  rightmost : ∃ n, cell = List.replicate n ' ' ++ number

/-- Every number is put into its column. -/
theorem isNumberCell_alignRight (width : Nat) (number : List Char) :
    IsNumberCell width number (Text.alignRight width number) where
  length_eq := Text.length_alignRight width number
  rightmost := ⟨width - number.length, rfl⟩

/-! ### Lines -/

/-- A line consists of cells between separators, with a blank on either side of each cell. -/
inductive IsCut : List Char → List (List Char) → Prop
  | last : IsCut ['│'] []
  | cell {cell rest : List Char} {cells : List (List Char)} (hrest : IsCut rest cells) :
    IsCut ('│' :: ' ' :: (cell ++ ' ' :: rest)) (cell :: cells)

/-- The places of the separators in a line, from the place of the first one and the widths of the
cells. -/
def separatorPlaces (start : Nat) : List Nat → List Nat
  | [] => [start]
  | width :: widths => start :: separatorPlaces (start + width + 3) widths

/-- The length of a line, from the widths of its cells. -/
def lineLength : List Nat → Nat
  | [] => 1
  | width :: widths => width + 3 + lineLength widths

namespace IsCut

variable {line : List Char} {cells : List (List Char)}

/-- Cells with separators between them are a line. -/
theorem ruled (cells : List (List Char)) :
    IsCut ('│' :: cells.flatMap fun cell => ' ' :: (cell ++ [' ', '│'])) cells := by
  induction cells with
  | nil => exact .last
  | cons cell cells ih =>
    have hline : (cell :: cells).flatMap (fun cell => ' ' :: (cell ++ [' ', '│'])) =
        ' ' :: (cell ++ ' ' :: '│' :: cells.flatMap fun cell => ' ' :: (cell ++ [' ', '│'])) := by
      simp
    rw [hline]
    exact .cell ih

/-- A line is as long as its cells make it. -/
theorem length_eq (h : IsCut line cells) : line.length = lineLength (cells.map List.length) := by
  induction h with
  | last => rfl
  | cell _ ih =>
    simp only [List.length_cons, List.length_append, List.map_cons, lineLength, ih]
    omega

/-- There is a separator at each of the places, also if the line begins further to the right. -/
theorem getElem?_place (h : IsCut line cells) (before : List Char) :
    ∀ place ∈ separatorPlaces before.length (cells.map List.length),
      (before ++ line)[place]? = some '│' := by
  induction h generalizing before with
  | last =>
    intro place hplace
    rw [List.mem_singleton.mp hplace, List.getElem?_append_right (Nat.le_refl _), Nat.sub_self]
    rfl
  | @cell cell rest cells _ ih =>
    rw [List.map_cons, separatorPlaces, List.forall_mem_cons]
    constructor
    · rw [List.getElem?_append_right (Nat.le_refl _), Nat.sub_self]
      rfl
    · -- The rest of the line begins behind the cell and the blanks around it.
      have hwider := ih (before ++ '│' :: ' ' :: (cell ++ [' ']))
      simp only [List.length_append, List.length_cons, List.length_nil, List.append_assoc,
        List.cons_append, List.nil_append] at hwider
      exact hwider

end IsCut

/-! ### Drawn lines -/

/-- The widths of the columns, from the rank to the relative rate. -/
def columnWidths : List Nat := [4, 22, 10, 8, 8, 8, 8, 8]

/-- A border with strokes that are as long as the columns with their blanks, and with a mark at each end
and between the strokes. -/
def border (left junction right : Char) : List Char :=
  left :: ([junction].intercalate (columnWidths.map fun width => List.replicate (width + 2) '─')
    ++ [right])

/-- The names of the columns, as wide as the columns. -/
def columnNames : List String :=
  ["Rank", "Label                 ", "     Req/s", "Avg (ms)", "Max (ms)", "P99 (ms)", "  Errors",
    "Relative"]

-- The drawn texts are evaluated character by character, so the recursion is as deep as a line is long.
set_option maxRecDepth 4000 in
theorem topBorder_eq : topBorder = String.ofList (border '┌' '┬' '┐') :=
  rfl

set_option maxRecDepth 4000 in
theorem middleBorder_eq : middleBorder = String.ofList (border '├' '┼' '┤') :=
  rfl

set_option maxRecDepth 4000 in
theorem bottomBorder_eq : bottomBorder = String.ofList (border '└' '┴' '┘') :=
  rfl

set_option maxRecDepth 4000 in
theorem heading_eq :
    heading = String.ofList
      ('│' :: columnNames.flatMap fun name => ' ' :: (name.toList ++ [' ', '│'])) :=
  rfl

/-- The heading is as long as the columns make it. -/
theorem length_heading : heading.toList.length = lineLength columnWidths := by
  rw [heading_eq, String.toList_ofList]
  decide +kernel

/-- Every border has the length of the heading, and its marks are at the places of the separators. -/
theorem forall_border :
    ∀ line ∈ [topBorder, middleBorder, bottomBorder],
      line.toList.length = heading.toList.length
        ∧ line.toList.findIdxs (· != '─') = separatorPlaces 0 columnWidths := by
  simp only [List.forall_mem_cons, topBorder_eq, middleBorder_eq, bottomBorder_eq, length_heading,
    String.toList_ofList]
  decide +kernel

/-! ### Rows -/

/-- The numbers of a row as they are written, each with the width of its column: the rank, the rate,
the average and the greatest latency, the percentile or else a dash, the errors and the relative
rate. -/
def numbers (ranked : Ranked) : List (Nat × List Char) :=
  let run := ranked.run
  [(4, Numeral.digits ranked.rank), (10, run.rate.fixed 2), (8, run.averageMs.fixed 2),
    (8, run.latency.maximum.milliseconds.fixed 2), (8, percentileText run),
    (8, Numeral.digits run.errorCount.toNat), (8, ranked.relativeRate.fixed 1 ++ ['%'])]

/-- No number of a row is longer than its column. -/
def Fits (ranked : Ranked) : Prop :=
  ∀ column ∈ numbers ranked, column.2.length ≤ column.1

instance (ranked : Ranked) : Decidable (Fits ranked) :=
  inferInstanceAs (Decidable (∀ _ ∈ _, _))

/-- All numbers of this row fit, the errors as the longest of them just so. -/
example : Fits
    { rank := 1
      run := { label := "eight digits", rate := .ofNat 1234,
               latency := ⟨⟨2000000⟩, ⟨0⟩, ⟨9000000⟩, .zero⟩, failedResponses := 12345678 }
      relativeRate := .ofNat 100 } := by
  decide +kernel

/-- A line is the row of a ranked run: its cells are the label and the numbers in their columns, and if
all numbers fit, then it has the length of the heading and its separators are at the places that the
widths of the columns give. -/
structure IsRowOf (ranked : Ranked) (chars : List Char) : Prop where
  cells : ∃ rank label others, IsCut chars (rank :: label :: others)
    ∧ IsLabelCell ranked.run.label.toList label
    ∧ List.Forall₂ (fun column cell => IsNumberCell column.1 column.2 cell) (numbers ranked)
        (rank :: others)
    ∧ (Fits ranked → (rank :: label :: others).map List.length = columnWidths)
  aligned : Fits ranked → chars.length = heading.toList.length
    ∧ ∀ place ∈ separatorPlaces 0 columnWidths, chars[place]? = some '│'

/-- The cells of a row are the label and the numbers, in columns of the right widths. -/
theorem cells_eq (ranked : Ranked) :
    ∃ rank others, cells ranked = rank :: labelCell ranked.run.label :: others
      ∧ List.Forall₂ (fun column cell => IsNumberCell column.1 column.2 cell) (numbers ranked)
        (rank :: others) := by
  refine ⟨_, _, rfl, ?_⟩
  rw [Text.alignRight_append_singleton]
  unfold numbers
  simp only [List.forall₂_cons, List.forall₂_nil_left_iff, isNumberCell_alignRight, true_and]

/-- Cells of numbers that fit are as wide as their columns. -/
theorem map_length_eq {columns : List (Nat × List Char)} {cells : List (List Char)}
    (hcells : List.Forall₂ (fun column cell => IsNumberCell column.1 column.2 cell) columns cells)
    (hfits : ∀ column ∈ columns, column.2.length ≤ column.1) :
    cells.map List.length = columns.map Prod.fst := by
  induction hcells with
  | nil => rfl
  | cons hcell _ ih =>
    rw [List.forall_mem_cons] at hfits
    rw [List.map_cons, List.map_cons, hcell.length_eq, Nat.max_eq_left hfits.1, ih hfits.2]

/-- Every ranked run has its row. -/
theorem isRowOf_row (ranked : Ranked) : IsRowOf ranked (row ranked) := by
  obtain ⟨rank, others, hcells, hnumbers⟩ := cells_eq ranked
  have hlabel := isLabelCell_labelCell ranked.run.label
  have hcut : IsCut (row ranked) (rank :: labelCell ranked.run.label :: others) := by
    rw [← hcells]
    exact .ruled (cells ranked)
  have hwidths : Fits ranked →
      (rank :: labelCell ranked.run.label :: others).map List.length = columnWidths := by
    intro hfits
    have hmap := map_length_eq hnumbers hfits
    rw [List.map_cons] at hmap
    obtain ⟨hrank, hothers⟩ := List.cons.inj hmap
    rw [List.map_cons, List.map_cons, hrank, hlabel.length_eq, hothers]
    rfl
  refine ⟨⟨rank, _, others, hcut, hlabel, hnumbers, hwidths⟩, fun hfits => ⟨?_, ?_⟩⟩
  · rw [hcut.length_eq, hwidths hfits, length_heading]
  · rw [← hwidths hfits]
    exact hcut.getElem?_place []

/-- **Tables are aligned.**  The table has one row for each ranked run, in order, between the heading
and the bottom line.  The border lines and the heading have the same length and their corners,
junctions and separators at the same places; and so has every row whose numbers fit their columns. -/
theorem exists_alignedRows_render (generatedAt : String) (runs : List Run) :
    (∃ rows,
        (OutputFormat.table.render generatedAt runs).toList =
            ([[], topBorder.toList, heading.toList, middleBorder.toList] ++ rows
              ++ [bottomBorder.toList, latencyList runs]).flatMap (· ++ ['\n'])
          ∧ List.Forall₂ IsRowOf (Ranking.byRate runs) rows)
      ∧ (∀ line ∈ [topBorder, middleBorder, bottomBorder],
          line.toList.length = heading.toList.length
            ∧ line.toList.findIdxs (· != '─') = separatorPlaces 0 columnWidths)
      ∧ heading.toList.findIdxs (· == '│') = separatorPlaces 0 columnWidths := by
  refine ⟨⟨(Ranking.byRate runs).map row, ?_, ?_⟩, forall_border, ?_⟩
  · exact String.toList_ofList
  · rw [List.forall₂_map_right_iff, List.forall₂_same]
    exact fun ranked _ => isRowOf_row ranked
  · rw [heading_eq, String.toList_ofList]
    decide +kernel

end Output.Table

end BenchCompare
