import BenchCompare.Output.Format
import BenchCompare.Proofs.Numeral.Digits
import Mathlib.Data.List.Forall2

/-!
# Rows of Markdown tables

A reader of a row cuts it at its *bare* bars, those without a backslash right before them
(`piecesAtBars`), and takes a backslash with a bar in a cell for a bar (`unescaped`).  A cell is safe
if no bare bar comes up in it, whatever stands in front of it (`IsCell`).  Numbers are safe because
they have no bars, and labels because all their bars are escaped; since there is a blank between a
cell and the bar behind it, a backslash at the end of a label does no harm.

So each run has one row in each table, with five cells, and its label is read back from the row
except for its line breaks (`exists_rows_render`).
-/

namespace BenchCompare.Output.Markdown

/-! ### Reading a row -/

/-- The pieces of a text between its bare bars; `guarded` says whether a backslash stands in front of
the text. -/
def piecesAtBars : Bool → List Char → List (List Char)
  | _, [] => [[]]
  | guarded, c :: cs =>
    if c = '|' ∧ guarded = false then [] :: piecesAtBars false cs
    else (piecesAtBars (c == '\\') cs).modifyHead (c :: ·)

/-- The text of a cell, with a bar for each backslash that has a bar behind it. -/
def unescaped : List Char → List Char
  | [] => []
  | '\\' :: '|' :: cs => '|' :: unescaped cs
  | c :: cs => c :: unescaped cs

/-- A cell with a blank on either side. -/
def padded (cell : List Char) : List Char :=
  ' ' :: (cell ++ [' '])

/-- A text with blanks for its line breaks. -/
def onOneLine (text : List Char) : List Char :=
  text.map fun c => if c = '\n' then ' ' else c

/-! ### Cells -/

/-- A safe cell: with a blank and a bar behind it, it is cut at that bar and nowhere else. -/
def IsCell (cell : List Char) : Prop :=
  ∀ guarded rest, piecesAtBars guarded (cell ++ ' ' :: '|' :: rest) =
    (cell ++ [' ']) :: piecesAtBars false rest

/-- A character that is no bar is no place to cut. -/
theorem piecesAtBars_cons {c : Char} (hc : c ≠ '|') (guarded : Bool) (cs : List Char) :
    piecesAtBars guarded (c :: cs) = (piecesAtBars (c == '\\') cs).modifyHead (c :: ·) := by
  rw [piecesAtBars, if_neg fun h => hc h.1]

/-- A bar behind a backslash is no place to cut. -/
theorem piecesAtBars_backslash_bar (guarded : Bool) (cs : List Char) :
    piecesAtBars guarded ('\\' :: '|' :: cs) =
      (piecesAtBars false cs).modifyHead ('\\' :: '|' :: ·) := by
  rw [piecesAtBars_cons (by decide), piecesAtBars, if_neg (by decide), List.modifyHead_modifyHead]
  rfl

/-- Nothing is a safe cell, since there is a blank in front of the bar. -/
theorem isCell_nil : IsCell [] := by
  intro guarded rest
  rw [List.nil_append, piecesAtBars_cons (by decide)]
  rfl

/-- A text without bars is a safe cell. -/
theorem isCell_of_not_mem {cell : List Char} (h : '|' ∉ cell) : IsCell cell := by
  induction cell with
  | nil => exact isCell_nil
  | cons c cs ih =>
    rw [List.mem_cons, not_or] at h
    intro guarded rest
    rw [List.cons_append, piecesAtBars_cons (Ne.symm h.1), ih h.2]
    rfl

/-- An escaped text is a safe cell. -/
theorem isCell_flatMap_cellChar (cs : List Char) : IsCell (cs.flatMap cellChar) := by
  induction cs with
  | nil => exact isCell_nil
  | cons c cs ih =>
    intro guarded rest
    rw [List.flatMap_cons]
    unfold cellChar
    split_ifs with hbar hnewline
    · change piecesAtBars guarded ('\\' :: '|' :: (cs.flatMap cellChar ++ ' ' :: '|' :: rest)) = _
      rw [piecesAtBars_backslash_bar, ih]
      rfl
    · change piecesAtBars guarded (' ' :: (cs.flatMap cellChar ++ ' ' :: '|' :: rest)) = _
      rw [piecesAtBars_cons (by decide), ih]
      rfl
    · change piecesAtBars guarded (c :: (cs.flatMap cellChar ++ ' ' :: '|' :: rest)) = _
      rw [piecesAtBars_cons hbar, ih]
      rfl

/-- A row of safe cells is cut into these cells, and nothing comes before the first bar or after the
last one. -/
theorem piecesAtBars_row {cells : List (List Char)} (h : ∀ cell ∈ cells, IsCell cell) :
    piecesAtBars false (row cells) = [] :: (cells.map padded ++ [[]]) := by
  have hcells : piecesAtBars false (cells.flatMap fun cell => ' ' :: (cell ++ [' ', '|'])) =
      cells.map padded ++ [[]] := by
    induction cells with
    | nil => rfl
    | cons cell cells ih =>
      rw [List.forall_mem_cons] at h
      have htext : ∀ more : List Char,
          ' ' :: (cell ++ [' ', '|']) ++ more = ' ' :: (cell ++ ' ' :: '|' :: more) := by simp
      rw [List.flatMap_cons, htext, piecesAtBars_cons (by decide)]
      change (piecesAtBars false (cell ++ ' ' :: '|' :: _)).modifyHead _ = _
      rw [h.1, ih h.2]
      rfl
  unfold row
  rw [piecesAtBars, if_pos ⟨rfl, rfl⟩, hcells]

/-! ### Labels -/

/-- A character is read as such, unless it is a backslash with a bar behind it. -/
theorem unescaped_cons {c : Char} {cs : List Char} (h : c = '\\' → cs.head? ≠ some '|') :
    unescaped (c :: cs) = c :: unescaped cs := by
  rw [unescaped.eq_def]
  split
  · next heq => cases heq
  · next heq =>
    obtain ⟨rfl, rfl⟩ := List.cons.inj heq
    exact absurd rfl (h rfl)
  · next heq =>
    obtain ⟨rfl, rfl⟩ := List.cons.inj heq
    rfl

/-- An escaped text does not begin with a bar. -/
theorem head?_flatMap_cellChar_ne (cs : List Char) : (cs.flatMap cellChar).head? ≠ some '|' := by
  cases cs with
  | nil => nofun
  | cons c cs =>
    rw [List.flatMap_cons]
    unfold cellChar
    split_ifs with hbar hnewline
    · simp
    · simp
    · simpa using hbar

/-- An escaped text is read back, except for its line breaks. -/
theorem unescaped_flatMap_cellChar (cs : List Char) :
    unescaped (cs.flatMap cellChar) = onOneLine cs := by
  induction cs with
  | nil => rfl
  | cons c cs ih =>
    have hline : onOneLine (c :: cs) = (if c = '\n' then ' ' else c) :: onOneLine cs := rfl
    rw [List.flatMap_cons, hline, ← ih]
    unfold cellChar
    by_cases hbar : c = '|'
    · subst hbar
      rfl
    · rw [if_neg hbar]
      split_ifs with hnewline
      · exact unescaped_cons nofun
      · exact unescaped_cons fun _ => head?_flatMap_cellChar_ne cs

/-- A text without line breaks is on one line already. -/
theorem onOneLine_of_not_mem {text : List Char} (h : '\n' ∉ text) : onOneLine text = text := by
  have hchar : ∀ c ∈ text, (if c = '\n' then ' ' else c) = id c := by
    intro c hc
    have hne : c ≠ '\n' := fun e => h (e ▸ hc)
    rw [if_neg hne, id]
  unfold onOneLine
  rw [List.map_congr_left hchar, List.map_id]

/-- An escaped text has no line breaks. -/
theorem newline_not_mem_flatMap_cellChar (cs : List Char) : '\n' ∉ cs.flatMap cellChar := by
  intro h
  obtain ⟨c, -, hc⟩ := List.mem_flatMap.mp h
  unfold cellChar at hc
  split_ifs at hc with hbar hnewline
  · simp at hc
  · simp at hc
  · exact hnewline (List.mem_singleton.mp hc).symm

/-! ### Numbers -/

/-- A number with fixed places has digits, a point and a minus sign only, or it is a word for what is
no finite number. -/
theorem not_mem_fixed {c : Char} (hdigit : c.isDigit = false) (hmark : c ∉ "-.NaNinf".toList)
    (places : Nat) (x : Binary64) : c ∉ x.fixed places := by
  have hmarks : c ≠ '-' ∧ c ≠ '.' ∧ c ∉ "NaN".toList ∧ c ∉ "inf".toList := by
    simp_all
  obtain ⟨hminus, hpoint, hnan, hinf⟩ := hmarks
  have hzeros : ∀ n, c ∉ List.replicate n '0' := by
    intro n hc
    rw [List.eq_of_mem_replicate hc] at hdigit
    cases hdigit
  have hdigits : ∀ n, c ∉ Numeral.digits n := fun n => Numeral.not_mem_digits hdigit
  have hunits : ∀ units, c ∉ Binary64.fixedUnits places units := by
    intro units
    unfold Binary64.fixedUnits
    split_ifs
    · exact hdigits _
    · simp [hdigits, hzeros, hpoint]
  cases x with
  | nan => exact hnan
  | number negative size =>
    have htext : c ∉ if size.isFinite then Binary64.fixedUnits places size.units
        else "inf".toList := by
      split_ifs
      · exact hunits _
      · exact hinf
    unfold Binary64.fixed
    cases negative with
    | false => exact htext
    | true => exact List.not_mem_cons_of_ne_of_not_mem hminus htext

/-! ### Rows -/

/-- A line is the row of a ranked run: it has five cells between its first bare bar and its last one,
the rank in the first cell and the label in the second one. -/
structure IsRowOf (ranked : Ranked) (line : List Char) : Prop where
  newline_not_mem : '\n' ∉ line
  cells : ∃ label others,
    piecesAtBars false line =
        [] :: (([Numeral.digits ranked.rank, label] ++ others).map padded ++ [[]])
      ∧ others.length = 3
      ∧ unescaped label = onOneLine ranked.run.label.toList
      ∧ ('\n' ∉ ranked.run.label.toList → unescaped label = ranked.run.label.toList)

/-- A row of the rank, the label and three values is the row of a ranked run. -/
theorem isRowOf_row (ranked : Ranked) (others : List (List Char)) (hlength : others.length = 3)
    (hothers : ∀ value ∈ others, '|' ∉ value ∧ '\n' ∉ value) :
    IsRowOf ranked
      (row ([Numeral.digits ranked.rank, cellText ranked.run.label] ++ others)) := by
  have hcell : ∀ cell ∈ [Numeral.digits ranked.rank, cellText ranked.run.label] ++ others,
      IsCell cell ∧ '\n' ∉ cell := by
    rw [List.forall_mem_append, List.forall_mem_cons, List.forall_mem_singleton]
    refine ⟨⟨⟨?_, ?_⟩, ?_, ?_⟩, fun value hvalue => ?_⟩
    · exact isCell_of_not_mem (Numeral.not_mem_digits rfl)
    · exact Numeral.not_mem_digits rfl
    · exact isCell_flatMap_cellChar _
    · exact newline_not_mem_flatMap_cellChar _
    · exact ⟨isCell_of_not_mem (hothers value hvalue).1, (hothers value hvalue).2⟩
  constructor
  case newline_not_mem =>
    unfold row
    intro h
    rcases List.mem_cons.mp h with h | h
    · cases h
    · obtain ⟨cell, hmem, h⟩ := List.mem_flatMap.mp h
      have hnewline := (hcell cell hmem).2
      simp_all
  case cells =>
    refine ⟨cellText ranked.run.label, others, piecesAtBars_row fun cell h => (hcell cell h).1,
      hlength, unescaped_flatMap_cellChar _, fun h => ?_⟩
    exact (unescaped_flatMap_cellChar _).trans (onOneLine_of_not_mem h)

/-- A number in a row has no bars and no line breaks. -/
theorem fixed_spec (places : Nat) (x : Binary64) :
    '|' ∉ x.fixed places ∧ '\n' ∉ x.fixed places :=
  ⟨not_mem_fixed (by decide) (by decide) places x, not_mem_fixed (by decide) (by decide) places x⟩

theorem isRowOf_rateRow (ranked : Ranked) : IsRowOf ranked (rateRow ranked) := by
  refine isRowOf_row ranked [_, _, _] rfl ?_
  rw [List.forall_mem_cons, List.forall_mem_cons, List.forall_mem_singleton]
  refine ⟨fixed_spec _ _, ?_, Numeral.not_mem_digits rfl, Numeral.not_mem_digits rfl⟩
  obtain ⟨hbar, hnewline⟩ := fixed_spec 1 ranked.relativeRate
  simp [hbar, hnewline]

theorem isRowOf_latencyRow (ranked : Ranked) : IsRowOf ranked (latencyRow ranked) := by
  refine isRowOf_row ranked [_, _, _] rfl ?_
  rw [List.forall_mem_cons, List.forall_mem_cons, List.forall_mem_singleton]
  exact ⟨fixed_spec _ _, fixed_spec _ _, fixed_spec _ _⟩

/-- There are as many ranked runs as runs. -/
theorem length_numbered (best : Binary64) (runs : List Run) :
    (Ranking.numbered best runs).length = runs.length := by
  simp [Ranking.numbered]

/-- **Tables have one row for each run.**  Below the heading of each table there are as many lines as
runs, in the order of the ranking, each with five cells, the label of its run in the second one. -/
theorem exists_rows_render (generatedAt : String) (runs : List Run) :
    ∃ rateRows latencyRows,
      (OutputFormat.markdown.render generatedAt runs).toList =
          (rateHeading.map String.toList ++ rateRows ++ latencyHeading.map String.toList
            ++ latencyRows).flatMap (· ++ ['\n'])
        ∧ rateRows.length = runs.length
        ∧ latencyRows.length = runs.length
        ∧ List.Forall₂ IsRowOf (Ranking.byRate runs) rateRows
        ∧ List.Forall₂ IsRowOf (Ranking.byLatency runs) latencyRows := by
  refine ⟨(Ranking.byRate runs).map rateRow, (Ranking.byLatency runs).map latencyRow, ?_, ?_, ?_,
    ?_, ?_⟩
  · exact String.toList_ofList
  · rw [List.length_map, Ranking.byRate, length_numbered, List.length_mergeSort]
  · rw [List.length_map, Ranking.byLatency, length_numbered, List.length_mergeSort]
  · rw [List.forall₂_map_right_iff, List.forall₂_same]
    exact fun ranked _ => isRowOf_rateRow ranked
  · rw [List.forall₂_map_right_iff, List.forall₂_same]
    exact fun ranked _ => isRowOf_latencyRow ranked

end BenchCompare.Output.Markdown
