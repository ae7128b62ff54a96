import BenchCompare.Proofs.Input.Concatenation
import Mathlib.Data.Finset.Card

/-!
# Warnings about labels

Loading gives two kinds of warnings.  An input has its label ignored if it holds saved runs and their
number is not one (`Input.IgnoresLabel`); each such input gives one warning, as it is loaded.  A label
is repeated if it occurs at an earlier position among all runs as well (`Input.repeatedLabels`); these
warnings come last, and only if every input was loaded.

Repeated labels are found by going through the runs with the labels that were seen before.  Runs that
are added at the end leave the earlier warnings as they are (`Input.duplicateLabels_concat`), so the
labels that were seen are no part of the description (`Input.duplicateLabels_eq`).  All warnings of a
load, in order, are given by `Input.warnings_loadAll`.
-/

namespace BenchCompare.Input

/-! ### Repeated labels -/

/-- The labels that occur at an earlier position as well, in the order of their positions. -/
def repeatedLabels (labels : List String) : List String :=
  (labels.zipIdx.filter fun entry => entry.1 ∈ labels.take entry.2).map Prod.fst

/-- Whether a label is repeated depends on the labels in front of it only. -/
theorem repeatedLabels_concat (labels : List String) (label : String) :
    repeatedLabels (labels ++ [label]) =
      repeatedLabels labels ++ if label ∈ labels then [label] else [] := by
  have hfront : ∀ entry ∈ labels.zipIdx,
      decide (entry.1 ∈ (labels ++ [label]).take entry.2) =
        decide (entry.1 ∈ labels.take entry.2) := by
    intro entry hentry
    have hposition : entry.2 < labels.length := List.snd_lt_of_mem_zipIdx hentry
    rw [List.take_append_of_le_length (Nat.le_of_lt hposition)]
  unfold repeatedLabels
  rw [List.zipIdx_append, List.filter_append, List.map_append, List.filter_congr hfront]
  congr 1
  rw [List.zipIdx_singleton, List.filter_singleton, Nat.zero_add, List.take_left]
  by_cases hmem : label ∈ labels
  · simp [hmem]
  · simp [hmem]

/-- Every label is repeated, or it is new at its position. -/
theorem length_repeatedLabels_add_card (labels : List String) :
    (repeatedLabels labels).length + labels.toFinset.card = labels.length := by
  induction labels using List.reverseRecOn with
  | nil => rfl
  | append_singleton labels label ih =>
    have hlabels : (labels ++ [label]).toFinset = insert label labels.toFinset := by
      ext other
      simp
    rw [repeatedLabels_concat, hlabels, List.length_append, List.length_append,
      List.length_singleton, ← ih]
    by_cases hmem : label ∈ labels
    · rw [if_pos hmem, Finset.insert_eq_of_mem (List.mem_toFinset.mpr hmem), List.length_singleton]
      omega
    · rw [if_neg hmem, Finset.card_insert_of_notMem (mt List.mem_toFinset.mp hmem), List.length_nil]
      omega

/-- A run at the end gives a warning of its own if its label was seen before. -/
theorem duplicateLabels_concat (seen : List String) (runs : List Run) (run : Run) :
    duplicateLabels seen (runs ++ [run]) =
      duplicateLabels seen runs
        ++ if run.label ∈ seen ∨ run.label ∈ runs.map Run.label then [.duplicate run.label] else [] := by
  induction runs generalizing seen with
  | nil => simp [duplicateLabels]
  | cons first rest ih =>
    rw [List.cons_append, duplicateLabels, duplicateLabels, List.map_cons]
    by_cases hseen : first.label ∈ seen
    · have hsame : (run.label ∈ seen ∨ run.label ∈ first.label :: rest.map Run.label) ↔
          run.label ∈ seen ∨ run.label ∈ rest.map Run.label := by
        rw [List.mem_cons]
        constructor
        · rintro (h | h | h)
          · exact .inl h
          · exact .inl (h ▸ hseen)
          · exact .inr h
        · exact Or.imp_right .inr
      rw [if_pos (List.contains_iff_mem.mpr hseen), if_pos (List.contains_iff_mem.mpr hseen), ih,
        if_congr hsame rfl rfl, List.cons_append]
    · have hsame : (run.label ∈ seen ∨ run.label ∈ first.label :: rest.map Run.label) ↔
          run.label ∈ first.label :: seen ∨ run.label ∈ rest.map Run.label := by
        rw [List.mem_cons, List.mem_cons]
        tauto
      rw [if_neg (mt List.contains_iff_mem.mp hseen), if_neg (mt List.contains_iff_mem.mp hseen), ih,
        if_congr hsame rfl rfl]

/-- The warnings about labels that occur again name the repeated labels, one by one. -/
theorem duplicateLabels_eq (runs : List Run) :
    duplicateLabels [] runs = (repeatedLabels (runs.map Run.label)).map .duplicate := by
  induction runs using List.reverseRecOn with
  | nil => rfl
  | append_singleton runs run ih =>
    rw [duplicateLabels_concat, List.map_append, List.map_singleton, repeatedLabels_concat, ih,
      List.map_append]
    congr 1
    by_cases hmem : run.label ∈ runs.map Run.label
    · rw [if_pos (.inr hmem), if_pos hmem, List.map_singleton]
    · rw [if_neg hmem, List.map_nil, if_neg]
      rintro (h | h)
      · exact absurd h List.not_mem_nil
      · exact hmem h

/-- Two labels that occur three times and twice are repeated twice and once. -/
example : repeatedLabels ["a", "b", "a", "c", "b", "a"] = ["a", "b", "a"] := by decide

/-! ### Ignored labels -/

/-- An input has a label that is ignored: the file holds a number of saved runs, and the number is not
one. -/
structure IgnoresLabel (files : FileView) (input : InputSpec) (label : String) (count : Nat) :
    Prop where
  isNamedJson : input.IsNamedJson
  label_eq : input.label = some label
  holds : ∃ text runs, files.readText input.path = .ok text ∧ IsTextOf text runs
    ∧ runs.length = count
  count_ne : count ≠ 1

/-- The warnings about labels of inputs that are ignored: one for each such input, in the order of the
inputs, with the label and the number of saved runs. -/
inductive IgnoredLabels (files : FileView) : List InputSpec → List LabelWarning → Prop
  | nil : IgnoredLabels files [] []
  | ignored {input : InputSpec} {label : String} {count : Nat} {rest : List InputSpec}
    {warnings : List LabelWarning} (h : IgnoresLabel files input label count)
    (hrest : IgnoredLabels files rest warnings) :
    IgnoredLabels files (input :: rest) (.ignored label count :: warnings)
  | silent {input : InputSpec} {rest : List InputSpec} {warnings : List LabelWarning}
    (h : ∀ label count, ¬ IgnoresLabel files input label count)
    (hrest : IgnoredLabels files rest warnings) :
    IgnoredLabels files (input :: rest) warnings

section Load

variable {files : FileView} {input : InputSpec}

/-- The label of saved runs is ignored if their number is not one. -/
theorem ignoresLabel_iff {text label : String} {runs : List Run} {count : Nat}
    (hname : input.IsNamedJson) (htext : files.readText input.path = .ok text)
    (hruns : IsTextOf text runs) :
    IgnoresLabel files input label count ↔
      input.label = some label ∧ runs.length = count ∧ count ≠ 1 := by
  constructor
  · rintro ⟨-, hlabel, ⟨other, held, hother, hheld, hcount⟩, hne⟩
    obtain rfl : other = text := Except.ok.inj (hother.symm.trans htext)
    obtain rfl : held = runs := Except.ok.inj (hheld.parse.symm.trans hruns.parse)
    exact ⟨hlabel, hcount, hne⟩
  · rintro ⟨hlabel, hcount, hne⟩
    exact ⟨hname, hlabel, ⟨text, runs, htext, hruns, hcount⟩, hne⟩

/-- The saved runs of an input give a warning exactly if its label is ignored. -/
theorem IgnoredLabels.cons_of_saved {text : String} {runs : List Run} (hname : input.IsNamedJson)
    (htext : files.readText input.path = .ok text) (hruns : IsTextOf text runs)
    {rest : List InputSpec} {warnings : List LabelWarning}
    (hrest : IgnoredLabels files rest warnings) :
    IgnoredLabels files (input :: rest) (ignoredLabel input runs ++ warnings) := by
  have hiff := @ignoresLabel_iff files input text
  unfold ignoredLabel
  cases hlabel : input.label with
  | none =>
    refine .silent (fun label count hignores => ?_) hrest
    rw [hignores.label_eq] at hlabel
    cases hlabel
  | some label =>
    by_cases hlength : runs.length = 1
    · simp only [hlength, if_true]
      refine .silent (fun other count hignores => ?_) hrest
      obtain ⟨-, rfl, hne⟩ := (hiff hname htext hruns).mp hignores
      exact hne hlength
    · simp only [hlength, if_false]
      exact .ignored ((hiff hname htext hruns).mpr ⟨hlabel, rfl, hlength⟩) hrest

/-- An input that is loaded gives a warning exactly if its label is ignored. -/
theorem IgnoredLabels.cons_of_load {loaded : Loaded} (hload : load files input = .ok loaded)
    {rest : List InputSpec} {warnings : List LabelWarning}
    (hrest : IgnoredLabels files rest warnings) :
    IgnoredLabels files (input :: rest) (loaded.warnings ++ warnings) := by
  obtain ⟨text, htext, ⟨hsaved, saved, hread, rfl⟩ | ⟨hreport, run, -, rfl⟩⟩ := load_cases hload
  · have hruns := IsTextOf.of_parseSaved (readSaved_eq_ok_iff.mp hread).1
    exact .cons_of_saved (InputSpec.isSaved_iff.mp hsaved) htext hruns hrest
  · refine .silent (fun label count hignores => ?_) hrest
    have hsaved := InputSpec.isSaved_iff.mpr hignores.isNamedJson
    rw [hreport] at hsaved
    cases hsaved

end Load

/-! ### All warnings -/

/-- Before repeated labels are looked for, the warnings are those about ignored labels: of all inputs,
or of those in front of the first one that fails. -/
theorem warnings_loadEach (files : FileView) (inputs : List InputSpec) :
    match (loadEach files inputs).outcome with
    | .ok _ => IgnoredLabels files inputs (loadEach files inputs).warnings
    | .error fault =>
      ∃ before after, inputs = before ++ fault.input :: after
        ∧ (∀ input ∈ before, ∃ runs, Contributes files input runs)
        ∧ Fails files fault.input fault.cause
        ∧ IgnoredLabels files before (loadEach files inputs).warnings := by
  induction inputs with
  | nil => exact .nil
  | cons input rest ih =>
    rw [loadEach]
    cases hload : load files input with
    | error cause =>
      exact ⟨[], rest, rfl, List.forall_mem_nil _, load_eq_error_iff.mp hload, .nil⟩
    | ok loaded =>
      cases hrest : (loadEach files rest).outcome with
      | ok runs =>
        rw [hrest] at ih
        simp only [hrest, Except.map]
        exact .cons_of_load hload ih
      | error fault =>
        rw [hrest] at ih
        simp only [hrest, Except.map]
        obtain ⟨before, after, rfl, hbefore, hfails, hwarnings⟩ := ih
        refine ⟨input :: before, after, rfl, ?_, hfails, .cons_of_load hload hwarnings⟩
        rw [List.forall_mem_cons]
        exact ⟨⟨_, exists_load_iff.mp ⟨loaded, hload, rfl⟩⟩, hbefore⟩

/-- **Warnings about labels.**  If all inputs are loaded, the warnings are those about ignored labels,
one for each such input and in the order of the inputs, followed by those about repeated labels, one
for each run whose label occurs at an earlier position and in the order of the runs: as many as there
are runs less the different labels.  If loading fails, there are only the warnings about ignored labels
of the inputs in front of the first one that fails. -/
theorem warnings_loadAll (files : FileView) (inputs : List InputSpec) :
    (match (loadAll files inputs).outcome with
      | .ok runs =>
        (∃ ignored, IgnoredLabels files inputs ignored
            ∧ (loadAll files inputs).warnings =
              ignored ++ (repeatedLabels (runs.map Run.label)).map .duplicate)
          ∧ (repeatedLabels (runs.map Run.label)).length + (runs.map Run.label).toFinset.card =
            runs.length
      | .error fault =>
        ∃ before after, inputs = before ++ fault.input :: after
          ∧ (∀ input ∈ before, ∃ runs, Contributes files input runs)
          ∧ Fails files fault.input fault.cause
          ∧ IgnoredLabels files before (loadAll files inputs).warnings)
      ∧ (∀ label, (LabelWarning.duplicate label).message =
          "Duplicate label; bars will share a name")
      ∧ ∀ label count, (LabelWarning.ignored label count).message =
          "Label ignored for a file with several results" := by
  refine ⟨?_, fun _ => rfl, fun _ _ => rfl⟩
  have hwarnings := warnings_loadEach files inputs
  unfold loadAll
  cases houtcome : (loadEach files inputs).outcome with
  | ok runs =>
    rw [houtcome] at hwarnings
    simp only [houtcome]
    refine ⟨⟨_, hwarnings, ?_⟩, ?_⟩
    · rw [duplicateLabels_eq]
    · rw [length_repeatedLabels_add_card, List.length_map]
  | error fault =>
    rw [houtcome] at hwarnings
    simp only [houtcome]
    exact hwarnings

end BenchCompare.Input
