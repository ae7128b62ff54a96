import BenchCompare.Input.Load
import BenchCompare.Proofs.Input.Labels
import BenchCompare.Proofs.Input.Reload
import BenchCompare.Proofs.Report.Numbers
import BenchCompare.Proofs.Run.Numbers

/-!
# Loaded runs are valid

Saved runs are checked when they are read, runs of reports are not.  These are valid all the same
(`Run.fault?`), with one exception: a report without a label of its own is named by the stem of its
file, and a stem can be blank (`InputSpec.TakesBlankStem`).  So all runs that were loaded are valid
exactly if no input takes a blank stem, and then they are loaded again wherever they can be saved
(`Input.validity_of_loadAll`).

A file whose stem is a blank is all it takes to get a run that is refused later
(`Input.loadAll_blankStem`).
-/

namespace BenchCompare

/-! ### One input -/

/-- A report that is labelled by the stem of its file, the stem being blank. -/
def InputSpec.TakesBlankStem (input : InputSpec) : Prop :=
  input.isSaved = false ∧ input.label = none ∧ input.path.HasBlankStem

instance (input : InputSpec) : Decidable input.TakesBlankStem :=
  inferInstanceAs (Decidable (_ ∧ _ ∧ _))

namespace Input

/-- Saved runs are read exactly if the text holds them and all of them are valid. -/
theorem readSaved_eq_ok_iff {path : Path} {text : String} {runs : List Run} :
    readSaved path text = .ok runs ↔
      parseSaved text = .ok runs ∧ ∀ run ∈ runs, run.fault? = none := by
  rw [readSaved]
  cases parseSaved text with
  | error fault => simp
  | ok saved =>
    cases hfault : saved.findSome? Run.fault? with
    | some fault =>
      simp only [hfault, reduceCtorEq, Except.ok.injEq, false_iff, not_and]
      rintro rfl hvalid
      rw [List.findSome?_eq_none_iff.mpr hvalid] at hfault
      cases hfault
    | none =>
      simp only [hfault, Except.ok.injEq, iff_self_and]
      rintro rfl
      exact List.findSome?_eq_none_iff.mp hfault

/-- Valid runs are valid under the label of an input as well. -/
theorem fault?_of_mem_relabel {input : InputSpec} (hinput : input.IsNamed) {runs : List Run}
    (hruns : ∀ run ∈ runs, run.fault? = none) : ∀ run ∈ relabel input runs, run.fault? = none := by
  unfold relabel
  split
  · next label run hlabel =>
    intro relabelled hmem
    obtain rfl := List.mem_singleton.mp hmem
    have hrate := (Run.fault?_eq_none_iff.mp (hruns run (List.mem_singleton_self run))).2
    exact Run.fault?_eq_none_iff.mpr ⟨hinput.label label hlabel, hrate⟩
  · exact hruns

/-- The label that the run of a report gets is blank exactly if it is a blank stem. -/
theorem isBlankText_label_iff {input : InputSpec} (hinput : input.IsNamed)
    (hsaved : input.isSaved = false) :
    Text.isBlankText (input.label.getD input.path.defaultLabel).toList = true ↔
      input.TakesBlankStem := by
  unfold InputSpec.TakesBlankStem
  cases hlabel : input.label with
  | none => simp [hsaved, Path.isBlankText_defaultLabel_iff hinput.path]
  | some label => simp [hinput.label label hlabel]

/-- What was loaded from an input: saved runs, relabelled and with a warning if their label is ignored,
or the run of a report without any warning. -/
theorem load_cases {files : FileView} {input : InputSpec} {loaded : Loaded}
    (h : load files input = .ok loaded) :
    ∃ text, files.readText input.path = .ok text
      ∧ ((input.isSaved = true ∧ ∃ saved, readSaved input.path text = .ok saved
            ∧ loaded = ⟨relabel input saved, ignoredLabel input saved⟩)
        ∨ (input.isSaved = false ∧ ∃ run,
            Report.parse text (input.label.getD input.path.defaultLabel) = .ok run
              ∧ loaded = ⟨[run], []⟩)) := by
  unfold load at h
  cases htext : files.readText input.path with
  | error fault =>
    rw [htext] at h
    cases h
  | ok text =>
    refine ⟨text, rfl, ?_⟩
    cases hstored : stored input text with
    | error cause =>
      simp only [htext, hstored] at h
      cases h
    | ok runs =>
      simp only [htext, hstored] at h
      unfold stored at hstored
      cases hsaved : input.isSaved with
      | true =>
        rw [hsaved] at h hstored
        cases h
        exact .inl ⟨rfl, runs, hstored, rfl⟩
      | false =>
        rw [hsaved] at h hstored
        cases h
        cases hparse : Report.parse text (input.label.getD input.path.defaultLabel) with
        | error fault =>
          simp only [hparse] at hstored
          cases hstored
        | ok run =>
          simp only [hparse] at hstored
          cases hstored
          exact .inr ⟨rfl, run, rfl, rfl⟩

/-- A run that is relabelled keeps its rate. -/
theorem exists_rate_eq_of_mem_relabel {input : InputSpec} {runs : List Run} {run : Run}
    (h : run ∈ relabel input runs) : ∃ saved ∈ runs, run.rate = saved.rate := by
  unfold relabel at h
  split at h
  · next label saved hlabel =>
    obtain rfl := List.mem_singleton.mp h
    exact ⟨saved, List.mem_singleton_self saved, rfl⟩
  · exact ⟨run, h, rfl⟩

/-- The rates of the runs of an input are finite and not below zero. -/
theorem isFiniteNonneg_rate_of_load {files : FileView} {input : InputSpec} {loaded : Loaded}
    (h : load files input = .ok loaded) : ∀ run ∈ loaded.runs, run.rate.isFiniteNonneg = true := by
  intro run hrun
  obtain ⟨text, -, ⟨-, saved, hread, rfl⟩ | ⟨-, parsed, hparse, rfl⟩⟩ := load_cases h
  · obtain ⟨original, horiginal, hrate⟩ := exists_rate_eq_of_mem_relabel hrun
    have hvalid := (readSaved_eq_ok_iff.mp hread).2 original horiginal
    rw [hrate]
    exact (Run.fault?_eq_none_iff.mp hvalid).2
  · rw [List.mem_singleton.mp hrun]
    exact Report.isFiniteNonneg_rate_of_parse hparse

/-- The runs of an input are valid, unless it takes a blank stem. -/
theorem validity_of_load {files : FileView} {input : InputSpec} (hinput : input.IsNamed)
    {loaded : Loaded} (h : load files input = .ok loaded) :
    (∀ run ∈ loaded.runs, run.rate.isFiniteNonneg = true)
      ∧ ((∀ run ∈ loaded.runs, run.fault? = none) ↔ ¬ input.TakesBlankStem) := by
  refine ⟨isFiniteNonneg_rate_of_load h, ?_⟩
  obtain ⟨text, -, ⟨hsaved, saved, hread, rfl⟩ | ⟨hsaved, run, hparse, rfl⟩⟩ := load_cases h
  · have hrelabelled : ∀ run ∈ relabel input saved, run.fault? = none :=
      fault?_of_mem_relabel hinput (readSaved_eq_ok_iff.mp hread).2
    have hstem : ¬ input.TakesBlankStem := by
      rintro ⟨hreport, -⟩
      rw [hsaved] at hreport
      cases hreport
    exact iff_of_true hrelabelled hstem
  · have hrate := Report.isFiniteNonneg_rate_of_parse hparse
    have hlabel := (Report.describes_of_parse_eq_ok hparse).label_eq
    rw [List.forall_mem_singleton, Run.fault?_eq_none_iff, ← isBlankText_label_iff hinput hsaved,
      hlabel, Bool.not_eq_true]
    exact and_iff_left hrate

/-! ### All inputs -/

/-- Inputs are loaded if the first one is and the others are. -/
theorem outcome_loadEach_cons_iff {files : FileView} {input : InputSpec} {rest : List InputSpec}
    {runs : List Run} :
    (loadEach files (input :: rest)).outcome = .ok runs ↔
      ∃ loaded others, load files input = .ok loaded ∧ (loadEach files rest).outcome = .ok others
        ∧ runs = loaded.runs ++ others := by
  rw [loadEach]
  cases load files input with
  | error cause => simp
  | ok loaded =>
    simp only
    cases (loadEach files rest).outcome with
    | error fault => simp [Except.map]
    | ok others => simp [Except.map, eq_comm]

/-- Inputs are loaded if each of them is, and the runs are theirs, in order. -/
theorem outcome_loadEach_iff {files : FileView} {inputs : List InputSpec} {runs : List Run} :
    (loadEach files inputs).outcome = .ok runs ↔
      ∃ loads, List.Forall₂ (fun input loaded => load files input = .ok loaded) inputs loads
        ∧ runs = loads.flatMap Loaded.runs := by
  induction inputs generalizing runs with
  | nil =>
    constructor
    · intro h
      cases h
      exact ⟨[], .nil, rfl⟩
    · rintro ⟨_, ⟨⟩, rfl⟩
      rfl
  | cons input rest ih =>
    rw [outcome_loadEach_cons_iff]
    constructor
    · rintro ⟨loaded, others, hload, hrest, rfl⟩
      obtain ⟨loads, hloads, rfl⟩ := ih.mp hrest
      exact ⟨loaded :: loads, .cons hload hloads, List.flatMap_cons.symm⟩
    · rintro ⟨_, hloads, rfl⟩
      obtain ⟨loaded, later, hload, hlater, rfl⟩ := List.forall₂_cons_left_iff.mp hloads
      exact ⟨loaded, _, hload, ih.mpr ⟨later, hlater, rfl⟩, List.flatMap_cons⟩

/-- The rates of the runs of all inputs are finite and not below zero. -/
theorem isFiniteNonneg_rate_of_loadEach {files : FileView} {inputs : List InputSpec}
    {runs : List Run} (h : (loadEach files inputs).outcome = .ok runs) :
    ∀ run ∈ runs, run.rate.isFiniteNonneg = true := by
  induction inputs generalizing runs with
  | nil =>
    cases h
    exact List.forall_mem_nil _
  | cons input rest ih =>
    obtain ⟨loaded, others, hload, hrest, rfl⟩ := outcome_loadEach_cons_iff.mp h
    rw [List.forall_mem_append]
    exact ⟨isFiniteNonneg_rate_of_load hload, ih hrest⟩

/-- Warnings about labels change nothing in the outcome. -/
theorem outcome_loadAll (files : FileView) (inputs : List InputSpec) :
    (loadAll files inputs).outcome = (loadEach files inputs).outcome := by
  simp only [loadAll]
  split <;> rfl

/-- The runs of inputs are valid, unless one of them takes a blank stem. -/
theorem validity_of_loads {files : FileView} {inputs : List InputSpec} {loads : List Loaded}
    (h : List.Forall₂ (fun input loaded => load files input = .ok loaded) inputs loads)
    (hinputs : ∀ input ∈ inputs, input.IsNamed) :
    (∀ run ∈ loads.flatMap Loaded.runs, run.rate.isFiniteNonneg = true)
      ∧ ((∀ run ∈ loads.flatMap Loaded.runs, run.fault? = none) ↔
          ∀ input ∈ inputs, ¬ input.TakesBlankStem) := by
  induction h with
  | nil => simp
  | cons hload _ ih =>
    rw [List.forall_mem_cons] at hinputs
    obtain ⟨hrate, hvalid⟩ := validity_of_load hinputs.1 hload
    obtain ⟨hrates, hvalids⟩ := ih hinputs.2
    rw [List.flatMap_cons, List.forall_mem_append, List.forall_mem_append, List.forall_mem_cons]
    exact ⟨⟨hrate, hrates⟩, and_congr hvalid hvalids⟩

/-- A text in which legible runs are saved is read as these runs, and they are checked. -/
theorem readSaved_of_isSavedAs {t : Timestamp} (ht : t.isValid = true) {runs : List Run}
    {text : String} (h : Run.IsSavedAs t runs text) (hruns : ∀ run ∈ runs, run.IsLegible)
    (path : Path) :
    readSaved path text =
      match runs.findSome? Run.fault? with
      | some fault => .error (.invalidRun path fault)
      | none => .ok runs := by
  obtain ⟨value, hread, hvalue⟩ := h.exists_json_of_isLegible ht hruns
  unfold readSaved parseSaved
  cases hfault : runs.findSome? Run.fault? with
  | some fault => simp only [hread, hvalue, hfault, List.isEmpty_nil, if_true]
  | none => simp only [hread, hvalue, hfault, List.isEmpty_nil, if_true]

/-- **Loaded runs are valid.**  The runs of inputs that were read have rates that are finite and not
below zero, and all of them are valid exactly if none of the inputs takes a blank stem.  If so, a
later load accepts a text in which the runs are saved, provided that it can read them; otherwise it
refuses the text because of a blank label. -/
theorem validity_of_loadAll {files : FileView} {inputs : List InputSpec} {runs : List Run}
    (hinputs : ∀ input ∈ inputs, ∃ text, InputSpec.parse text = .ok input)
    (h : (loadAll files inputs).outcome = .ok runs) :
    (∀ run ∈ runs, run.rate.isFiniteNonneg = true)
      ∧ ((∀ run ∈ runs, run.fault? = none) ↔ ∀ input ∈ inputs, ¬ input.TakesBlankStem)
      ∧ ((∀ run ∈ runs, run.IsLegible) →
          ∀ t : Timestamp, t.isValid = true → ∀ text, Run.IsSavedAs t runs text → ∀ path,
            readSaved path text =
              if ∃ input ∈ inputs, input.TakesBlankStem then .error (.invalidRun path .blankLabel)
              else .ok runs) := by
  rw [outcome_loadAll, outcome_loadEach_iff] at h
  obtain ⟨loads, hloads, rfl⟩ := h
  have hnamed : ∀ input ∈ inputs, input.IsNamed := by
    intro input hinput
    obtain ⟨text, hparse⟩ := hinputs input hinput
    exact .of_parse hparse
  obtain ⟨hrates, hvalid⟩ := validity_of_loads hloads hnamed
  refine ⟨hrates, hvalid, ?_⟩
  intro hlegible t ht text hsaved path
  rw [readSaved_of_isSavedAs ht hsaved hlegible path]
  by_cases hstem : ∃ input ∈ inputs, input.TakesBlankStem
  · cases hfault : (loads.flatMap Loaded.runs).findSome? Run.fault? with
    | none =>
      obtain ⟨input, hinput, htakes⟩ := hstem
      exact absurd htakes (hvalid.mp (List.findSome?_eq_none_iff.mp hfault) input hinput)
    | some fault =>
      -- The rates are in order, so the fault can only be the label.
      obtain ⟨run, hrun, hrunFault⟩ := List.exists_of_findSome?_eq_some hfault
      rw [if_pos hstem, Run.fault_eq_blankLabel (hrates run hrun) hrunFault]
  · have hnone : ∀ input ∈ inputs, ¬ input.TakesBlankStem :=
      fun input hinput htakes => hstem ⟨input, hinput, htakes⟩
    rw [if_neg hstem, List.findSome?_eq_none_iff.mpr (hvalid.mpr hnone)]

/-- Files that all hold one short report. -/
def reportEverywhere : FileView where
  readText := fun _ => .ok "Latency 1.00ms 1.00ms 1.00ms 50%\nRequests/sec: 1.0\n"
  isFile := fun _ => true
  isDirectory := fun _ => false
  canWrite := fun _ => false

/-- The run of the short report, under a label. -/
def shortRun (label : String) : Run where
  label := label
  rate := .ofNat 1
  latency :=
    { average := ⟨1000000⟩
      deviation := ⟨1000000⟩
      maximum := ⟨1000000⟩
      withinDeviation := .ofNat 50 }

/-- The leap day on which the runs of the examples are saved. -/
def leapDay : Timestamp := ⟨2024, 2, 29, 12, 30, 0, 500000000, 0⟩

/-- A stem that is a blank does no harm to an input with a label. -/
theorem readSaved_shortRuns :
    readSaved ⟨"runs.json"⟩
        (OutputFormat.json.render leapDay.universalText [shortRun "first", shortRun "second"]) =
      .ok [shortRun "first", shortRun "second"] := by
  have hinputs : ∀ input ∈ [InputSpec.mk none ⟨"d/first.txt"⟩, ⟨some "second", ⟨"d/ .txt"⟩⟩],
      ∃ text, InputSpec.parse text = .ok input := by
    rw [List.forall_mem_cons, List.forall_mem_singleton]
    exact ⟨⟨"d/first.txt", by decide +kernel⟩, ⟨"second = d/ .txt", by decide +kernel⟩⟩
  have hload : (loadAll reportEverywhere
      [InputSpec.mk none ⟨"d/first.txt"⟩, ⟨some "second", ⟨"d/ .txt"⟩⟩]).outcome =
        .ok [shortRun "first", shortRun "second"] := by
    decide +kernel
  obtain ⟨-, -, hsaved⟩ := validity_of_loadAll hinputs hload
  rw [hsaved (by decide +kernel) leapDay (by decide) _ (.json _) ⟨"runs.json"⟩,
    if_neg (by decide +kernel)]

/-- A report in a file whose stem is a blank is loaded as a run that is not valid, and that is refused
when it was saved. -/
theorem loadAll_blankStem :
    InputSpec.parse "d/ .txt" = .ok ⟨none, ⟨"d/ .txt"⟩⟩
      ∧ (loadAll reportEverywhere [⟨none, ⟨"d/ .txt"⟩⟩]).outcome = .ok [shortRun " "]
      ∧ (shortRun " ").fault? = some .blankLabel
      ∧ readSaved ⟨"runs.json"⟩ (OutputFormat.json.render leapDay.universalText [shortRun " "]) =
        .error (.invalidRun ⟨"runs.json"⟩ .blankLabel) := by
  refine ⟨by decide +kernel, by decide +kernel, by decide, ?_⟩
  exact readSaved_of_isSavedAs (t := leapDay) (by decide) (.json _) (by decide +kernel) _

end Input

end BenchCompare
