import BenchCompare.Input.Load
import BenchCompare.Output.Format
import BenchCompare.Proofs.Run.Json
import BenchCompare.Proofs.Timestamp.ReadBack

/-!
# Saved runs are loaded again

Runs can be saved as a set with the time of writing, which is what the two JSON formats print, as a
bare list, or as a bare record of a single run (`Run.IsSavedAs`).  Loading an input with such a text
gives the runs that were saved (`Input.load_of_isSavedAs`).

This holds of the runs that are *savable* (`Run.IsSavable`): they are valid and their numbers are
finite.  Of single numbers it takes that they are read back from their text, and of single durations
that they come back from their milliseconds.
-/

namespace BenchCompare

namespace Run

/-- A run that can be saved and loaded again: it is valid with finite numbers, its durations come
back from their milliseconds, and the finite numbers that are written for it are read back. -/
structure IsSavable (run : Run) : Prop where
  valid : run.fault? = none
  finite : ∀ x ∈ run.numbers, x.isFinite = true
  stable : run.IsStable
  readsBack : ∀ x ∈ run.writtenNumbers, x.isFinite = true → Json.ReadsBack x

instance (run : Run) : Decidable run.IsSavable :=
  decidable_of_iff (run.fault? = none ∧ (∀ x ∈ run.numbers, x.isFinite = true) ∧ run.IsStable
      ∧ ∀ x ∈ run.writtenNumbers, x.isFinite = true → Json.ReadsBack x)
    ⟨fun h => ⟨h.1, h.2.1, h.2.2.1, h.2.2.2⟩, fun h => ⟨h.valid, h.finite, h.stable, h.readsBack⟩⟩

/-- A run that is read back from its text, whether it is valid or not: its numbers are finite, its
durations come back from their milliseconds, and the finite numbers that are written for it are read
back. -/
structure IsLegible (run : Run) : Prop where
  finite : ∀ x ∈ run.numbers, x.isFinite = true
  stable : run.IsStable
  readsBack : ∀ x ∈ run.writtenNumbers, x.isFinite = true → Json.ReadsBack x

instance (run : Run) : Decidable run.IsLegible :=
  decidable_of_iff ((∀ x ∈ run.numbers, x.isFinite = true) ∧ run.IsStable
      ∧ ∀ x ∈ run.writtenNumbers, x.isFinite = true → Json.ReadsBack x)
    ⟨fun h => ⟨h.1, h.2.1, h.2.2⟩, fun h => ⟨h.finite, h.stable, h.readsBack⟩⟩

/-- A savable run is legible. -/
theorem IsSavable.isLegible {run : Run} (h : run.IsSavable) : run.IsLegible :=
  ⟨h.finite, h.stable, h.readsBack⟩

/-- The numbers that are written for a legible run are read back. -/
theorem IsLegible.readsBack_of_mem {run : Run} (h : run.IsLegible) :
    ∀ x ∈ run.writtenNumbers, Json.ReadsBack x := by
  intro x hx
  refine h.readsBack x hx ?_
  rcases List.mem_append.mp hx with hx | hx
  · exact h.finite x hx
  · obtain ⟨d, hd, rfl⟩ := List.mem_map.mp hx
    exact (h.stable d hd).isFinite

/-- The texts in which runs are saved, the time of writing being a moment of universal time. -/
inductive IsSavedAs (t : Timestamp) : List Run → String → Prop
  | json (runs : List Run) : IsSavedAs t runs (OutputFormat.json.render t.universalText runs)
  | jsonPretty (runs : List Run) :
    IsSavedAs t runs (OutputFormat.jsonPretty.render t.universalText runs)
  | list (layout : Json.Layout) (runs : List Run) :
    IsSavedAs t runs ((listToJson runs).render layout)
  | single (layout : Json.Layout) (run : Run) : IsSavedAs t [run] (run.toJson.render layout)

/-- A text in which legible runs are saved is the text of a value that is read as these runs. -/
theorem IsSavedAs.exists_json_of_isLegible {t : Timestamp} (ht : t.isValid = true)
    {runs : List Run} {text : String} (h : IsSavedAs t runs text)
    (hruns : ∀ run ∈ runs, run.IsLegible) :
    ∃ value, Json.read? text = some (value, []) ∧ savedOfJson? value = some runs := by
  have hstable : ∀ run ∈ runs, run.IsStable := fun run hrun => (hruns run hrun).stable
  have hnumbers : ∀ run ∈ runs, ∀ x ∈ run.writtenNumbers, Json.ReadsBack x :=
    fun run hrun => (hruns run hrun).readsBack_of_mem
  obtain ⟨nanosecond, htime⟩ := Timestamp.exists_parse?_universalText ht
  -- A set is nested the most deeply: five brackets of the 127 that the reader goes into.
  cases h with
  | json =>
    exact ⟨_, Json.read?_render (isReadable_setToJson hnumbers _ 122) .compact,
      savedOfJson?_setToJson hstable htime⟩
  | jsonPretty =>
    exact ⟨_, Json.read?_render (isReadable_setToJson hnumbers _ 122) .indented,
      savedOfJson?_setToJson hstable htime⟩
  | list layout =>
    exact ⟨_, Json.read?_render (isReadable_listToJson hnumbers 123) layout,
      savedOfJson?_listToJson hstable⟩
  | single layout run =>
    have hrun : run ∈ [run] := List.mem_singleton_self run
    exact ⟨_, Json.read?_render (isReadable_toJson (hnumbers run hrun) 124) layout,
      savedOfJson?_toJson (hstable run hrun)⟩

/-- A text in which runs are saved is the text of a value that is read as these runs. -/
theorem IsSavedAs.exists_json {t : Timestamp} (ht : t.isValid = true) {runs : List Run}
    {text : String} (h : IsSavedAs t runs text) (hruns : ∀ run ∈ runs, run.IsSavable) :
    ∃ value, Json.read? text = some (value, []) ∧ savedOfJson? value = some runs :=
  h.exists_json_of_isLegible ht fun run hrun => (hruns run hrun).isLegible

end Run

namespace Input

/-- **Saved runs are loaded again.**  Loading an input without a label, whose file has a text in
which savable runs are saved, gives exactly these runs, and no warning. -/
theorem load_of_isSavedAs {files : FileView} {input : InputSpec} {t : Timestamp} {runs : List Run}
    {text : String} (hlabel : input.label = none) (hsaved : input.isSaved = true)
    (htext : files.readText input.path = .ok text) (ht : t.isValid = true)
    (hruns : ∀ run ∈ runs, run.IsSavable) (h : Run.IsSavedAs t runs text) :
    load files input = .ok ⟨runs, []⟩ := by
  obtain ⟨value, hread, hvalue⟩ := h.exists_json ht hruns
  have hparse : parseSaved text = .ok runs := by
    rw [parseSaved, hread]
    simp only [hvalue, List.isEmpty_nil, if_true]
  have hvalid : runs.findSome? Run.fault? = none :=
    List.findSome?_eq_none_iff.mpr fun run hrun => (hruns run hrun).valid
  have hstored : stored input text = .ok runs := by
    rw [stored, if_pos hsaved, readSaved, hparse]
    simp only [hvalid]
  rw [load, htext]
  simp only [hstored, if_pos hsaved, relabel, ignoredLabel, hlabel]

/-- A run whose label needs escapes, with the greatest count. -/
def escapedRun : Run where
  label := "naïve \"GET\" \\ \u0007\n"
  rate := .ofRatio 2469 2
  latency :=
    { average := ⟨1500000⟩
      deviation := ⟨250000⟩
      maximum := ⟨8000000⟩
      withinDeviation := .ofRatio 187 2 }
  elapsed := some ⟨2000000000⟩
  distribution := [{ percent := .ofNat 50, latency := ⟨1000000⟩ }]
  requests := some 18446744073709551615

/-- A run with escapes in its label is loaded again from the indented format. -/
theorem load_escapedRun :
    load
      { readText := fun _ => .ok (OutputFormat.jsonPretty.render
          (Timestamp.universalText ⟨2024, 2, 29, 12, 30, 0, 500000000, 0⟩) [escapedRun])
        isFile := fun _ => true
        isDirectory := fun _ => false
        canWrite := fun _ => false }
      { label := none, path := ⟨"runs.json"⟩ } = .ok ⟨[escapedRun], []⟩ :=
  load_of_isSavedAs rfl (by decide) rfl
    (show Timestamp.isValid ⟨2024, 2, 29, 12, 30, 0, 500000000, 0⟩ = true by decide)
    (by decide +kernel) (.jsonPretty _)

end Input

end BenchCompare
