import BenchCompare.Proofs.Input.Validity

/-!
# Loading is concatenation

What is loaded from several inputs is what the single inputs contribute, one after the other, or else
nothing but the fault of the first input that fails (`Input.outcome_loadAll_iff`).  So the inputs can
be cut anywhere and loaded in two parts.

What a single input does depends on the extension of its file.  It is described by two relations:
`Input.Contributes` says which runs an input gives, and `Input.Fails` why it gives none.  Loading
follows them exactly (`Input.exists_load_iff`, `Input.load_eq_error_iff`).
-/

namespace BenchCompare

/-! ### The extension of a file -/

namespace Path

/-- A text with a point has a last point. -/
theorem exists_last_point {name : List Char} (h : '.' ∈ name) :
    ∃ stem extension, name = stem ++ '.' :: extension ∧ '.' ∉ extension := by
  induction name with
  | nil => cases h
  | cons c rest ih =>
    by_cases hrest : '.' ∈ rest
    · obtain ⟨stem, extension, rfl, hextension⟩ := ih hrest
      exact ⟨c :: stem, extension, rfl, hextension⟩
    · rcases List.mem_cons.mp h with rfl | hmem
      · exact ⟨[], rest, rfl, hrest⟩
      · exact absurd hmem hrest

/-- A text without a point is passed over from its end. -/
theorem bne_point_of_mem_reverse {name : List Char} (h : '.' ∉ name) :
    ∀ c ∈ name.reverse, (c != '.') = true := by
  intro c hc
  rw [bne_iff_ne]
  rintro rfl
  exact h (List.mem_reverse.mp hc)

/-- A name is cut at its last point, unless nothing is in front of it. -/
theorem cutName_append_point {stem extension : List Char} (hextension : '.' ∉ extension) :
    cutName (stem ++ '.' :: extension) =
      if stem = [] then ('.' :: extension, none) else (stem, some extension) := by
  have hafter : ((stem ++ '.' :: extension).reverse.takeWhile (· != '.')).reverse = extension := by
    rw [List.reverse_append, List.reverse_cons, List.append_assoc, List.singleton_append,
      List.takeWhile_append_of_pos (bne_point_of_mem_reverse hextension),
      List.takeWhile_cons_of_neg (by decide), List.append_nil, List.reverse_reverse]
  have hbefore : (stem ++ '.' :: extension).take
      ((stem ++ '.' :: extension).length - extension.length - 1) = stem := by
    rw [List.length_append, List.length_cons]
    exact List.take_left' (by omega)
  have hlength : (stem ++ '.' :: extension).length ≠ extension.length := by
    rw [List.length_append, List.length_cons]
    omega
  simp only [cutName, hafter, hbefore, decide_eq_false hlength.symm, Bool.false_or,
    List.isEmpty_iff]
  split
  · next hstem => rw [hstem, List.nil_append]
  · rfl

/-- A name without a point is not cut. -/
theorem cutName_of_not_mem {name : List Char} (h : '.' ∉ name) : cutName name = (name, none) := by
  have hafter : (name.reverse.takeWhile (· != '.')).reverse = name := by
    rw [List.takeWhile_eq_self_iff.mpr (bne_point_of_mem_reverse h), List.reverse_reverse]
  simp only [cutName, hafter, decide_true, Bool.true_or, if_true]

/-- The extension of a name is what follows its last point, provided that something is in front of
it. -/
theorem cutName_snd_eq_some_iff {name extension : List Char} :
    (cutName name).2 = some extension ↔
      ∃ stem, stem ≠ [] ∧ name = stem ++ '.' :: extension ∧ '.' ∉ extension := by
  constructor
  · intro h
    by_cases hpoint : '.' ∈ name
    · obtain ⟨stem, after, rfl, hafter⟩ := exists_last_point hpoint
      rw [cutName_append_point hafter] at h
      split at h
      · cases h
      · next hstem =>
        obtain rfl : after = extension := Option.some.inj h
        exact ⟨stem, hstem, rfl, hafter⟩
    · rw [cutName_of_not_mem hpoint] at h
      cases h
  · rintro ⟨stem, hstem, rfl, hextension⟩
    rw [cutName_append_point hextension, if_neg hstem]

end Path

/-- The file of an input has a name that ends in `.json`, in letters of any case, after something
else. -/
def InputSpec.IsNamedJson (input : InputSpec) : Prop :=
  ∃ stem extension, stem ≠ [] ∧ input.path.fileName? = some (stem ++ '.' :: extension)
    ∧ extension.map Char.toLower = "json".toList

/-- Saved runs are recognized by the name of their file. -/
theorem InputSpec.isSaved_iff {input : InputSpec} : input.isSaved = true ↔ input.IsNamedJson := by
  have hletters : ∀ extension, Text.sameLetters "json".toList extension = true ↔
      extension.map Char.toLower = "json".toList := by
    intro extension
    have hjson : "json".toList.map Char.toLower = "json".toList := by decide
    rw [Text.sameLetters, hjson, beq_iff_eq, eq_comm]
  have hpoint : ∀ extension : List Char, extension.map Char.toLower = "json".toList →
      '.' ∉ extension := by
    intro extension h hmem
    have hlower : '.' ∈ extension.map Char.toLower := List.mem_map.mpr ⟨'.', hmem, by decide⟩
    rw [h] at hlower
    exact absurd hlower (by decide)
  rw [isSaved, Path.hasExtension, Path.extension?, IsNamedJson]
  simp only [Option.any_eq_true, Option.bind_eq_some_iff, Path.cutName_snd_eq_some_iff, hletters]
  constructor
  · rintro ⟨extension, ⟨name, hname, stem, hstem, rfl, -⟩, hjson⟩
    exact ⟨stem, extension, hstem, hname, hjson⟩
  · rintro ⟨stem, extension, hstem, hname, hjson⟩
    exact ⟨extension, ⟨_, hname, stem, hstem, rfl, hpoint extension hjson⟩, hjson⟩

namespace Input

/-! ### One input -/

/-- The values of runs that the value of a file holds, in order: those in the list of results of a
set, those in a list, or the value itself. -/
inductive Holds : Json → List Json → Prop
  | set {value : Json} {fields : List (String × Json)} {items : List Json}
    (hfields : value.fields? ["generated_at", "results"] = some fields)
    (hresults : fields.lookup "results" = some (.array items)) : Holds value items
  | list (items : List Json) : Holds (.array items) items
  | single (value : Json) : Holds value [value]

/-- A text of saved runs: it is one value, and the runs are read one by one from the values that it
holds. -/
structure IsTextOf (text : String) (runs : List Run) : Prop where
  parse : parseSaved text = .ok runs
  inOrder : ∃ value items, Json.read? text = some (value, []) ∧ Holds value items
    ∧ List.Forall₂ (fun item run => Run.ofJson? item = some run) items runs

/-- The label of the run of a report: that of the input, or else the default label of the path. -/
def reportLabel (input : InputSpec) : String :=
  input.label.getD input.path.defaultLabel

/-- The runs that an input contributes: the one run of a report, under its label, or the runs that
were saved, in order and as they are, except that a single run takes the label of the input if there
is one.  Saved runs all have to be valid under their own labels. -/
inductive Contributes (files : FileView) (input : InputSpec) : List Run → Prop
  | report {text : String} {run : Run} (hname : ¬ input.IsNamedJson)
    (htext : files.readText input.path = .ok text)
    (hparse : Report.parse text (reportLabel input) = .ok run)
    (hlabel : run.label = reportLabel input) : Contributes files input [run]
  | stored {text : String} {runs : List Run} (hname : input.IsNamedJson)
    (htext : files.readText input.path = .ok text) (hruns : IsTextOf text runs)
    (hvalid : ∀ run ∈ runs, run.fault? = none)
    (hlabel : input.label = none ∨ runs.length ≠ 1) : Contributes files input runs
  | relabelled {text label : String} {run : Run} (hname : input.IsNamedJson)
    (htext : files.readText input.path = .ok text) (hruns : IsTextOf text [run])
    (hvalid : run.fault? = none) (hlabel : input.label = some label) :
    Contributes files input [{ run with label }]

/-- Why an input contributes nothing: its file cannot be read, its report has a fault, its text holds
no runs, or one of its saved runs is not valid, in which case the first such run counts. -/
inductive Fails (files : FileView) (input : InputSpec) : Cause → Prop
  | unreadable {fault : FileFault} (htext : files.readText input.path = .error fault) :
    Fails files input (.unreadable input.path fault)
  | report {text : String} {fault : Report.Fault} (hname : ¬ input.IsNamedJson)
    (htext : files.readText input.path = .ok text)
    (hparse : Report.parse text (reportLabel input) = .error fault) :
    Fails files input (.report fault)
  | badJson {text : String} {fault : JsonFault} (hname : input.IsNamedJson)
    (htext : files.readText input.path = .ok text) (hparse : parseSaved text = .error fault) :
    Fails files input (.badJson input.path fault)
  | invalidRun {text : String} {before after : List Run} {run : Run} {fault : Run.Fault}
    (hname : input.IsNamedJson) (htext : files.readText input.path = .ok text)
    (hruns : IsTextOf text (before ++ run :: after))
    (hvalid : ∀ earlier ∈ before, earlier.fault? = none) (hfault : run.fault? = some fault) :
    Fails files input (.invalidRun input.path fault)

/-- What is read one by one from a list. -/
theorem forall₂_of_mapM {read? : Json → Option Run} {items : List Json} {runs : List Run}
    (h : items.mapM read? = some runs) :
    List.Forall₂ (fun item run => read? item = some run) items runs := by
  induction items generalizing runs with
  | nil =>
    cases h
    exact .nil
  | cons item rest ih =>
    rw [List.mapM_cons] at h
    obtain ⟨run, hrun, h⟩ := Option.bind_eq_some_iff.mp h
    obtain ⟨others, hothers, h⟩ := Option.bind_eq_some_iff.mp h
    cases h
    exact .cons hrun (ih hothers)

/-- The runs of a value are read one by one from the values that it holds. -/
theorem exists_holds_of_savedOfJson? {value : Json} {runs : List Run}
    (h : Run.savedOfJson? value = some runs) :
    ∃ items, Holds value items
      ∧ List.Forall₂ (fun item run => Run.ofJson? item = some run) items runs := by
  have hlist : ∀ {list : Json} {runs : List Run}, Run.listOfJson? list = some runs →
      ∃ items, list = .array items
        ∧ List.Forall₂ (fun item run => Run.ofJson? item = some run) items runs := by
    intro list runs hlist
    cases list with
    | array items => exact ⟨items, rfl, forall₂_of_mapM hlist⟩
    | _ => cases hlist
  rw [Run.savedOfJson?, Option.or_eq_some_iff, Option.or_eq_some_iff] at h
  rcases h with hset | ⟨-, hruns | ⟨-, hrun⟩⟩
  · obtain ⟨fields, hfields, hset⟩ := Option.bind_eq_some_iff.mp hset
    obtain ⟨-, -, hresults⟩ := Option.bind_eq_some_iff.mp hset
    rw [Json.required?] at hresults
    cases hlookup : fields.lookup "results" with
    | none =>
      rw [hlookup] at hresults
      cases hresults
    | some list =>
      rw [hlookup] at hresults
      obtain ⟨items, rfl, hitems⟩ := hlist hresults
      exact ⟨items, .set hfields hlookup, hitems⟩
  · obtain ⟨items, rfl, hitems⟩ := hlist hruns
    exact ⟨items, .list items, hitems⟩
  · obtain ⟨run, hsingle, rfl⟩ := Option.map_eq_some_iff.mp hrun
    exact ⟨[value], .single value, .cons hsingle .nil⟩

/-- Saved runs are read one by one from the values that the text holds. -/
theorem IsTextOf.of_parseSaved {text : String} {runs : List Run} (h : parseSaved text = .ok runs) :
    IsTextOf text runs := by
  refine ⟨h, ?_⟩
  unfold parseSaved at h
  cases hread : Json.read? text with
  | none =>
    rw [hread] at h
    cases h
  | some parts =>
    obtain ⟨value, rest⟩ := parts
    cases hsaved : Run.savedOfJson? value with
    | none =>
      simp only [hread, hsaved] at h
      cases h
    | some saved =>
      simp only [hread, hsaved] at h
      split at h
      · next hrest =>
        cases h
        obtain ⟨items, hholds, hitems⟩ := exists_holds_of_savedOfJson? hsaved
        exact ⟨value, items, by rw [List.isEmpty_iff.mp hrest], hholds, hitems⟩
      · cases h

/-- Whether saved runs can be taken depends on the first of them that is not valid. -/
theorem readSaved_of_isTextOf {path : Path} {text : String} {runs : List Run}
    (h : IsTextOf text runs) :
    readSaved path text =
      match runs.findSome? Run.fault? with
      | some fault => .error (.invalidRun path fault)
      | none => .ok runs := by
  cases hfault : runs.findSome? Run.fault? with
  | some fault => simp only [readSaved, h.parse, hfault]
  | none => simp only [readSaved, h.parse, hfault]

/-- Relabelling changes the label of a single run only. -/
theorem relabel_eq (input : InputSpec) (runs : List Run) :
    (relabel input runs = runs ∧ (input.label = none ∨ runs.length ≠ 1))
      ∨ ∃ label run, input.label = some label ∧ runs = [run]
        ∧ relabel input runs = [{ run with label }] := by
  unfold relabel
  split
  · next label run hlabel => exact .inr ⟨label, run, hlabel, rfl, rfl⟩
  · next hother =>
    refine .inl ⟨rfl, ?_⟩
    cases hlabel : input.label with
    | none => exact .inl rfl
    | some label =>
      refine .inr fun hlength => ?_
      obtain ⟨run, rfl⟩ := List.length_eq_one_iff.mp hlength
      exact hother label run hlabel rfl

section Load

variable {files : FileView} {input : InputSpec} {text : String}

/-- An input whose file cannot be read is not loaded. -/
theorem load_of_unreadable {fault : FileFault} (htext : files.readText input.path = .error fault) :
    load files input = .error (.unreadable input.path fault) := by
  rw [load, htext]

/-- A report is loaded under its label. -/
theorem load_of_report (hname : ¬ input.IsNamedJson) (htext : files.readText input.path = .ok text) :
    load files input =
      match Report.parse text (reportLabel input) with
      | .error fault => .error (.report fault)
      | .ok run => .ok ⟨[run], []⟩ := by
  have hsaved : input.isSaved = false := by rwa [← InputSpec.isSaved_iff, Bool.not_eq_true] at hname
  cases hparse : Report.parse text (input.label.getD input.path.defaultLabel) with
  | error fault => simp only [load, htext, stored, hsaved, Bool.false_eq_true, if_false, reportLabel,
      hparse]
  | ok run => simp only [load, htext, stored, hsaved, Bool.false_eq_true, if_false, reportLabel,
      hparse]

/-- Saved runs are loaded if they are valid. -/
theorem load_of_saved (hname : input.IsNamedJson) (htext : files.readText input.path = .ok text) :
    load files input =
      match readSaved input.path text with
      | .error cause => .error cause
      | .ok runs => .ok ⟨relabel input runs, ignoredLabel input runs⟩ := by
  have hsaved : input.isSaved = true := InputSpec.isSaved_iff.mpr hname
  cases hread : readSaved input.path text with
  | error cause => simp only [load, htext, stored, hsaved, if_true, hread]
  | ok runs => simp only [load, htext, stored, hsaved, if_true, hread]

/-- What an input contributes is loaded. -/
theorem Contributes.exists_load {runs : List Run} (h : Contributes files input runs) :
    ∃ loaded, load files input = .ok loaded ∧ loaded.runs = runs := by
  cases h with
  | report hname htext hparse hlabel =>
    rw [load_of_report hname htext, hparse]
    exact ⟨_, rfl, rfl⟩
  | stored hname htext hruns hvalid hlabel =>
    rw [load_of_saved hname htext, readSaved_of_isTextOf hruns,
      List.findSome?_eq_none_iff.mpr hvalid]
    refine ⟨_, rfl, ?_⟩
    rcases relabel_eq input runs with ⟨hsame, -⟩ | ⟨label, run, hsome, rfl, -⟩
    · exact hsame
    · rcases hlabel with hnone | hlength
      · rw [hnone] at hsome
        cases hsome
      · exact absurd rfl hlength
  | relabelled hname htext hruns hvalid hlabel =>
    rw [load_of_saved hname htext, readSaved_of_isTextOf hruns,
      List.findSome?_eq_none_iff.mpr (by simpa using hvalid)]
    refine ⟨_, rfl, ?_⟩
    simp only [relabel, hlabel]

/-- An input that fails is not loaded, for that cause. -/
theorem Fails.load_eq {cause : Cause} (h : Fails files input cause) :
    load files input = .error cause := by
  cases h with
  | unreadable htext => exact load_of_unreadable htext
  | report hname htext hparse => rw [load_of_report hname htext, hparse]
  | badJson hname htext hparse =>
    rw [load_of_saved hname htext, readSaved, hparse]
  | @invalidRun _ before after run fault hname htext hruns hvalid hfault =>
    have hfirst : (before ++ run :: after).findSome? Run.fault? = some fault := by
      rw [List.findSome?_append, List.findSome?_eq_none_iff.mpr hvalid, List.findSome?_cons, hfault]
      rfl
    rw [load_of_saved hname htext, readSaved_of_isTextOf hruns, hfirst]

/-- Loading an input gives what it contributes, or the cause for which it fails. -/
theorem load_spec (files : FileView) (input : InputSpec) :
    match load files input with
    | .ok loaded => Contributes files input loaded.runs
    | .error cause => Fails files input cause := by
  cases htext : files.readText input.path with
  | error fault =>
    rw [load_of_unreadable htext]
    exact .unreadable htext
  | ok text =>
    by_cases hname : input.IsNamedJson
    · rw [load_of_saved hname htext]
      cases hparse : parseSaved text with
      | error fault =>
        rw [readSaved, hparse]
        exact .badJson hname htext hparse
      | ok runs =>
        have hruns := IsTextOf.of_parseSaved hparse
        rw [readSaved_of_isTextOf hruns]
        cases hfault : runs.findSome? Run.fault? with
        | some fault =>
          obtain ⟨before, run, after, rfl, hrun, hvalid⟩ :=
            List.findSome?_eq_some_iff.mp hfault
          exact .invalidRun hname htext hruns hvalid hrun
        | none =>
          have hvalid := List.findSome?_eq_none_iff.mp hfault
          rcases relabel_eq input runs with ⟨hsame, hlabel⟩ | ⟨label, run, hlabel, rfl, hsingle⟩
          · simp only [hsame]
            exact .stored hname htext hruns hvalid hlabel
          · simp only [hsingle]
            exact .relabelled hname htext hruns (hvalid run (List.mem_singleton_self run)) hlabel
    · rw [load_of_report hname htext]
      cases hparse : Report.parse text (reportLabel input) with
      | error fault => exact .report hname htext hparse
      | ok run =>
        exact .report hname htext hparse (Report.describes_of_parse_eq_ok hparse).label_eq

/-- An input is loaded exactly if it contributes runs, and these are loaded. -/
theorem exists_load_iff {runs : List Run} :
    (∃ loaded, load files input = .ok loaded ∧ loaded.runs = runs) ↔
      Contributes files input runs := by
  refine ⟨?_, Contributes.exists_load⟩
  rintro ⟨loaded, hload, rfl⟩
  have hspec := load_spec files input
  rwa [hload] at hspec

/-- An input is not loaded exactly if it fails, and the cause is the same. -/
theorem load_eq_error_iff {cause : Cause} :
    load files input = .error cause ↔ Fails files input cause := by
  refine ⟨fun hload => ?_, Fails.load_eq⟩
  have hspec := load_spec files input
  rwa [hload] at hspec

end Load

/-! ### All inputs -/

/-- A fault is that of the first input that fails; the inputs in front of it contribute runs. -/
def IsFirstFailing (files : FileView) (inputs : List InputSpec) (fault : Fault) : Prop :=
  ∃ before after, inputs = before ++ fault.input :: after
    ∧ (∀ input ∈ before, ∃ runs, Contributes files input runs) ∧ Fails files fault.input fault.cause

/-- The runs of inputs are what the inputs contribute, in order. -/
theorem outcome_loadAll_eq_ok_iff {files : FileView} {inputs : List InputSpec} {runs : List Run} :
    (loadAll files inputs).outcome = .ok runs ↔
      ∃ parts, List.Forall₂ (Contributes files) inputs parts ∧ runs = parts.flatten := by
  rw [outcome_loadAll, outcome_loadEach_iff]
  constructor
  · rintro ⟨loads, hloads, rfl⟩
    refine ⟨loads.map Loaded.runs, ?_, List.flatMap_def⟩
    rw [List.forall₂_map_right_iff]
    exact hloads.imp fun input loaded hload => exists_load_iff.mp ⟨loaded, hload, rfl⟩
  · rintro ⟨parts, hparts, rfl⟩
    induction hparts with
    | nil => exact ⟨[], .nil, rfl⟩
    | cons hpart _ ih =>
      obtain ⟨loaded, hload, rfl⟩ := hpart.exists_load
      obtain ⟨loads, hloads, hflatten⟩ := ih
      refine ⟨loaded :: loads, .cons hload hloads, ?_⟩
      rw [List.flatten_cons, hflatten, List.flatMap_cons]

/-- Loading fails with the fault of the first input that fails. -/
theorem outcome_loadAll_eq_error_iff {files : FileView} {inputs : List InputSpec} {fault : Fault} :
    (loadAll files inputs).outcome = .error fault ↔ IsFirstFailing files inputs fault := by
  rw [outcome_loadAll, IsFirstFailing]
  induction inputs with
  | nil =>
    constructor
    · intro h
      cases h
    · rintro ⟨before, after, hinputs, -⟩
      cases before <;> cases hinputs
  | cons input rest ih =>
    rw [loadEach]
    simp only [List.cons_eq_append_iff]
    cases hload : load files input with
    | error cause =>
      have hfails := load_eq_error_iff.mp hload
      constructor
      · intro h
        cases h
        exact ⟨[], rest, .inl ⟨rfl, rfl⟩, fun _ hmem => absurd hmem List.not_mem_nil, hfails⟩
      · rintro ⟨before, after, ⟨rfl, hinput⟩ | ⟨others, rfl, -⟩, hbefore, hcause⟩
        · obtain ⟨rfl, rfl⟩ := List.cons.inj hinput
          rw [hcause.load_eq] at hload
          cases hload
          rfl
        · obtain ⟨runs, hruns⟩ := hbefore input List.mem_cons_self
          obtain ⟨loaded, hok, -⟩ := hruns.exists_load
          rw [hok] at hload
          cases hload
    | ok loaded =>
      have hcontributes := exists_load_iff.mp ⟨loaded, hload, rfl⟩
      have hlater : ((loadEach files rest).outcome.map (loaded.runs ++ ·) = .error fault) ↔
          (loadEach files rest).outcome = .error fault := by
        cases (loadEach files rest).outcome with
        | error other => exact Iff.rfl
        | ok runs =>
          constructor
          · intro h
            cases h
          · intro h
            cases h
      rw [hlater, ih]
      constructor
      · rintro ⟨before, after, rfl, hbefore, hcause⟩
        refine ⟨input :: before, after, .inr ⟨before, rfl, rfl⟩, ?_, hcause⟩
        rw [List.forall_mem_cons]
        exact ⟨⟨_, hcontributes⟩, hbefore⟩
      · rintro ⟨before, after, ⟨rfl, hinput⟩ | ⟨others, rfl, hrest⟩, hbefore, hcause⟩
        · obtain ⟨rfl, -⟩ := List.cons.inj hinput
          rw [hcause.load_eq] at hload
          cases hload
        · rw [List.forall_mem_cons] at hbefore
          exact ⟨others, after, hrest, hbefore.2, hcause⟩

/-- Inputs that are loaded in two parts. -/
theorem outcome_loadAll_append (files : FileView) (xs ys : List InputSpec) :
    (loadAll files (xs ++ ys)).outcome =
      match (loadAll files xs).outcome, (loadAll files ys).outcome with
      | .error fault, _ => .error fault
      | .ok _, .error fault => .error fault
      | .ok first, .ok second => .ok (first ++ second) := by
  simp only [outcome_loadAll]
  induction xs with
  | nil =>
    rw [List.nil_append, loadEach]
    cases (loadEach files ys).outcome with
    | error fault => rfl
    | ok runs => rfl
  | cons input rest ih =>
    rw [List.cons_append, loadEach, loadEach]
    cases load files input with
    | error cause => rfl
    | ok loaded =>
      simp only [ih]
      cases (loadEach files rest).outcome with
      | error fault => rfl
      | ok first =>
        cases (loadEach files ys).outcome with
        | error fault => rfl
        | ok second => simp only [Except.map, List.append_assoc]

/-- **Loading is concatenation, all or nothing.**  An input is loaded exactly if it contributes runs,
and otherwise there is the cause for which it fails.  Inputs are loaded exactly if each of them
contributes runs, and the result is their runs in order; otherwise the fault is that of the first
input that fails, and names that input.  So loading inputs and then others gives the runs of the first
followed by the runs of the others. -/
theorem outcome_loadAll_iff (files : FileView) (inputs : List InputSpec) :
    (∀ input runs, (∃ loaded, load files input = .ok loaded ∧ loaded.runs = runs) ↔
        Contributes files input runs)
      ∧ (∀ input cause, load files input = .error cause ↔ Fails files input cause)
      ∧ (∀ runs, (loadAll files inputs).outcome = .ok runs ↔
          ∃ parts, List.Forall₂ (Contributes files) inputs parts ∧ runs = parts.flatten)
      ∧ (∀ fault, (loadAll files inputs).outcome = .error fault ↔
          IsFirstFailing files inputs fault)
      ∧ (∀ input cause, Fault.message { input, cause } =
          "Failed to load input '" ++ input.display ++ "': " ++ cause.message)
      ∧ ∀ more, (loadAll files (inputs ++ more)).outcome =
          match (loadAll files inputs).outcome, (loadAll files more).outcome with
          | .error fault, _ => .error fault
          | .ok _, .error fault => .error fault
          | .ok first, .ok second => .ok (first ++ second) :=
  ⟨fun _ _ => exists_load_iff, fun _ _ => load_eq_error_iff, fun _ => outcome_loadAll_eq_ok_iff,
    fun _ => outcome_loadAll_eq_error_iff, fun _ _ => rfl, outcome_loadAll_append files inputs⟩

end Input

end BenchCompare
