import BenchCompare.Command.Run
import BenchCompare.Proofs.Settings.Keys
import BenchCompare.Proofs.Settings.Overrides
import Mathlib.Control.Monad.Basic

/-!
# Which source a setting is taken from

Four sources give settings: the command line, the environment, a settings file, and the defaults.
Each setting of its own is taken from the first of them that has it (`Config.precedence_of_resolve`).

The settings file is the one named on the command line, or else in the environment, or else the first
of the usual places where there is a file (`Config.IsChosenFile`).  What it gives are the settings
after reading, in which every setting may be missing; each of them is given by its key in the file
(`Config.Gives`).
-/

namespace BenchCompare

namespace Config

/-! ### The settings file -/

/-- The usual places for a settings file: two in the working directory and one in the home
directory. -/
def usualPlaces (home : Path) : List Path :=
  [⟨"./wrk-compare.yaml"⟩, ⟨"./.wrk-compare.yaml"⟩, home.join ⟨".config/wrk-compare/config.yaml"⟩]

/-- The places that are searched are the usual ones. -/
theorem locations_eq (home : Path) : locations home = usualPlaces home := by
  rfl

section File

variable {files : FileView} {home : Path} {named : Option Path} {lookup : String → Option String}

/-- Which settings file is used: the one named on the command line, or else the one that the variable
for it names, unless that is blank, or else the first of the usual places where there is a file, or
else none. -/
inductive IsChosenFile (files : FileView) (home : Path) (named : Option Path)
    (lookup : String → Option String) : Option Path → Prop
  | named {path : Path} (hnamed : named = some path) :
    IsChosenFile files home named lookup (some path)
  | variable {text : String} (hnamed : named = none)
    (hvariable : Environment.value? lookup "CONFIG" = some text) :
    IsChosenFile files home named lookup (some ⟨text⟩)
  | place {before after : List Path} {path : Path} (hnamed : named = none)
    (hvariable : Environment.value? lookup "CONFIG" = none)
    (hplaces : usualPlaces home = before ++ path :: after)
    (hbefore : ∀ earlier ∈ before, files.isFile earlier = false)
    (hpath : files.isFile path = true) : IsChosenFile files home named lookup (some path)
  | nowhere (hnamed : named = none) (hvariable : Environment.value? lookup "CONFIG" = none)
    (hplaces : ∀ path ∈ usualPlaces home, files.isFile path = false) :
    IsChosenFile files home named lookup none

/-- The settings that a settings file gives: those that are read from its text, each of which is given
by its key; none at all without a file. -/
inductive Gives (files : FileView) : Option Path → FileSettings → Prop
  | nothing : Gives files none {}
  | file {path : Path} {text : String} {settings : FileSettings}
    (htext : files.readText path = .ok text) (hsettings : readSettings path text = .ok settings)
    (hkeys : settings.AreGivenIn path text) : Gives files (some path) settings

/-- What a file gives is read from its text. -/
theorem Gives.eq_of_readSettings {path : Path} {text : String} {settings values : FileSettings}
    (h : Gives files (some path) settings) (htext : files.readText path = .ok text)
    (hvalues : readSettings path text = .ok values) : settings = values := by
  cases h with
  | file hfile hsettings _ =>
    rw [htext] at hfile
    cases hfile
    rw [hvalues] at hsettings
    exact (Except.ok.inj hsettings).symm

/-- The file that is loaded is the chosen one. -/
theorem isChosenFile_or (files : FileView) (home : Path) (named : Option Path)
    (lookup : String → Option String) :
    IsChosenFile files home named lookup
      ((named.or ((Environment.value? lookup "CONFIG").map Path.mk)).or (find? files home)) := by
  cases hnamed : named with
  | some path => exact .named rfl
  | none =>
    cases hvariable : Environment.value? lookup "CONFIG" with
    | some text => exact .variable rfl hvariable
    | none =>
      rw [Option.none_or, Option.map_none, Option.none_or, find?, locations_eq]
      cases hfind : (usualPlaces home).find? files.isFile with
      | some path =>
        obtain ⟨hpath, before, after, hplaces, hbefore⟩ := List.find?_eq_some_iff_append.mp hfind
        refine .place rfl hvariable hplaces (fun earlier hearlier => ?_) hpath
        simpa using hbefore earlier hearlier
      | none =>
        refine .nowhere rfl hvariable fun path hpath => ?_
        simpa using List.find?_eq_none.mp hfind path hpath

/-- Settings that were loaded from a file are the defaults with the settings of the file in their
place; they are valid, and their source is the file. -/
theorem exists_settings_of_load {path : Path} {config : Config} (h : load files path = .ok config) :
    ∃ settings, Gives files (some path) settings
      ∧ config = { ofFile settings with source := some path } ∧ config.fault? = none := by
  unfold load at h
  cases htext : files.readText path with
  | error fault =>
    rw [htext] at h
    cases h
  | ok text =>
    cases hsettings : readSettings path text with
    | error cause =>
      simp only [htext, parse, hsettings] at h
      cases h
    | ok settings =>
      cases hfault : (ofFile settings).fault? with
      | some fault =>
        simp only [htext, parse, hsettings, hfault] at h
        cases h
      | none =>
        simp only [htext, parse, hsettings, hfault] at h
        cases h
        exact ⟨settings, .file htext hsettings (areGivenIn_of_readSettings hsettings), rfl, hfault⟩

/-- Settings before the environment is applied. -/
theorem exists_settings_of_loadOrDefault {path : Option Path} {config : Config}
    (h : loadOrDefault files home path = .ok config) :
    ∃ settings, Gives files (path.or (find? files home)) settings
      ∧ config = { ofFile settings with source := path.or (find? files home) } := by
  unfold loadOrDefault at h
  cases hpath : path.or (find? files home) with
  | none =>
    rw [hpath] at h
    cases h
    exact ⟨{}, .nothing, rfl⟩
  | some path =>
    rw [hpath] at h
    obtain ⟨settings, hgives, hconfig, -⟩ := exists_settings_of_load h
    exact ⟨settings, hgives, hconfig⟩

end File

/-! ### All sources -/

/-- The settings of a file over the defaults: each is taken from the file or else from the
defaults. -/
structure IsOverDefaults (settings : FileSettings) (config : Config) : Prop where
  title : IsTakenFrom config.title
    [settings.title.map some, some (some "Benchmark Comparison")]
  output : IsTakenFrom config.output
    [settings.output.map some, some (some ⟨"benchmark_comparison.png"⟩)]
  width : IsTakenFrom config.width [settings.width.map some, some (some 1000)]
  height : IsTakenFrom config.height [settings.height.map some, some (some 600)]
  metrics : IsTakenFrom config.metrics [settings.metrics.map some, some (some .both)]
  format : IsTakenFrom config.format [settings.format.map some, some (some "table")]

theorem isOverDefaults_ofFile (settings : FileSettings) :
    IsOverDefaults settings (ofFile settings) where
  title := .getD _ (.here _)
  output := .getD _ (.here _)
  width := .getD _ (.here _)
  height := .getD _ (.here _)
  metrics := .getD _ (.here _)
  format := .getD _ (.here _)

/-- The settings in the end: the overlay of the environment over those of the chosen file, and
valid. -/
theorem exists_overlay_of_resolve {files : FileView} {home : Path} {named : Option Path}
    {lookup : String → Option String} {config : Config}
    (h : resolve files home named (Environment.ofVariables lookup) = .ok config) :
    ∃ source settings, IsChosenFile files home named lookup source ∧ Gives files source settings
      ∧ IsOverlay { ofFile settings with source } (Environment.ofVariables lookup) config
      ∧ config.fault? = none := by
  have hvariable : (Environment.ofVariables lookup).configFile =
      Environment.value? lookup "CONFIG" := rfl
  generalize Environment.ofVariables lookup = e at h hvariable ⊢
  unfold resolve at h
  rw [hvariable] at h
  cases hload : loadOrDefault files home
      (named.or ((Environment.value? lookup "CONFIG").map Path.mk)) with
  | error fault =>
    rw [hload] at h
    cases h
  | ok base =>
    obtain ⟨settings, hgives, rfl⟩ := exists_settings_of_loadOrDefault hload
    rw [hload] at h
    rcases happly : applyEnvironment { ofFile settings with
        source := (named.or ((Environment.value? lookup "CONFIG").map Path.mk)).or
          (find? files home) } e
      with ⟨result, _ | fault⟩
    · simp only [happly] at h
      cases h
      obtain ⟨hoverlay, hvalid⟩ := IsOverlay.of_applyEnvironment happly
      exact ⟨_, settings, isChosenFile_or files home named lookup, hgives, hoverlay, hvalid⟩
    · simp only [happly] at h
      cases h

/-- Valid settings name a format. -/
theorem ofName?_format {config : Config} (h : config.fault? = none) :
    OutputFormat.ofName? config.format = some config.outputFormat := by
  unfold fault? at h
  cases hname : OutputFormat.ofName? config.format with
  | none =>
    rw [hname] at h
    split at h
    · cases h
    · split at h <;> cases h
  | some format => rw [outputFormat, hname, Option.getD_some]

/-- The format in which runs are printed, if the command line asks for the given one or for none. -/
def PrintsIn (files : FileView) (format : Option OutputFormat) (config : Config)
    (shown : OutputFormat) : Prop :=
  ∀ now inputs runs, (Input.loadAll files inputs).outcome = .ok runs →
    (Command.runPrint files now inputs format config).printed = shown.render now runs ++ "\n"

/-- **Precedence of settings.**  If there are settings, a settings file was chosen and read, or there
is none.  Each setting of a chart is taken from the command line, or else from its environment
variable, or else from that file, or else from the defaults, whatever the other settings are; and so
is the format in which runs are printed. -/
theorem precedence_of_resolve {files : FileView} {home : Path} {named : Option Path}
    {lookup : String → Option String} {config : Config}
    (h : resolve files home named (Environment.ofVariables lookup) = .ok config) :
    ∃ source settings,
      IsChosenFile files home named lookup source
        ∧ Gives files source settings ∧ config.source = source
        ∧ (∀ arguments : Command.ChartArguments,
          let chart := Command.chartSettings arguments config
          let text? := Environment.value? lookup
          IsTakenFrom chart.options.title
              [arguments.title.map some, (text? "TITLE").map some, settings.title.map some,
                some (some "Benchmark Comparison")]
            ∧ IsTakenFrom chart.output
              [arguments.output.map some, (text? "OUTPUT").map fun text => some ⟨text⟩,
                settings.output.map some, some (some ⟨"benchmark_comparison.png"⟩)]
            ∧ IsTakenFrom chart.options.width
              [arguments.width.map some, (text? "WIDTH").map readPixels, settings.width.map some,
                some (some 1000)]
            ∧ IsTakenFrom chart.options.height
              [arguments.height.map some, (text? "HEIGHT").map readPixels, settings.height.map some,
                some (some 600)]
            ∧ IsTakenFrom chart.options.metrics
              [arguments.metric.map some, (text? "METRIC").map Selection.ofName?,
                settings.metrics.map some, some (some .both)])
        ∧ ∀ format : Option OutputFormat, ∃ shown,
          IsTakenFrom shown
              [format.map some, (Environment.value? lookup "FORMAT").map OutputFormat.ofName?,
                settings.format.map OutputFormat.ofName?, some (some .table)]
            ∧ PrintsIn files format config shown := by
  obtain ⟨source, settings, hchosen, hgives, hoverlay, hvalid⟩ := exists_overlay_of_resolve h
  have hdefaults := isOverDefaults_ofFile settings
  refine ⟨source, settings, hchosen, hgives, hoverlay.source, fun arguments => ?_,
    fun format => ?_⟩
  · exact ⟨.getD _ (hoverlay.title.onTop hdefaults.title),
      .getD _ (hoverlay.output.onTop hdefaults.output),
      .getD _ (hoverlay.width.onTop hdefaults.width),
      .getD _ (hoverlay.height.onTop hdefaults.height),
      .getD _ (hoverlay.metrics.onTop hdefaults.metrics)⟩
  · have htable : OutputFormat.ofName? "table" = some .table := by decide
    have hformat := (hoverlay.format.onTop hdefaults.format).read OutputFormat.ofName?
      (ofName?_format hvalid)
    simp only [List.map_cons, Option.map_map, List.map_nil, Option.map_some, Option.bind_some, htable]
      at hformat
    refine ⟨format.getD config.outputFormat, .getD _ hformat, fun now inputs runs hruns => ?_⟩
    simp only [Command.runPrint, hruns]

/-- A working directory with a settings file in the second of the usual places, and one elsewhere.
Both have all keys. -/
def hiddenSettings : FileView where
  readText path :=
    if path.text = "./.wrk-compare.yaml" then
      .ok ("title: Hidden\noutput: hidden.png\nwidth: 900\nheight: 500\n"
        ++ "metric: p99\nformat: csv\n")
    else if path.text = "own.json" then
      .ok ("\x7b\"title\": \"Own\", \"output\": \"own.png\", \"width\": 800, \"height\": 400, "
        ++ "\"metric\": \"all\", \"format\": \"json\"\x7d")
    else .error .notFound
  isFile path := path.text = "./.wrk-compare.yaml" || path.text = "own.json"
  isDirectory := fun _ => false
  canWrite := fun _ => false

/-- What the file in the usual place gives. -/
def hiddenValues : FileSettings where
  title := some "Hidden"
  output := some ⟨"hidden.png"⟩
  width := some 900
  height := some 500
  metrics := some .p99
  format := some "csv"

/-- What the file elsewhere gives. -/
def ownValues : FileSettings where
  title := some "Own"
  output := some ⟨"own.png"⟩
  width := some 800
  height := some 400
  metrics := some .all
  format := some "json"

/-- An environment with a width, and with a blank title and a blank name of a settings file. -/
def wideEnvironment (name : String) : Option String :=
  if name = "WRK_COMPARE_WIDTH" then some " 1100 "
  else if name = "WRK_COMPARE_TITLE" then some " \t"
  else if name = "WRK_COMPARE_CONFIG" then some " "
  else none

/-- The settings in that environment. -/
def wideConfig : Config where
  title := "Hidden"
  output := ⟨"hidden.png"⟩
  width := 1100
  height := 500
  metrics := .p99
  format := "csv"
  source := some ⟨"./.wrk-compare.yaml"⟩

/-- An environment that names a settings file, with a height and a format. -/
def namingEnvironment (name : String) : Option String :=
  if name = "WRK_COMPARE_CONFIG" then some "own.json"
  else if name = "WRK_COMPARE_HEIGHT" then some "650"
  else if name = "WRK_COMPARE_FORMAT" then some "markdown"
  else none

/-- The settings in that environment. -/
def ownConfig : Config where
  title := "Own"
  output := ⟨"own.png"⟩
  width := 800
  height := 650
  metrics := .all
  format := "markdown"
  source := some ⟨"own.json"⟩

/-- Without a name for it, the settings file is the one in the usual place, and all settings come from
it but the width: its variable is in front of the file, and the other variables are blank or not set.
With a name, the settings file is the one elsewhere, and the height and the format have a variable in
front of it. -/
theorem precedence_hiddenSettings :
    resolve hiddenSettings ⟨"home"⟩ none (Environment.ofVariables wideEnvironment) = .ok wideConfig
      ∧ resolve hiddenSettings ⟨"home"⟩ none (Environment.ofVariables namingEnvironment) =
        .ok ownConfig
      ∧ IsChosenFile hiddenSettings ⟨"home"⟩ none wideEnvironment (some ⟨"./.wrk-compare.yaml"⟩)
      ∧ Gives hiddenSettings (some ⟨"./.wrk-compare.yaml"⟩) hiddenValues
      ∧ IsChosenFile hiddenSettings ⟨"home"⟩ none namingEnvironment (some ⟨"own.json"⟩)
      ∧ Gives hiddenSettings (some ⟨"own.json"⟩) ownValues
      ∧ (∀ arguments : Command.ChartArguments,
        let chart := Command.chartSettings arguments wideConfig
        IsTakenFrom chart.options.title
            [arguments.title.map some, none, some (some "Hidden"),
              some (some "Benchmark Comparison")]
          ∧ IsTakenFrom chart.output
            [arguments.output.map some, none, some (some ⟨"hidden.png"⟩),
              some (some ⟨"benchmark_comparison.png"⟩)]
          ∧ IsTakenFrom chart.options.width
            [arguments.width.map some, some (some 1100), some (some 900), some (some 1000)]
          ∧ IsTakenFrom chart.options.height
            [arguments.height.map some, none, some (some 500), some (some 600)]
          ∧ IsTakenFrom chart.options.metrics
            [arguments.metric.map some, none, some (some .p99), some (some .both)])
      ∧ (∀ arguments : Command.ChartArguments,
        let chart := Command.chartSettings arguments ownConfig
        IsTakenFrom chart.options.height
          [arguments.height.map some, some (some 650), some (some 400), some (some 600)])
      ∧ (∀ format : Option OutputFormat, ∃ shown,
        IsTakenFrom shown [format.map some, none, some (some .csv), some (some .table)]
          ∧ PrintsIn hiddenSettings format wideConfig shown)
      ∧ ∀ format : Option OutputFormat, ∃ shown,
        IsTakenFrom shown
            [format.map some, some (some .markdown), some (some .json), some (some .table)]
          ∧ PrintsIn hiddenSettings format ownConfig shown := by
  have hwide : resolve hiddenSettings ⟨"home"⟩ none (Environment.ofVariables wideEnvironment) =
      .ok wideConfig := by
    decide +kernel
  have hnaming : resolve hiddenSettings ⟨"home"⟩ none (Environment.ofVariables namingEnvironment) =
      .ok ownConfig := by
    decide +kernel
  obtain ⟨_, settings, hchosen, hgives, rfl, hchart, hformat⟩ := precedence_of_resolve hwide
  obtain ⟨_, settings', hchosen', hgives', rfl, hchart', hformat'⟩ := precedence_of_resolve hnaming
  obtain rfl : settings = hiddenValues := hgives.eq_of_readSettings rfl (by decide +kernel)
  obtain rfl : settings' = ownValues := hgives'.eq_of_readSettings rfl (by decide +kernel)
  have hunset : ∀ name ∈ ["TITLE", "OUTPUT", "HEIGHT", "METRIC", "FORMAT"],
      Environment.value? wideEnvironment name = none := by
    decide +kernel
  have hwidth : (Environment.value? wideEnvironment "WIDTH").map readPixels = some (some 1100) := by
    decide +kernel
  have hheight : (Environment.value? namingEnvironment "HEIGHT").map readPixels =
      some (some 650) := by
    decide +kernel
  have hname : (Environment.value? namingEnvironment "FORMAT").map OutputFormat.ofName? =
      some (some .markdown) := by
    decide +kernel
  refine ⟨hwide, hnaming, hchosen, hgives, hchosen', hgives', fun arguments => ?_,
    fun arguments => ?_, fun format => ?_, fun format => ?_⟩
  · obtain ⟨htitle, houtput, hwidthFrom, hheightFrom, hmetrics⟩ := hchart arguments
    rw [hunset _ (by decide)] at htitle houtput hheightFrom hmetrics
    rw [hwidth] at hwidthFrom
    exact ⟨htitle, houtput, hwidthFrom, hheightFrom, hmetrics⟩
  · obtain ⟨-, -, -, hheightFrom, -⟩ := hchart' arguments
    rw [hheight] at hheightFrom
    exact hheightFrom
  · obtain ⟨shown, hshown, hprints⟩ := hformat format
    rw [hunset _ (by decide)] at hshown
    have hcsv : (hiddenValues.format.map OutputFormat.ofName?) = some (some .csv) := by decide
    rw [hcsv] at hshown
    exact ⟨shown, hshown, hprints⟩
  · obtain ⟨shown, hshown, hprints⟩ := hformat' format
    have hjson : (ownValues.format.map OutputFormat.ofName?) = some (some .json) := by decide
    rw [hname, hjson] at hshown
    exact ⟨shown, hshown, hprints⟩

end Config

end BenchCompare
