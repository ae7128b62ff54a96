import BenchCompare.Chart.Save
import Mathlib.Data.List.Forall2

/-!
# Refused charts

Each reason for which a chart is refused has a condition on the runs, the options, the path and the
files (`ChartFault.AppliesTo`), and the conditions exclude each other: a reason counts only if no
reason before it does.  A missing value is looked for metric by metric, and for each metric run by
run, so the first metric that any run lacks is reported with the first run that lacks it
(`Chart.panelsOf_eq_error_iff`).

The fault of a chart is the one whose condition holds, a chart that is refused before it is drawn
leaves all files as they are, and otherwise each panel has the values of all runs in order
(`FileTree.outcome_draw_iff`).
-/

namespace BenchCompare

/-! ### The first of a list -/

/-- An element of a list is the first one with a property. -/
def IsFirst {α : Type} (p : α → Prop) (xs : List α) (x : α) : Prop :=
  p x ∧ ∃ before after, xs = before ++ x :: after ∧ ∀ y ∈ before, ¬ p y

section First

variable {α : Type} {p : α → Prop} {x y : α} {xs : List α}

theorem not_isFirst_nil : ¬ IsFirst p [] x := by
  rintro ⟨-, before, after, heq, -⟩
  cases before <;> cases heq

/-- The first element with a property is the head, or it is the first one behind a head without the
property. -/
theorem isFirst_cons_iff :
    IsFirst p (y :: xs) x ↔ p y ∧ x = y ∨ ¬ p y ∧ IsFirst p xs x := by
  constructor
  · rintro ⟨hx, before, after, heq, hbefore⟩
    cases before with
    | nil =>
      obtain ⟨rfl, rfl⟩ := List.cons.inj heq
      exact .inl ⟨hx, rfl⟩
    | cons z before =>
      obtain ⟨rfl, rfl⟩ := List.cons.inj heq
      rw [List.forall_mem_cons] at hbefore
      exact .inr ⟨hbefore.1, hx, before, after, rfl, hbefore.2⟩
  · rintro (⟨hy, rfl⟩ | ⟨hy, hx, before, after, rfl, hbefore⟩)
    · exact ⟨hy, [], xs, rfl, nofun⟩
    · exact ⟨hx, y :: before, after, rfl, List.forall_mem_cons.mpr ⟨hy, hbefore⟩⟩

/-- There is a first element with a property exactly if there is one at all. -/
theorem exists_isFirst_iff : (∃ x, IsFirst p xs x) ↔ ∃ x ∈ xs, p x := by
  induction xs with
  | nil => simp [not_isFirst_nil]
  | cons y xs ih =>
    rw [List.exists_mem_cons_iff, ← ih]
    by_cases hy : p y
    · simp [isFirst_cons_iff, hy]
    · simp [isFirst_cons_iff, hy]

end First

/-! ### Panels -/

/-- A run lacks a metric if it has no value for it. -/
def Run.Lacks (run : Run) (metric : Metric) : Prop :=
  metric.value? run = none

instance (run : Run) (metric : Metric) : Decidable (run.Lacks metric) :=
  inferInstanceAs (Decidable (_ = _))

namespace Panel

/-- A panel shows a metric: it has one value for each run, in the order of the runs. -/
structure Shows (runs : List Run) (panel : Panel) (metric : Metric) : Prop where
  metric_eq : panel.metric = metric
  values : List.Forall₂ (fun value run => metric.value? run = some value) panel.values runs

variable {metric : Metric} {runs : List Run}

/-- The values of a metric are the values of the runs, one by one. -/
theorem values?_eq_ok_iff {values : List Binary64} :
    values? metric runs = .ok values ↔
      List.Forall₂ (fun value run => metric.value? run = some value) values runs := by
  induction runs generalizing values with
  | nil => cases values <;> simp [values?]
  | cons run rest ih =>
    rw [List.forall₂_cons_right_iff, values?]
    cases hvalue : metric.value? run with
    | none => simp
    | some value =>
      simp only [← ih]
      cases values? metric rest with
      | error lacking => simp [Except.map]
      | ok others => simp [Except.map, eq_comm]

/-- There are no values exactly if a run lacks the metric, and the first such run is named. -/
theorem values?_eq_error_iff {lacking : Run} :
    values? metric runs = .error lacking ↔ IsFirst (Run.Lacks · metric) runs lacking := by
  induction runs with
  | nil => simp [values?, not_isFirst_nil]
  | cons run rest ih =>
    rw [isFirst_cons_iff, ← ih, values?, Run.Lacks]
    cases hvalue : metric.value? run with
    | none => simp [eq_comm]
    | some value => cases values? metric rest <;> simp [Except.map]

/-- A panel is collected exactly if it shows the metric. -/
theorem collect_eq_ok_iff {panel : Panel} :
    collect metric runs = .ok panel ↔ panel.Shows runs metric := by
  have hshows : panel.Shows runs metric ↔
      panel.metric = metric ∧ values? metric runs = .ok panel.values := by
    rw [values?_eq_ok_iff]
    exact ⟨fun h => ⟨h.metric_eq, h.values⟩, fun h => ⟨h.1, h.2⟩⟩
  rw [hshows, collect]
  obtain ⟨shown, values⟩ := panel
  cases values? metric runs with
  | error lacking => simp [Except.map]
  | ok found => simp [Except.map, eq_comm]

/-- No panel is collected exactly if a run lacks the metric, and the first such run is named. -/
theorem collect_eq_error_iff {lacking : Run} :
    collect metric runs = .error lacking ↔ IsFirst (Run.Lacks · metric) runs lacking := by
  rw [← values?_eq_error_iff, collect]
  cases values? metric runs <;> simp [Except.map]

end Panel

namespace Chart

variable {runs : List Run} {metrics : List Metric}

/-- Panels are made exactly if they show the metrics, one by one. -/
theorem panelsOf_eq_ok_iff {panels : List Panel} :
    panelsOf runs metrics = .ok panels ↔ List.Forall₂ (Panel.Shows runs) panels metrics := by
  induction metrics generalizing panels with
  | nil => cases panels <;> simp [panelsOf]
  | cons metric rest ih =>
    rw [List.forall₂_cons_right_iff]
    simp only [← Panel.collect_eq_ok_iff, ← ih]
    rw [panelsOf]
    cases Panel.collect metric runs with
    | error lacking => simp
    | ok panel =>
      cases panelsOf runs rest with
      | error fault => simp [Except.map]
      | ok others => simp [Except.map, eq_comm]

/-- A metric that is the first one that some run lacks, and the first run that lacks it. -/
structure IsFirstLacking (runs : List Run) (metrics : List Metric) (metric : Metric) (run : Run) :
    Prop where
  metric_first : IsFirst (fun metric => ∃ run ∈ runs, run.Lacks metric) metrics metric
  run_first : IsFirst (Run.Lacks · metric) runs run

/-- Some run lacks some metric exactly if there is a first such metric and a first such run. -/
theorem exists_isFirstLacking_iff :
    (∃ metric run, IsFirstLacking runs metrics metric run) ↔
      ∃ metric ∈ metrics, ∃ run ∈ runs, run.Lacks metric := by
  rw [← exists_isFirst_iff]
  constructor
  · rintro ⟨metric, run, h⟩
    exact ⟨metric, h.metric_first⟩
  · rintro ⟨metric, hmetric⟩
    obtain ⟨run, hrun⟩ := exists_isFirst_iff.mpr hmetric.1
    exact ⟨metric, run, hmetric, hrun⟩

/-- Panels are refused for the first metric that some run lacks, with the first run that lacks
it. -/
theorem panelsOf_eq_error_iff {fault : ChartFault} :
    panelsOf runs metrics = .error fault ↔
      ∃ metric run, IsFirstLacking runs metrics metric run
        ∧ fault = .missingMetric run.label metric := by
  induction metrics with
  | nil =>
    constructor
    · nofun
    · rintro ⟨metric, run, h, -⟩
      exact absurd h.metric_first not_isFirst_nil
  | cons metric rest ih =>
    rw [panelsOf]
    cases hcollect : Panel.collect metric runs with
    | error lacking =>
      have hlacking := Panel.collect_eq_error_iff.mp hcollect
      have hmetric : ∃ run ∈ runs, run.Lacks metric := exists_isFirst_iff.mp ⟨lacking, hlacking⟩
      constructor
      · rintro ⟨⟩
        exact ⟨metric, lacking, ⟨isFirst_cons_iff.mpr (.inl ⟨hmetric, rfl⟩), hlacking⟩, rfl⟩
      · rintro ⟨other, run, ⟨hother, hrun⟩, rfl⟩
        rcases isFirst_cons_iff.mp hother with ⟨-, rfl⟩ | ⟨hnone, -⟩
        · cases hcollect.symm.trans (Panel.collect_eq_error_iff.mpr hrun)
          rfl
        · exact absurd hmetric hnone
    | ok panel =>
      have hmetric : ¬ ∃ run ∈ runs, run.Lacks metric := by
        rw [← exists_isFirst_iff]
        rintro ⟨run, hrun⟩
        cases hcollect.symm.trans (Panel.collect_eq_error_iff.mpr hrun)
      have hfirst : ∀ other run,
          IsFirstLacking runs (metric :: rest) other run ↔ IsFirstLacking runs rest other run := by
        intro other run
        have hiff : IsFirst (fun metric => ∃ run ∈ runs, run.Lacks metric) (metric :: rest) other ↔
            IsFirst (fun metric => ∃ run ∈ runs, run.Lacks metric) rest other := by
          rw [isFirst_cons_iff]
          simp [hmetric]
        exact ⟨fun h => ⟨hiff.mp h.1, h.2⟩, fun h => ⟨hiff.mpr h.1, h.2⟩⟩
      simp only [hfirst, ← ih]
      cases panelsOf runs rest <;> simp [Except.map]

/-! ### Plans -/

/-- A path lies in a directory that is missing; a path without a directory in it does not. -/
structure LiesInMissing (isDirectory : Path → Bool) (path directory : Path) : Prop where
  parent : path.parent? = some directory
  text_ne : directory.text ≠ ""
  missing : isDirectory directory = false

/-- The missing directory is the one in which the path lies. -/
theorem missingDirectory?_eq_some_iff {isDirectory : Path → Bool} {path directory : Path} :
    missingDirectory? isDirectory path = some directory ↔
      LiesInMissing isDirectory path directory := by
  rw [missingDirectory?, Option.filter_eq_some_iff]
  simp only [Bool.and_eq_true, Bool.not_eq_true', String.isEmpty_eq_false_iff]
  exact ⟨fun h => ⟨h.1, h.2.1, h.2.2⟩, fun h => ⟨h.1, h.2, h.3⟩⟩

end Chart

/-- Both sides of the picture are from 200 to 10000 pixels long. -/
structure ChartOptions.AreSizable (options : ChartOptions) : Prop where
  width : 200 ≤ options.width.toNat ∧ options.width.toNat ≤ 10000
  height : 200 ≤ options.height.toNat ∧ options.height.toNat ≤ 10000

theorem ChartOptions.isSide_iff {length : UInt32} :
    isSide length = true ↔ 200 ≤ length.toNat ∧ length.toNat ≤ 10000 := by
  rw [isSide, Bool.and_eq_true, decide_eq_true_eq, decide_eq_true_eq, UInt32.le_iff_toNat_le,
    UInt32.le_iff_toNat_le]
  rfl

/-- The options have a fault exactly if a side is too short or too long. -/
theorem ChartOptions.fault?_eq_none_iff {options : ChartOptions} :
    options.fault? = none ↔ options.AreSizable := by
  have hsides : (isSide options.width && isSide options.height) = true ↔ options.AreSizable := by
    rw [Bool.and_eq_true, isSide_iff, isSide_iff]
    exact ⟨fun h => ⟨h.1, h.2⟩, fun h => ⟨h.1, h.2⟩⟩
  rw [← hsides, fault?]
  split <;> simp_all

/-- Options with a side that is too short or too long are refused with both sides. -/
theorem ChartOptions.fault?_of_not_areSizable {options : ChartOptions}
    (h : ¬ options.AreSizable) :
    options.fault? = some (.invalidSize options.width options.height) := by
  have hsome : options.fault? ≠ none := mt fault?_eq_none_iff.mp h
  unfold fault? at hsome ⊢
  split at hsome <;> simp_all

/-- A reason, other than one that comes up while a chart is drawn, applies to a chart.  It does so
only if no reason in front of it applies. -/
def ChartFault.AppliesTo (isDirectory : Path → Bool) (runs : List Run) (path : Path)
    (options : ChartOptions) : ChartFault → Prop
  | .noRuns => runs = []
  | .invalidSize width height =>
    runs ≠ [] ∧ ¬ options.AreSizable ∧ width = options.width ∧ height = options.height
  | .missingDirectory directory =>
    runs ≠ [] ∧ options.AreSizable ∧ Chart.LiesInMissing isDirectory path directory
  | .missingMetric label metric =>
    runs ≠ [] ∧ options.AreSizable ∧ (∀ directory, ¬ Chart.LiesInMissing isDirectory path directory)
      ∧ ∃ run, Chart.IsFirstLacking runs options.metrics.metrics metric run ∧ label = run.label
  | .drawing => False

/-- A chart can be planned: none of the reasons for which it is refused applies. -/
structure Chart.IsPlannable (isDirectory : Path → Bool) (runs : List Run) (path : Path)
    (options : ChartOptions) : Prop where
  runs_ne : runs ≠ []
  sizable : options.AreSizable
  directory : ∀ directory, ¬ LiesInMissing isDirectory path directory
  complete : ∀ metric ∈ options.metrics.metrics, ∀ run ∈ runs, ¬ run.Lacks metric

namespace Chart

variable {isDirectory : Path → Bool} {runs : List Run} {path : Path} {options : ChartOptions}

/-- With runs, acceptable sides and a directory, a chart depends on its panels alone. -/
theorem plan_eq_map_panelsOf (hruns : runs ≠ []) (hsize : options.AreSizable)
    (hmissing : missingDirectory? isDirectory path = none) :
    plan isDirectory runs path options =
      (panelsOf runs options.metrics.metrics).map fun panels =>
        { title := options.title
          width := options.width
          height := options.height
          labels := runs.map Run.label
          panels } := by
  unfold plan
  rw [if_neg (by simpa using hruns)]
  simp only [ChartOptions.fault?_eq_none_iff.mpr hsize, hmissing]

/-- With runs and a side that is too short or too long, a chart is refused for its size. -/
theorem plan_of_not_areSizable (hruns : runs ≠ []) (hsize : ¬ options.AreSizable) :
    plan isDirectory runs path options = .error (.invalidSize options.width options.height) := by
  unfold plan
  rw [if_neg (by simpa using hruns)]
  simp only [ChartOptions.fault?_of_not_areSizable hsize]

/-- With runs and acceptable sides, a chart is refused for a directory that is missing. -/
theorem plan_of_missingDirectory {directory : Path} (hruns : runs ≠ [])
    (hsize : options.AreSizable) (hmissing : missingDirectory? isDirectory path = some directory) :
    plan isDirectory runs path options = .error (.missingDirectory directory) := by
  unfold plan
  rw [if_neg (by simpa using hruns)]
  simp only [ChartOptions.fault?_eq_none_iff.mpr hsize, hmissing]

/-- A chart is refused for the reason that applies to it. -/
theorem plan_eq_error_iff {fault : ChartFault} :
    plan isDirectory runs path options = .error fault ↔
      fault.AppliesTo isDirectory runs path options := by
  by_cases hruns : runs = []
  · subst hruns
    change Except.error ChartFault.noRuns = .error fault ↔ _
    cases fault <;> simp [ChartFault.AppliesTo]
  by_cases hsize : options.AreSizable
  · cases hmissing : missingDirectory? isDirectory path with
    | some directory =>
      have hlies : ∀ other, LiesInMissing isDirectory path other ↔ directory = other := by
        intro other
        rw [← missingDirectory?_eq_some_iff, hmissing, Option.some.injEq]
      rw [plan_of_missingDirectory hruns hsize hmissing]
      cases fault <;> simp [ChartFault.AppliesTo, hruns, hsize, hlies]
    | none =>
      have hlies : ∀ other, ¬ LiesInMissing isDirectory path other := by
        intro other
        rw [← missingDirectory?_eq_some_iff, hmissing]
        nofun
      have hpanels : plan isDirectory runs path options = .error fault ↔
          panelsOf runs options.metrics.metrics = .error fault := by
        rw [plan_eq_map_panelsOf hruns hsize hmissing]
        cases panelsOf runs options.metrics.metrics <;> simp [Except.map]
      rw [hpanels, panelsOf_eq_error_iff]
      cases fault <;> simp [ChartFault.AppliesTo, hruns, hsize, hlies]
  · rw [plan_of_not_areSizable hruns hsize]
    cases fault <;> simp [ChartFault.AppliesTo, hruns, hsize, eq_comm]

/-- A chart that is planned has a panel for each metric, and in it a value for each run. -/
theorem isPlannable_iff :
    IsPlannable isDirectory runs path options ↔
      ∃ chart, plan isDirectory runs path options = .ok chart
        ∧ List.Forall₂ (Panel.Shows runs) chart.panels options.metrics.metrics := by
  constructor
  · intro h
    have hmissing : missingDirectory? isDirectory path = none := by
      rw [Option.eq_none_iff_forall_ne_some]
      exact fun directory heq => h.directory directory (missingDirectory?_eq_some_iff.mp heq)
    have hplan := plan_eq_map_panelsOf h.runs_ne h.sizable hmissing
    cases hpanels : panelsOf runs options.metrics.metrics with
    | error fault =>
      obtain ⟨metric, run, hfirst, -⟩ := panelsOf_eq_error_iff.mp hpanels
      obtain ⟨metric, hmetric, run, hrun, hlacks⟩ := exists_isFirstLacking_iff.mp ⟨metric, run, hfirst⟩
      exact absurd hlacks (h.complete metric hmetric run hrun)
    | ok panels =>
      rw [hpanels] at hplan
      exact ⟨_, hplan, panelsOf_eq_ok_iff.mp hpanels⟩
  · rintro ⟨chart, hplan, -⟩
    have hnone : ∀ fault : ChartFault, ¬ fault.AppliesTo isDirectory runs path options := by
      intro fault happlies
      rw [plan_eq_error_iff.mpr happlies] at hplan
      cases hplan
    have hruns : runs ≠ [] := hnone .noRuns
    have hsize : options.AreSizable := by
      by_contra hsize
      exact hnone (.invalidSize _ _) ⟨hruns, hsize, rfl, rfl⟩
    have hdirectory : ∀ directory, ¬ LiesInMissing isDirectory path directory :=
      fun directory h => hnone (.missingDirectory directory) ⟨hruns, hsize, h⟩
    refine ⟨hruns, hsize, hdirectory, fun metric hmetric run hrun hlacks => ?_⟩
    obtain ⟨first, lacking, hfirst⟩ :=
      exists_isFirstLacking_iff.mpr ⟨metric, hmetric, run, hrun, hlacks⟩
    exact hnone (.missingMetric _ first) ⟨hruns, hsize, hdirectory, lacking, hfirst, rfl⟩

end Chart

/-! ### Drawing -/

namespace FileTree

variable {tree : FileTree} {runs : List Run} {path : Path} {options : ChartOptions}

/-- A chart that cannot be planned is not drawn, and leaves the files as they are. -/
theorem draw_of_plan_eq_error {fault : ChartFault} (hfault : fault ≠ .drawing)
    (h : Chart.plan tree.view.isDirectory runs path options = .error fault) :
    (tree.draw runs path options).outcome = .error fault
      ∧ (tree.draw runs path options).files = tree := by
  unfold draw Drawing.plan
  rw [h]
  cases fault with
  | drawing => exact absurd rfl hfault
  | _ => exact ⟨rfl, rfl⟩

/-- A chart that was planned is drawn, or drawing it fails. -/
theorem outcome_draw_of_plan_eq_ok {chart : Chart}
    (h : Chart.plan tree.view.isDirectory runs path options = .ok chart) :
    (tree.draw runs path options).outcome = .error .drawing
      ∨ ∃ kind, (tree.draw runs path options).outcome = .ok { chart, kind } := by
  unfold draw Drawing.plan
  rw [h]
  cases PictureKind.ofPath? path with
  | none => exact .inl rfl
  | some kind =>
    simp only
    cases tree.view.canWrite path with
    | false => exact .inl rfl
    | true => exact .inr ⟨kind, rfl⟩

/-- A chart is refused before it is drawn exactly for the reason that applies to it. -/
theorem outcome_draw_eq_error_iff {fault : ChartFault} :
    fault ≠ .drawing ∧ (tree.draw runs path options).outcome = .error fault ↔
      fault.AppliesTo tree.view.isDirectory runs path options := by
  rw [← Chart.plan_eq_error_iff]
  constructor
  · rintro ⟨hne, houtcome⟩
    cases hplan : Chart.plan tree.view.isDirectory runs path options with
    | error other =>
      have hother : other ≠ .drawing := by
        rintro rfl
        exact Chart.plan_eq_error_iff.mp hplan
      cases (draw_of_plan_eq_error hother hplan).1.symm.trans houtcome
      rfl
    | ok chart =>
      rcases outcome_draw_of_plan_eq_ok hplan with hdrawing | ⟨kind, hdrawn⟩
      · cases hdrawing.symm.trans houtcome
        exact absurd rfl hne
      · cases hdrawn.symm.trans houtcome
  · intro hplan
    have hne : fault ≠ .drawing := by
      rintro rfl
      exact Chart.plan_eq_error_iff.mp hplan
    exact ⟨hne, (draw_of_plan_eq_error hne hplan).1⟩

/-- A chart to which a reason applies leaves the files as they are. -/
theorem files_draw_of_appliesTo {fault : ChartFault}
    (h : fault.AppliesTo tree.view.isDirectory runs path options) :
    (tree.draw runs path options).files = tree := by
  have hne : fault ≠ .drawing := by
    rintro rfl
    exact h
  exact (draw_of_plan_eq_error hne (Chart.plan_eq_error_iff.mpr h)).2

/-- A value is missing exactly if nothing else is wrong and some run lacks some metric. -/
theorem exists_outcome_draw_eq_missingMetric_iff :
    (∃ label metric,
        (tree.draw runs path options).outcome = .error (.missingMetric label metric)) ↔
      runs ≠ [] ∧ options.AreSizable
        ∧ (∀ directory, ¬ Chart.LiesInMissing tree.view.isDirectory path directory)
        ∧ ∃ metric ∈ options.metrics.metrics, ∃ run ∈ runs, run.Lacks metric := by
  have hmissing : ∀ label metric,
      (tree.draw runs path options).outcome = .error (.missingMetric label metric) ↔
        ChartFault.AppliesTo tree.view.isDirectory runs path options
          (.missingMetric label metric) := by
    intro label metric
    rw [← outcome_draw_eq_error_iff]
    exact (and_iff_right nofun).symm
  rw [← Chart.exists_isFirstLacking_iff]
  simp only [hmissing, ChartFault.AppliesTo]
  constructor
  · rintro ⟨label, metric, hruns, hsize, hdirectory, run, hfirst, -⟩
    exact ⟨hruns, hsize, hdirectory, metric, run, hfirst⟩
  · rintro ⟨hruns, hsize, hdirectory, metric, run, hfirst⟩
    exact ⟨run.label, metric, hruns, hsize, hdirectory, run, hfirst, rfl⟩

/-- A run with a percentile and without a transfer rate. -/
def slowRun : Run where
  label := "slow"
  rate := .ofNat 10
  latency := ⟨⟨1500000⟩, ⟨0⟩, ⟨8000000⟩, .ofNat 90⟩
  distribution := [{ percent := .ofNat 99, latency := ⟨7000000⟩ }]

/-- A run with a transfer rate and without percentiles. -/
def fastRun : Run where
  label := "fast"
  rate := .ofNat 20
  latency := ⟨⟨500000⟩, ⟨0⟩, ⟨3000000⟩, .ofNat 90⟩
  transferRate := some 4096

/-- A tree with an earlier picture in it. -/
def treeWithPicture : FileTree where
  nodes := [(["out.png".toList], .file .binary)]

end FileTree

end BenchCompare
