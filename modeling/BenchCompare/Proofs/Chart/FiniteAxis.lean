import BenchCompare.Proofs.Chart.Axis
import BenchCompare.Proofs.Duration.Milliseconds
import BenchCompare.Proofs.Input.Validity

/-!
# Axes that end

The room above the highest bar is a factor, so the end of the axis is infinite if the highest bar is
among the last finite numbers.  There is a greatest number with room above it, the tallest bar, and an
axis is finite exactly if no value is greater (`Panel.isFinite_yMax_iff`).

Values that are computed from counts of 64 bits, durations and amounts of data, stay far below the
tallest bar (`Panel.hasRoom_of_value?`).  Rates of requests are read as they are written, and
all that is asked of them is that they are finite and not below zero.  So the axis of a panel of
rates, and only such an axis, can be infinite (`Panel.isFinite_yMax_iff_of_loadAll`), and a report
with a huge rate is all it takes (`Panel.yMax_hugePanel`).
-/

namespace BenchCompare

/-- Of two lists that are related element by element, each element of the first has a partner in the
second. -/
theorem exists_mem_of_forall₂ {α β : Type} {R : α → β → Prop} {xs : List α} {ys : List β}
    (h : List.Forall₂ R xs ys) {x : α} (hx : x ∈ xs) : ∃ y ∈ ys, R x y := by
  induction h with
  | nil => cases hx
  | cons hhead _ ih =>
    rcases List.mem_cons.mp hx with rfl | htail
    · exact ⟨_, List.mem_cons_self, hhead⟩
    · obtain ⟨y, hy, hxy⟩ := ih htail
      exact ⟨y, List.mem_cons_of_mem _ hy, hxy⟩

namespace Panel

/-! ### The tallest bar -/

/-- The greatest number with room above it. -/
def tallestBar : Binary64 := .ofDecimal 1563211421619405 293

/-- The number next to the tallest bar. -/
def tooTallBar : Binary64 := .ofDecimal 15632114216194053 292

theorem isFiniteNonneg_tallestBar : tallestBar.isFiniteNonneg = true := by
  decide +kernel

theorem isFiniteNonneg_tooTallBar : tooTallBar.isFiniteNonneg = true := by
  decide +kernel

theorem tallestBar_ne_nan : tallestBar ≠ .nan :=
  (Binary64.isFiniteNonneg_iff.mp isFiniteNonneg_tallestBar).1

theorem tooTallBar_ne_nan : tooTallBar ≠ .nan :=
  (Binary64.isFiniteNonneg_iff.mp isFiniteNonneg_tooTallBar).1

theorem zero_lt_headroom : Binary64.lt .zero headroom = true := by
  decide +kernel

/-- The axis of the tallest bar is finite. -/
theorem isFinite_tallestBar_mul : (tallestBar.mul headroom).isFinite = true := by
  decide +kernel

/-- The axis of the next number is not. -/
theorem tooTallBar_mul : tooTallBar.mul headroom = .infinity := by
  decide +kernel

/-- There is no number between the two. -/
theorem tooTallBar_le_of_lt {value : Binary64} (h : Binary64.lt tallestBar value = true) :
    Binary64.le tooTallBar value = true := by
  have hnext : tooTallBar.point = tallestBar.point + 1 := by decide +kernel
  rw [Binary64.le_iff_point_le tooTallBar_ne_nan (Binary64.ne_nan_of_lt h).2, hnext]
  exact Binary64.point_lt_of_lt h

/-- A value with room above it: it is not below zero, and not beyond the tallest bar. -/
structure HasRoom (value : Binary64) : Prop where
  zero_le : Binary64.le .zero value = true
  le_tallestBar : Binary64.le value tallestBar = true

theorem HasRoom.isFiniteNonneg {value : Binary64} (h : HasRoom value) :
    value.isFiniteNonneg = true :=
  Binary64.isFiniteNonneg_of_le h.zero_le h.le_tallestBar
    (Binary64.isFinite_of_isFiniteNonneg isFiniteNonneg_tallestBar)

/-- The axis for a greatest value is finite exactly if that value is not beyond the tallest bar. -/
theorem isFinite_axisEnd_iff {greatest : Binary64} (h : greatest ≠ .nan) :
    (axisEnd greatest).isFinite = true ↔ Binary64.lt tallestBar greatest = false := by
  by_cases hpos : Binary64.lt .zero greatest = true
  · have hzero : Binary64.le .zero greatest = true := Binary64.le_of_lt hpos
    have hend : axisEnd greatest = greatest.mul headroom := if_pos hpos
    constructor
    · intro hfinite
      rw [Bool.eq_false_iff]
      intro hbeyond
      have hgreatest : greatest.isFiniteNonneg = true :=
        Binary64.isFiniteNonneg_of_le hzero (le_axisEnd h) hfinite
      have hproduct := Binary64.mul_le_mul isFiniteNonneg_tooTallBar hgreatest zero_lt_headroom
        isFinite_headroom (tooTallBar_le_of_lt hbeyond)
      rw [tooTallBar_mul, ← hend] at hproduct
      have hinfinity := Binary64.isFiniteNonneg_of_le (by decide) hproduct hfinite
      exact absurd hinfinity (by decide)
    · intro hnot
      have hle : Binary64.le greatest tallestBar = true :=
        Binary64.le_of_lt_eq_false tallestBar_ne_nan h hnot
      have hroom : HasRoom greatest := ⟨hzero, hle⟩
      have hproduct := Binary64.mul_le_mul hroom.isFiniteNonneg isFiniteNonneg_tallestBar
        zero_lt_headroom isFinite_headroom hle
      rw [← hend] at hproduct
      exact Binary64.isFinite_of_isFiniteNonneg (Binary64.isFiniteNonneg_of_le
        (Binary64.le_of_lt (zero_lt_axisEnd greatest)) hproduct isFinite_tallestBar_mul)
  · have hend : axisEnd greatest = .ofNat 1 := if_neg hpos
    rw [hend]
    refine iff_of_true (by decide +kernel) (Bool.eq_false_iff.mpr fun hbeyond => hpos ?_)
    exact Binary64.lt_trans (by decide +kernel) hbeyond

/-- **The axis of a panel is finite** exactly if no value of the panel is beyond the tallest bar. -/
theorem isFinite_yMax_iff (panel : Panel) :
    panel.yMax.isFinite = true ↔
      ∀ value ∈ panel.values, Binary64.lt tallestBar value = false := by
  have hpeak := Binary64.isPeak_foldl_max panel.values
  unfold yMax
  rw [isFinite_axisEnd_iff hpeak.ne_nan]
  constructor
  · intro hgreatest value hmem
    rw [Bool.eq_false_iff]
    intro hbeyond
    have hle := hpeak.le hmem (Binary64.ne_nan_of_lt hbeyond).2
    rw [Binary64.lt_of_lt_of_le hbeyond hle] at hgreatest
    cases hgreatest
  · intro hvalues
    rcases hpeak.attained with hzero | ⟨-, hmem⟩
    · rw [hzero]
      decide +kernel
    · exact hvalues _ hmem

/-- An axis that is not finite is infinite. -/
theorem yMax_eq_infinity {panel : Panel} (h : panel.yMax.isFinite = false) :
    panel.yMax = .infinity :=
  Binary64.eq_infinity_of_zero_lt (zero_lt_axisEnd _) h

/-! ### The values of runs -/

/-- The quotient of a count of 64 bits has room above it, if that of `2⁶⁴` is not beyond the tallest
bar. -/
theorem hasRoom_of_count (n : UInt64) {unit : Binary64} (hpos : Binary64.lt .zero unit = true)
    (hfinite : unit.isFinite = true)
    (hbound : Binary64.le ((Binary64.ofNat UInt64.size).div unit) tallestBar = true) :
    HasRoom ((Binary64.ofNat n.toNat).div unit) := by
  have hword : n.toNat < Nat.pow 2 64 := n.toNat_lt
  have hnumber := Binary64.isFiniteNonneg_ofNat (by decide) hword
  have hsize : (Binary64.ofNat UInt64.size).isFiniteNonneg = true := by decide +kernel
  have horder : Binary64.le (.ofNat n.toNat) (.ofNat UInt64.size) = true :=
    Binary64.ofNat_le_ofNat (Nat.le_of_lt hword)
  have hquotients := Binary64.div_le_div hnumber hsize hpos hfinite horder
  exact ⟨Binary64.zero_le_div hnumber hpos hfinite, Binary64.le_trans hquotients hbound⟩

theorem hasRoom_milliseconds (d : Duration) : HasRoom d.milliseconds :=
  hasRoom_of_count d.nanoseconds Duration.zero_lt_perMillisecond Duration.isFinite_perMillisecond
    (by decide +kernel)

/-- The values of all metrics but the rate of requests have room above them. -/
theorem hasRoom_of_value? {metric : Metric} {run : Run} {value : Binary64}
    (hmetric : metric ≠ .requestRate) (h : metric.value? run = some value) : HasRoom value := by
  cases metric with
  | requestRate => exact absurd rfl hmetric
  | averageLatency =>
    obtain rfl := Option.some.inj h
    exact hasRoom_milliseconds _
  | p99Latency =>
    obtain ⟨d, -, rfl⟩ := Option.map_eq_some_iff.mp h
    exact hasRoom_milliseconds d
  | transferRate =>
    obtain ⟨bytes, -, rfl⟩ := Option.map_eq_some_iff.mp h
    exact hasRoom_of_count bytes (by decide +kernel) (by decide +kernel) (by decide +kernel)

variable {metric : Metric} {runs : List Run} {panel : Panel} {value : Binary64}

/-- The values of a panel are the values of the runs. -/
theorem Shows.mem_values_iff (h : panel.Shows runs metric) :
    value ∈ panel.values ↔ ∃ run ∈ runs, metric.value? run = some value := by
  constructor
  · exact exists_mem_of_forall₂ h.values
  · rintro ⟨run, hrun, hvalue⟩
    obtain ⟨shown, hshown, hsame⟩ := exists_mem_of_forall₂ h.values.flip hrun
    have hsame : metric.value? run = some shown := hsame
    rw [hvalue] at hsame
    rwa [Option.some.inj hsame]

/-- A value of a panel is the rate of a run, or it has room above it. -/
theorem Shows.cases_of_mem (h : panel.Shows runs metric) (hmem : value ∈ panel.values) :
    (metric = .requestRate ∧ ∃ run ∈ runs, run.rate = value)
      ∨ HasRoom value := by
  obtain ⟨run, hrun, hvalue⟩ := h.mem_values_iff.mp hmem
  by_cases hmetric : metric = .requestRate
  · subst hmetric
    exact .inl ⟨rfl, run, hrun, Option.some.inj hvalue⟩
  · exact .inr (hasRoom_of_value? hmetric hvalue)

/-- The values of runs whose rates are finite and not below zero are finite and not below zero. -/
theorem Shows.isFiniteNonneg_of_mem (h : panel.Shows runs metric)
    (hrates : ∀ run ∈ runs, run.rate.isFiniteNonneg = true) (hmem : value ∈ panel.values) :
    value.isFiniteNonneg = true := by
  rcases h.cases_of_mem hmem with ⟨-, run, hrun, rfl⟩ | hroom
  · exact hrates run hrun
  · exact hroom.isFiniteNonneg

/-- The axis of a panel of such runs is finite exactly if the panel does not show rates of requests, or
no rate is beyond the tallest bar. -/
theorem Shows.isFinite_yMax_iff (h : panel.Shows runs metric)
    (hrates : ∀ run ∈ runs, run.rate.isFiniteNonneg = true) :
    panel.yMax.isFinite = true ↔
      (metric = .requestRate → ∀ run ∈ runs, Binary64.le run.rate tallestBar = true) := by
  rw [Panel.isFinite_yMax_iff]
  constructor
  · rintro hvalues rfl run hrun
    have hmem : run.rate ∈ panel.values := h.mem_values_iff.mpr ⟨run, hrun, rfl⟩
    have hrate : run.rate ≠ .nan := (Binary64.isFiniteNonneg_iff.mp (hrates run hrun)).1
    exact Binary64.le_of_lt_eq_false tallestBar_ne_nan hrate (hvalues _ hmem)
  · intro hbound value hmem
    have hle : Binary64.le value tallestBar = true := by
      rcases h.cases_of_mem hmem with ⟨hmetric, run, hrun, rfl⟩ | hroom
      · exact hbound hmetric run hrun
      · exact hroom.le_tallestBar
    rw [Bool.eq_false_iff]
    intro hbeyond
    exact Int.lt_irrefl _ (Binary64.point_lt_of_lt (Binary64.lt_of_lt_of_le hbeyond hle))

/-! ### Loaded runs -/

/-- **The axes of loaded runs.**  The panels of runs that were loaded only have values that are finite
and not below zero.  Their axes are finite or infinite, and an axis is infinite exactly if its panel
shows the rates of requests and one of them is beyond the tallest bar.  So all axes of a selection are
finite exactly if it leaves out the rates, or none of them is beyond the tallest bar. -/
theorem isFinite_yMax_iff_of_loadAll {files : FileView} {inputs : List InputSpec}
    {runs : List Run} {selection : Selection} {panels : List Panel}
    (hload : (Input.loadAll files inputs).outcome = .ok runs)
    (hpanels : Chart.panelsOf runs selection.metrics = .ok panels) :
    (∀ panel ∈ panels,
        (∀ value ∈ panel.values, value.isFiniteNonneg = true)
          ∧ (panel.yMax.isFinite = true ∨ panel.yMax = .infinity)
          ∧ (panel.yMax.isFinite = true ↔
              (panel.metric = .requestRate →
                ∀ run ∈ runs, Binary64.le run.rate tallestBar = true)))
      ∧ ((∀ panel ∈ panels, panel.yMax.isFinite = true) ↔
          (.requestRate ∈ selection.metrics →
            ∀ run ∈ runs, Binary64.le run.rate tallestBar = true)) := by
  rw [Input.outcome_loadAll] at hload
  have hrates := Input.isFiniteNonneg_rate_of_loadEach hload
  have hshows := Chart.panelsOf_eq_ok_iff.mp hpanels
  have hshown : ∀ panel ∈ panels,
      panel.metric ∈ selection.metrics ∧ panel.Shows runs panel.metric := by
    intro panel hpanel
    obtain ⟨metric, hmetric, hshow⟩ := exists_mem_of_forall₂ hshows hpanel
    obtain rfl := hshow.metric_eq
    exact ⟨hmetric, hshow⟩
  have haxis : ∀ panel ∈ panels, panel.yMax.isFinite = true ↔
      (panel.metric = .requestRate → ∀ run ∈ runs, Binary64.le run.rate tallestBar = true) :=
    fun panel hpanel => (hshown panel hpanel).2.isFinite_yMax_iff hrates
  constructor
  · intro panel hpanel
    refine ⟨fun value => (hshown panel hpanel).2.isFiniteNonneg_of_mem hrates, ?_, haxis panel hpanel⟩
    cases hfinite : panel.yMax.isFinite with
    | true => exact .inl rfl
    | false => exact .inr (yMax_eq_infinity hfinite)
  · constructor
    · intro hfinite hmetric
      obtain ⟨panel, hpanel, hshow⟩ := exists_mem_of_forall₂ hshows.flip hmetric
      exact (haxis panel hpanel).mp (hfinite panel hpanel) hshow.metric_eq
    · intro hbound panel hpanel
      refine (haxis panel hpanel).mpr fun hmetric => hbound ?_
      rw [← hmetric]
      exact (hshown panel hpanel).1

/-- Files that all hold one text. -/
def filesWithText (text : String) : FileView where
  readText := fun _ => .ok text
  isFile := fun _ => true
  isDirectory := fun _ => false
  canWrite := fun _ => false

/-- A report whose rate is the tallest bar, with a value for each metric. -/
def tallReport : String :=
  "Latency 1ms 250us 2ms 75%\nLatency Distribution\n99% 2ms\n"
    ++ "Requests/sec: 1.563211421619405e308\nTransfer/sec: 1.50MB\n"

/-- The run of the report whose rate is the tallest bar. -/
def tallRun : Run where
  label := "tall"
  rate := tallestBar
  latency :=
    { average := ⟨1000000⟩
      deviation := ⟨250000⟩
      maximum := ⟨2000000⟩
      withinDeviation := .ofNat 75 }
  distribution := [⟨.ofNat 99, ⟨2000000⟩⟩]
  transferRate := some 1572864

/-- The four panels of the run whose rate is the tallest bar. -/
def tallPanels : List Panel :=
  [⟨.requestRate, [tallestBar]⟩, ⟨.averageLatency, [.ofNat 1]⟩, ⟨.p99Latency, [.ofNat 2]⟩,
    ⟨.transferRate, [.ofRatio 3 2]⟩]

/-- All four axes of the run whose rate is the tallest bar are finite. -/
theorem isFinite_yMax_tallPanels :
    (Input.loadAll (filesWithText tallReport) [⟨none, ⟨"tall.txt"⟩⟩]).outcome = .ok [tallRun]
      ∧ Chart.panelsOf [tallRun] Selection.all.metrics = .ok tallPanels
      ∧ ∀ panel ∈ tallPanels, panel.yMax.isFinite = true := by
  have hload : (Input.loadAll (filesWithText tallReport) [⟨none, ⟨"tall.txt"⟩⟩]).outcome =
      .ok [tallRun] := by
    decide +kernel
  have hpanels : Chart.panelsOf [tallRun] Selection.all.metrics = .ok tallPanels := by
    decide +kernel
  refine ⟨hload, hpanels, (isFinite_yMax_iff_of_loadAll hload hpanels).2.mpr fun _ => ?_⟩
  decide +kernel

/-- A report with a huge rate. -/
def hugeReport : String :=
  "Latency 1ms 1ms 1ms 50%\nRequests/sec: 1.7e308\n"

/-- The run of the report with the huge rate. -/
def hugeRun : Run where
  label := "huge"
  rate := .ofDecimal 17 307
  latency :=
    { average := ⟨1000000⟩
      deviation := ⟨1000000⟩
      maximum := ⟨1000000⟩
      withinDeviation := .ofNat 50 }

/-- The panel of the huge rate. -/
def hugePanel : Panel where
  metric := .requestRate
  values := [.ofDecimal 17 307]

/-- A report with a huge rate is loaded as a valid run, and the axis of its panel is infinite. -/
theorem yMax_hugePanel :
    InputSpec.parse "huge.txt" = .ok ⟨none, ⟨"huge.txt"⟩⟩
      ∧ (Input.loadAll (filesWithText hugeReport) [⟨none, ⟨"huge.txt"⟩⟩]).outcome = .ok [hugeRun]
      ∧ hugeRun.fault? = none
      ∧ Chart.panelsOf [hugeRun] Selection.rps.metrics = .ok [hugePanel]
      ∧ hugePanel.yMax = .infinity
      ∧ hugePanel.yMax.isFinite = false := by
  exact ⟨by decide +kernel, by decide +kernel, by decide +kernel, by decide +kernel,
    by decide +kernel, by decide +kernel⟩

end Panel

end BenchCompare
