import BenchCompare.Input.Load
import BenchCompare.Proofs.Binary64.Order
import BenchCompare.Proofs.Report.Amount
import BenchCompare.Proofs.Report.Meaning
import BenchCompare.Proofs.Run.Numbers

/-!
# The numbers of a report

Which numbers a run has that was read from a report.  Every reader of a number has a guard of its own:
a rate has to be finite and not below zero, a percentage has to be finite, and a share that is not
finite counts as zero.  Only the counts of the thread table have none.  They have no sign and are
never `nan`, but a count with too many digits, or with too great a unit, is infinite
(`isUnsigned_of_count?`).

So what every fact of a report has to satisfy (`Fact.IsRegular`) is satisfied by the run as well, and
the text of the run has a `null` exactly if one of these counts is infinite (`numbers_of_parse`).
-/

namespace BenchCompare

/-! ### Numbers without a sign -/

namespace Binary64

/-- A number without a sign, possibly infinite. -/
def IsUnsigned (x : Binary64) : Prop :=
  ∃ size, x = .number false size

/-- A number without a sign is infinite, or else it is finite and not below zero. -/
theorem IsUnsigned.isFiniteNonneg_or_eq_infinity {x : Binary64} (h : x.IsUnsigned) :
    x.isFiniteNonneg = true ∨ x = .infinity := by
  obtain ⟨⟨place, hplace⟩, rfl⟩ := h
  rcases Nat.lt_or_eq_of_le hplace with hlt | rfl
  · left
    have hzero : (0 : Int) ≤ place := Int.natCast_nonneg place
    rw [isFiniteNonneg, Bool.and_eq_true]
    exact ⟨decide_eq_true hlt, decide_eq_true hzero⟩
  · exact .inr rfl

/-- A product of numbers without a sign has none, if the second factor is finite and above zero. -/
theorem IsUnsigned.mul {x y : Binary64} (hx : x.IsUnsigned) (hy : lt zero y = true)
    (hfinite : y.isFinite = true) : (x.mul y).IsUnsigned := by
  obtain ⟨a, rfl⟩ := hx
  cases y with
  | nan => cases hfinite
  | number negative b =>
    have hpoint := point_lt_of_lt hy
    obtain rfl : negative = false := by
      cases negative with
      | false => rfl
      | true =>
        have hle : -(b.place : Int) ≤ 0 := by omega
        exact absurd hpoint (Int.not_lt.mpr hle)
    have hb : b.isFinite = true := hfinite
    have hbplace : b.place ≠ 0 := by
      have hlt : (0 : Int) < b.place := hpoint
      omega
    rw [Binary64.mul, hb]
    cases ha : a.isFinite with
    | true => exact ⟨_, rfl⟩
    | false =>
      -- Infinity times a number above zero is infinity, not `nan`.
      have haplace : a.place ≠ 0 := by
        intro hzero
        rw [Magnitude.isFinite, hzero] at ha
        exact absurd ha (by decide)
      simp only [Bool.false_and, Bool.false_eq_true, if_false, haplace, hbplace]
      exact ⟨_, rfl⟩

end Binary64

namespace Report

/-- The factors of counting are finite numbers above zero. -/
theorem isFinite_of_mem_countUnits :
    ∀ entry ∈ countUnits,
      Binary64.lt .zero (.ofNat entry.2) = true ∧ (Binary64.ofNat entry.2).isFinite = true := by
  decide +kernel

/-- A count has no sign. -/
theorem isUnsigned_of_count? {token : List Char} {x : Binary64} (h : count? token = some x) :
    x.IsUnsigned := by
  obtain ⟨number, unit, scale, hamount, rfl⟩ := count?_eq_some_iff.mp h
  obtain ⟨hpos, hfinite⟩ := isFinite_of_mem_countUnits _ hamount.mem
  have hnumber : (nearestTo number).IsUnsigned := ⟨_, rfl⟩
  exact hnumber.mul hpos hfinite

/-! ### Facts -/

end Report

/-- The counts of the thread table. -/
def ThreadStats.counts (s : ThreadStats) : List Binary64 :=
  [s.average, s.deviation, s.maximum]

namespace Report

/-- What the numbers of a fact satisfy, whatever line states it. -/
def Fact.IsRegular : Fact → Prop
  | .rate perSecond => perSecond.isFiniteNonneg = true
  | .latency stats => stats.withinDeviation.isFinite = true
  | .threadRate stats =>
    stats.withinDeviation.isFinite = true ∧ ∀ x ∈ stats.counts, x.IsUnsigned
  | _ => True

/-- A share is finite. -/
theorem isFinite_of_share? {token : List Char} {x : Binary64} (h : share? token = some x) :
    x.isFinite = true := by
  obtain ⟨y, -, rfl⟩ := Option.map_eq_some_iff.mp h
  split
  · assumption
  · decide

/-- The share in a row with a latency is finite. -/
theorem isFinite_of_latencyRow? {line : List Char} {stats : LatencyStats}
    (h : latencyRow? line = some stats) : stats.withinDeviation.isFinite = true := by
  rw [latencyRow?] at h
  split at h
  · simp only [Option.bind_eq_bind, Option.bind_eq_some_iff, Option.pure_def] at h
    obtain ⟨average, -, deviation, -, maximum, -, within, hwithin, heq⟩ := h
    cases heq
    exact isFinite_of_share? hwithin
  · cases h

/-- In a row with the rates of the threads the share is finite and the counts have no sign. -/
theorem isRegular_of_threadRow? {line : List Char} {stats : ThreadStats}
    (h : threadRow? line = some stats) : (Fact.threadRate stats).IsRegular := by
  rw [threadRow?] at h
  split at h
  · simp only [Option.bind_eq_bind, Option.bind_eq_some_iff, Option.pure_def] at h
    obtain ⟨average, haverage, deviation, hdeviation, maximum, hmaximum, within, hwithin, heq⟩ := h
    cases heq
    refine ⟨isFinite_of_share? hwithin, ?_⟩
    simp only [ThreadStats.counts, List.forall_mem_cons, List.not_mem_nil, false_implies,
      implies_true, and_true]
    exact ⟨isUnsigned_of_count? haverage, isUnsigned_of_count? hdeviation,
      isUnsigned_of_count? hmaximum⟩
  · cases h

/-- Every fact that a line states is regular. -/
theorem isRegular_of_stated? {line : List Char} {fact : Fact} (h : stated? line = some fact) :
    fact.IsRegular := by
  have hfact := (kind?_of_stated? h).2
  cases fact with
  | rate perSecond =>
    obtain ⟨x, hx, heq⟩ := Option.map_eq_some_iff.mp hfact
    cases heq
    rw [rateValue?] at hx
    split at hx
    · cases hx
    · exact (Option.filter_eq_some_iff.mp hx).2
  | latency stats =>
    obtain ⟨_, hrow, heq⟩ := Option.map_eq_some_iff.mp hfact
    cases heq
    exact isFinite_of_latencyRow? hrow
  | threadRate stats =>
    obtain ⟨_, hrow, heq⟩ := Option.map_eq_some_iff.mp hfact
    cases heq
    exact isRegular_of_threadRow? hrow
  | _ => trivial

/-- The last fact of a sort is regular. -/
theorem exists_isRegular_of_lastStated? {α : Type} {pick? : Fact → Option α}
    {lines : List (List Char)} {a : α} (h : lastStated? pick? lines = some a) :
    ∃ fact, fact.IsRegular ∧ pick? fact = some a := by
  obtain ⟨line, -, hline⟩ := List.mem_filterMap.mp (List.mem_of_getLast? h)
  obtain ⟨fact, hfact, hpick⟩ := Option.bind_eq_some_iff.mp hline
  exact ⟨fact, isRegular_of_stated? hfact, hpick⟩

/-- A row of the latency distribution has a finite percentage. -/
theorem isFinite_of_mem_blockRows {lines : List (List Char)} {entry : Percentile}
    (h : entry ∈ blockRows lines) : entry.percent.isFinite = true := by
  obtain ⟨i, -, hi⟩ := List.mem_filterMap.mp h
  split at hi
  · obtain ⟨line, -, hrow⟩ := Option.bind_eq_some_iff.mp hi
    obtain ⟨percent, latency, -, hpercent, -⟩ := words_of_percentileRow? hrow
    exact (Option.filter_eq_some_iff.mp hpercent).2
  · cases hi

/-! ### Runs -/

/-- A run that was read from a report is described by its lines. -/
theorem describes_of_parse_eq_ok {text label : String} {run : Run}
    (h : parse text label = .ok run) : Describes (trimmedLines text) label run := by
  by_cases hsound : AreSound (trimmedLines text)
  · rwa [parse_eq_toRun label hsound, toRun_afterAll_eq_ok_iff] at h
  · obtain ⟨number, content, hfirst⟩ := exists_isFirstMalformed_iff.mpr hsound
    rw [parse_of_isFirstMalformed label hfirst] at h
    cases h

/-- The rate of a run that was read from a report is finite and not below zero. -/
theorem isFiniteNonneg_rate_of_parse {text label : String} {run : Run}
    (h : parse text label = .ok run) : run.rate.isFiniteNonneg = true := by
  obtain ⟨fact, hfact, hpick⟩ := exists_isRegular_of_lastStated? (describes_of_parse_eq_ok h).rate
  cases fact with
  | rate perSecond =>
    cases hpick
    exact hfact
  | _ => cases hpick

/-- The share in the latency of a run that was read from a report is finite. -/
theorem isFinite_withinDeviation_of_parse {text label : String} {run : Run}
    (h : parse text label = .ok run) : run.latency.withinDeviation.isFinite = true := by
  obtain ⟨fact, hfact, hpick⟩ :=
    exists_isRegular_of_lastStated? (describes_of_parse_eq_ok h).latency
  cases fact with
  | latency stats =>
    cases hpick
    exact hfact
  | _ => cases hpick

/-- In the thread table of a run that was read from a report the share is finite, and the counts have
no sign. -/
theorem isRegular_threadRate_of_parse {text label : String} {run : Run}
    (h : parse text label = .ok run) {stats : ThreadStats} (hstats : run.threadRate = some stats) :
    (Fact.threadRate stats).IsRegular := by
  have hlast := (describes_of_parse_eq_ok h).threadRate
  rw [hstats] at hlast
  obtain ⟨fact, hfact, hpick⟩ := exists_isRegular_of_lastStated? hlast.symm
  cases fact with
  | threadRate stats =>
    cases hpick
    exact hfact
  | _ => cases hpick

/-- The percentages of a run that was read from a report are finite. -/
theorem isFinite_percent_of_parse {text label : String} {run : Run}
    (h : parse text label = .ok run) {entry : Percentile} (hentry : entry ∈ run.distribution) :
    entry.percent.isFinite = true := by
  rw [(describes_of_parse_eq_ok h).distribution] at hentry
  exact isFinite_of_mem_blockRows hentry

/-- A number of a run that was read from a report is not finite exactly if an infinite count of the
thread table is among them. -/
theorem exists_isFinite_eq_false_iff_of_parse {text label : String} {run : Run}
    (h : parse text label = .ok run) :
    (∃ x ∈ run.numbers, x.isFinite = false) ↔
      ∃ stats ∈ run.threadRate, .infinity ∈ stats.counts := by
  constructor
  · rintro ⟨x, hx, hinfinite⟩
    rw [Run.numbers, List.mem_append, List.mem_append] at hx
    rcases hx with (hx | hx) | hx
    · have hfinite : x.isFinite = true := by
        rw [List.mem_pair] at hx
        rcases hx with rfl | rfl
        · exact (Bool.and_eq_true_iff.mp (isFiniteNonneg_rate_of_parse h)).1
        · exact isFinite_withinDeviation_of_parse h
      rw [hfinite] at hinfinite
      cases hinfinite
    · obtain ⟨stats, hstats, hx⟩ := List.mem_flatMap.mp hx
      rw [Option.mem_toList] at hstats
      have hregular := isRegular_threadRate_of_parse h hstats
      refine ⟨stats, hstats, ?_⟩
      have hcount : x ∈ stats.counts ∨ x = stats.withinDeviation := by
        simpa [ThreadStats.counts, or_assoc] using hx
      rcases hcount with hcount | rfl
      · rcases (hregular.2 x hcount).isFiniteNonneg_or_eq_infinity with hfinite | rfl
        · rw [Binary64.isFiniteNonneg, hinfinite] at hfinite
          cases hfinite
        · exact hcount
      · rw [hregular.1] at hinfinite
        cases hinfinite
    · obtain ⟨entry, hentry, rfl⟩ := List.mem_map.mp hx
      rw [isFinite_percent_of_parse h hentry] at hinfinite
      cases hinfinite
  · rintro ⟨stats, hstats, hcount⟩
    refine ⟨.infinity, ?_, by decide⟩
    rw [Run.numbers, List.mem_append, List.mem_append, List.mem_flatMap]
    refine .inl (.inr ⟨stats, Option.mem_toList.mpr hstats, ?_⟩)
    exact List.mem_append_left [stats.withinDeviation] hcount

/-- **The numbers of a report.**  Every number of a run that was read from a report is finite, except
that a count of the thread table can be infinite; so the text of the run has a `null` exactly if such
a count is.  Without one the run is read back from its text, provided that its single numbers and
durations are. -/
theorem numbers_of_parse {text label : String} {run : Run} (h : parse text label = .ok run) :
    run.rate.isFiniteNonneg = true
      ∧ run.latency.withinDeviation.isFinite = true
      ∧ (∀ entry ∈ run.distribution, entry.percent.isFinite = true)
      ∧ (∀ stats ∈ run.threadRate, stats.withinDeviation.isFinite = true
          ∧ ∀ x ∈ stats.counts, x.isFiniteNonneg = true ∨ x = .infinity)
      ∧ (run.toJson.ShowsNull ↔ ∃ stats ∈ run.threadRate, .infinity ∈ stats.counts)
      ∧ (¬ run.toJson.ShowsNull → run.IsStable →
          (∀ x ∈ run.writtenNumbers, x.isFinite = true → Json.ReadsBack x) →
          ∀ layout, Input.parseSaved (run.toJson.render layout) = .ok [run]) := by
  refine ⟨isFiniteNonneg_rate_of_parse h, isFinite_withinDeviation_of_parse h,
    fun entry => isFinite_percent_of_parse h, fun stats hstats => ?_, ?_,
    fun hnull hstable hback layout => ?_⟩
  · have hregular := isRegular_threadRate_of_parse h hstats
    exact ⟨hregular.1, fun x hx => (hregular.2 x hx).isFiniteNonneg_or_eq_infinity⟩
  · exact run.showsNull_toJson_iff.trans (exists_isFinite_eq_false_iff_of_parse h)
  · have hreadable := Run.isReadable_toJson
      (fun x hx => hback x hx (Run.isFinite_of_mem_writtenNumbers hnull hx)) 124
    rw [Input.parseSaved, Json.read?_render hreadable layout]
    simp only [Run.savedOfJson?_toJson hstable, List.isEmpty_nil, if_true]

/-- A run with counts that are finite. -/
def steadyRun : Run where
  label := "steady"
  rate := .ofRatio 3 2
  latency :=
    { average := ⟨1000000⟩
      deviation := ⟨250000⟩
      maximum := ⟨2000000⟩
      withinDeviation := .zero }
  threadRate := some
    { average := .ofNat 1500
      deviation := .zero
      maximum := .ofNat 2000
      withinDeviation := .ofNat 90 }

/-- The run of a report with finite counts is read back from its text, although a share in the report
is no number. -/
theorem parseSaved_steadyRun :
    Input.parseSaved (steadyRun.toJson.render .indented) = .ok [steadyRun] := by
  have hparse : parse
      "Latency 1ms 250us 2ms -nan%\nReq/Sec 1.5k 0 2k 90%\nRequests/sec: 1.5\n" "steady" =
        .ok steadyRun := by
    decide +kernel
  obtain ⟨-, -, -, -, hnull, hback⟩ := numbers_of_parse hparse
  refine hback (fun hshown => ?_) (by decide +kernel) (by decide +kernel) .indented
  obtain ⟨stats, hstats, hinfinite⟩ := hnull.mp hshown
  cases hstats
  revert hinfinite
  decide +kernel

/-- The lines of a report whose thread table has a count of 309 digits. -/
def overlongLines : List (List Char) :=
  ["Latency 1ms 1ms 1ms 50%".toList,
    "Req/Sec ".toList ++ List.replicate 309 '9' ++ " 1 1 50%".toList,
    "Requests/sec: 1".toList]

/-- The report with the overlong count. -/
def overlongReport : String :=
  String.ofList (overlongLines.flatMap (· ++ ['\n']))

/-- The run of the report with the overlong count, which is infinite. -/
def overlongRun : Run where
  label := "overlong"
  rate := .ofNat 1
  latency :=
    { average := ⟨1000000⟩
      deviation := ⟨1000000⟩
      maximum := ⟨1000000⟩
      withinDeviation := .ofNat 50 }
  threadRate := some
    { average := .infinity
      deviation := .ofNat 1
      maximum := .ofNat 1
      withinDeviation := .ofNat 50 }

/-- The report with the overlong count is read, but the text of its run is not. -/
theorem parse_overlongReport :
    parse overlongReport "overlong" = .ok overlongRun
      ∧ overlongRun.toJson.ShowsNull
      ∧ ∀ layout, Input.parseSaved (overlongRun.toJson.render layout) = .error .wrongShape := by
  have hlines : trimmedLines overlongReport = overlongLines := by
    have htrim : overlongLines.map Text.trim = overlongLines := by decide +kernel
    rw [trimmedLines, overlongReport, String.toList_ofList,
      Text.lines_flatMap_append_newline (by decide +kernel), htrim]
  refine ⟨?_, ?_, fun layout => ?_⟩
  · rw [parse, hlines]
    decide +kernel
  · rw [Run.showsNull_toJson_iff]
    exact ⟨.infinity, by decide +kernel, by decide⟩
  · rw [Input.parseSaved, Json.read?, Json.render, String.toList_ofList]
    cases layout <;> decide +kernel

end Report

end BenchCompare
