import BenchCompare.Proofs.Report.Progress

/-!
# Faults of a report

Which fault is reported for which report.  A malformed line comes before everything else, and of
several malformed lines the first one counts, with its number and its trimmed text; then a report
without a rate, and then one without a latency (`parse_eq_error_iff`).  Distribution blocks do not
occur in this description.
-/

namespace BenchCompare.Report

/-- None of the trimmed lines is malformed. -/
def AreSound (lines : List (List Char)) : Prop :=
  ∀ line ∈ lines, isMalformed line = false

/-- The line with a number, counted from one, is the first malformed one and has a text. -/
def IsFirstMalformed (lines : List (List Char)) (number : Nat) (content : String) : Prop :=
  ∃ before line after, lines = before ++ line :: after ∧ AreSound before
    ∧ isMalformed line = true ∧ number = before.length + 1 ∧ content = String.ofList line

/-- The conditions under which a report with trimmed lines and a label has a fault. -/
def Fault.IsOf (lines : List (List Char)) (label : String) : Fault → Prop
  | .invalidValue number content => IsFirstMalformed lines number content
  | .missingRate name =>
    name = label ∧ AreSound lines ∧ ∀ line ∈ lines, Kind.rate.claims line = false
  | .missingLatency name =>
    name = label ∧ AreSound lines ∧ (∃ line ∈ lines, Kind.rate.claims line = true)
      ∧ ∀ line ∈ lines, isLatencyRow line = false

/-! ### From the lines to the run -/

/-- Reading ends at a line exactly if it is the first malformed one. -/
theorem steps_eq_invalidValue_iff {lines : List (List Char)} {number : Nat} {content : String} :
    Progress.steps {} 1 lines = .error (.invalidValue number content) ↔
      IsFirstMalformed lines number content := by
  rw [Progress.steps_eq_error_iff, IsFirstMalformed]
  simp only [Fault.invalidValue.injEq, Nat.add_comm 1]
  rfl

/-- Reading ends early exactly if some line is malformed. -/
theorem exists_isFirstMalformed_iff {lines : List (List Char)} :
    (∃ number content, IsFirstMalformed lines number content) ↔ ¬ AreSound lines := by
  constructor
  · rintro ⟨number, content, before, line, after, rfl, -, hline, -⟩ hsound
    rw [hsound line (by simp)] at hline
    cases hline
  · intro hsound
    cases hsteps : Progress.steps {} 1 lines with
    | ok progress => exact absurd (Progress.steps_eq_ok_iff.mp hsteps).1 hsound
    | error fault =>
      obtain ⟨before, line, after, -, -, -, rfl⟩ := Progress.steps_eq_error_iff.mp hsteps
      exact ⟨_, _, steps_eq_invalidValue_iff.mp hsteps⟩

/-- A report with a malformed line has that fault, for the first such line. -/
theorem parse_of_isFirstMalformed {text : String} (label : String) {number : Nat} {content : String}
    (h : IsFirstMalformed (trimmedLines text) number content) :
    parse text label = .error (.invalidValue number content) := by
  rw [parse, steps_eq_invalidValue_iff.mpr h]

/-- A report without malformed lines gives the run that its facts describe. -/
theorem parse_eq_toRun {text : String} (label : String) (h : AreSound (trimmedLines text)) :
    parse text label = (Progress.afterAll {} (trimmedLines text)).draft.toRun label := by
  have hsteps : Progress.steps {} 1 (trimmedLines text) = .ok _ :=
    Progress.steps_eq_ok_iff.mpr ⟨h, rfl⟩
  rw [parse, hsteps]

/-- A draft describes no run exactly if the rate or the latency is missing; the rate counts
first. -/
theorem Draft.toRun_eq_error_iff {draft : Draft} {label : String} {fault : Fault} :
    draft.toRun label = .error fault ↔
      draft.rate = none ∧ fault = .missingRate label
        ∨ draft.rate.isSome = true ∧ draft.latency = none ∧ fault = .missingLatency label := by
  rw [toRun]
  cases draft.rate with
  | none => simp [eq_comm]
  | some rate => cases draft.latency <;> simp [eq_comm]

/-! ### Missing facts -/

/-- No rate has been stated exactly if no line begins like one with a rate. -/
theorem rate_afterAll_eq_none_iff {lines : List (List Char)} (h : AreSound lines) :
    (Progress.afterAll {} lines).draft.rate = none ↔
      ∀ line ∈ lines, Kind.rate.claims line = false := by
  rw [Progress.rate_afterAll, lastStated?_eq_none_iff]
  refine forall₂_congr fun line hline => ?_
  rw [← Bool.not_eq_true, ← stated_rate_iff (h line hline), Option.eq_none_iff_forall_ne_some]
  constructor
  · rintro hnone ⟨perSecond, hstated⟩
    exact hnone perSecond (by rw [hstated]; rfl)
  · rintro hnone perSecond hpick
    obtain ⟨fact, hstated, hfact⟩ := Option.bind_eq_some_iff.mp hpick
    cases fact with
    | rate _ => exact hnone ⟨_, hstated⟩
    | _ => cases hfact

/-- No latency has been stated exactly if no line is a row of the table with the latency. -/
theorem latency_afterAll_eq_none_iff {lines : List (List Char)} :
    (Progress.afterAll {} lines).draft.latency = none ↔
      ∀ line ∈ lines, isLatencyRow line = false := by
  rw [Progress.latency_afterAll, lastStated?_eq_none_iff]
  refine forall₂_congr fun line _ => ?_
  rw [← Bool.not_eq_true, ← stated_latency_iff, Option.eq_none_iff_forall_ne_some]
  constructor
  · rintro hnone ⟨stats, hstated⟩
    exact hnone stats (by rw [hstated]; rfl)
  · rintro hnone stats hpick
    obtain ⟨fact, hstated, hfact⟩ := Option.bind_eq_some_iff.mp hpick
    cases fact with
    | latency _ => exact hnone ⟨_, hstated⟩
    | _ => cases hfact

/-- The fault of a report with a malformed line. -/
theorem parse_eq_error_iff_of_not_areSound {text label : String} {fault : Fault}
    (h : ¬ AreSound (trimmedLines text)) :
    parse text label = .error fault ↔ fault.IsOf (trimmedLines text) label := by
  obtain ⟨number, content, hfirst⟩ := exists_isFirstMalformed_iff.mpr h
  have hparse := parse_of_isFirstMalformed label hfirst
  cases fault with
  | invalidValue number' content' =>
    constructor
    · intro heq
      obtain ⟨rfl, rfl⟩ := Fault.invalidValue.inj (Except.error.inj (hparse.symm.trans heq))
      exact hfirst
    · exact parse_of_isFirstMalformed label
  | missingRate name =>
    rw [hparse]
    exact ⟨nofun, fun hmissing => absurd hmissing.2.1 h⟩
  | missingLatency name =>
    rw [hparse]
    exact ⟨nofun, fun hmissing => absurd hmissing.2.1 h⟩

/-- The fault of a report without malformed lines. -/
theorem parse_eq_error_iff_of_areSound {text label : String} {fault : Fault}
    (h : AreSound (trimmedLines text)) :
    parse text label = .error fault ↔ fault.IsOf (trimmedLines text) label := by
  have hrate := rate_afterAll_eq_none_iff h
  have hlatency := @latency_afterAll_eq_none_iff (trimmedLines text)
  rw [parse_eq_toRun label h, Draft.toRun_eq_error_iff, hlatency]
  cases fault with
  | invalidValue number content =>
    simp only [reduceCtorEq, and_false, or_self, false_iff]
    exact fun hfirst => exists_isFirstMalformed_iff.mp ⟨number, content, hfirst⟩ h
  | missingRate name =>
    simp only [reduceCtorEq, and_false, or_false, hrate, Fault.missingRate.injEq, Fault.IsOf, h,
      true_and]
    exact and_comm
  | missingLatency name =>
    have hsome : (Progress.afterAll {} (trimmedLines text)).draft.rate.isSome = true ↔
        ∃ line ∈ trimmedLines text, Kind.rate.claims line = true := by
      rw [Option.isSome_iff_ne_none, Ne, hrate]
      simp
    simp only [reduceCtorEq, and_false, false_or, hsome, Fault.missingLatency.injEq, Fault.IsOf, h,
      true_and]
    constructor
    · rintro ⟨hexists, hnone, hname⟩
      exact ⟨hname, hexists, hnone⟩
    · rintro ⟨hname, hexists, hnone⟩
      exact ⟨hexists, hnone, hname⟩

/-- **Exact fault reporting.**  A report has the fault that its lines and its label determine, and a
malformed line is reported exactly if there is one. -/
theorem parse_eq_error_iff (text label : String) :
    (∀ fault, parse text label = .error fault ↔ fault.IsOf (trimmedLines text) label)
      ∧ ((∃ number content, parse text label = .error (.invalidValue number content)) ↔
        ∃ line ∈ trimmedLines text, isMalformed line = true) := by
  have hiff : ∀ fault, parse text label = .error fault ↔
      fault.IsOf (trimmedLines text) label := by
    intro fault
    by_cases hsound : AreSound (trimmedLines text)
    · exact parse_eq_error_iff_of_areSound hsound
    · exact parse_eq_error_iff_of_not_areSound hsound
  refine ⟨hiff, ?_⟩
  simp only [hiff, Fault.IsOf]
  rw [exists_isFirstMalformed_iff, AreSound]
  simp

end BenchCompare.Report
