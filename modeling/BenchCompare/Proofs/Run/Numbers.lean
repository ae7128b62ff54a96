import BenchCompare.Proofs.Binary64.Rounding
import BenchCompare.Proofs.Run.Json

/-!
# The numbers of a run in JSON

What is no finite number is written as `null`, and a run with a `null` in place of a number cannot be
read again.  The durations of a run are never in the way: their milliseconds are finite
(`Duration.isFinite_milliseconds`).  So the text of a run has a `null` exactly if one of its own
numbers is not finite (`Run.showsNull_toJson_iff`).

A run is valid if no fault is found in it: its label is more than blanks, and its rate is finite and
not below zero (`Run.fault?_eq_none_iff`).
-/

namespace BenchCompare

/-! ### Milliseconds -/

/-- The quotient by a million has at least one binary digit less. -/
theorem div_million_lt {n k : Nat} (h : n < Nat.pow 2 (53 + k)) :
    n * Binary64.unitsOfOne / (1000000 * Binary64.unitsOfOne) < Nat.pow 2 (52 + k) := by
  have hdouble : Nat.pow 2 53 = 2 * Nat.pow 2 52 := by decide
  rw [natPow_two_add, hdouble, Nat.mul_assoc] at h
  rw [Nat.mul_div_mul_right _ _ unitsOfOne_pos, natPow_two_add]
  omega

/-- A finite number divided by a million is finite. -/
theorem Binary64.isFinite_div_perMillisecond {x : Binary64} (h : x.isFinite = true) :
    (x.div Duration.perMillisecond).isFinite = true := by
  cases x with
  | nan => cases h
  | number negative size =>
    obtain ⟨million, hmillion, hfinite, hplace, hunits⟩ : ∃ million : Magnitude,
        Duration.perMillisecond = .number false million ∧ million.isFinite = true
          ∧ million.place ≠ 0 ∧ million.units = 1000000 * unitsOfOne :=
      ⟨_, rfl, by decide +kernel, by decide +kernel, by decide +kernel⟩
    have hsize : size.isFinite = true := h
    have hplaceLt : size.place < (2045 + 2) * blockLength := by
      rwa [Magnitude.isFinite, decide_eq_true_eq] at hsize
    have hquotient := div_million_lt (Magnitude.units_lt_of_place_lt hplaceLt)
    rw [hmillion, div]
    simp only [hsize, hfinite, hplace, hunits, if_true, Bool.not_true, Bool.false_eq_true, if_false]
    exact Magnitude.isFinite_nearest (by decide) hquotient

/-- The milliseconds of a duration are finite. -/
theorem Duration.isFinite_milliseconds (d : Duration) : d.milliseconds.isFinite = true :=
  Binary64.isFinite_div_perMillisecond
    (Binary64.isFinite_ofNat (by decide) (show _ < Nat.pow 2 64 from d.nanoseconds.toNat_lt))

/-! ### Values with a `null` -/

namespace Json

/-- A value whose text has a `null` outside the quotes. -/
inductive ShowsNull : Json → Prop
  | null : ShowsNull .null
  | number {x : Binary64} (h : x.isFinite = false) : ShowsNull (.number x)
  | array {items : List Json} {item : Json} (hmem : item ∈ items) (h : ShowsNull item) :
    ShowsNull (.array items)
  | object {members : List (String × Json)} {member : String × Json} (hmem : member ∈ members)
    (h : ShowsNull member.2) : ShowsNull (.object members)

@[simp] theorem not_showsNull_text (s : String) : ¬ ShowsNull (.text s) := nofun

@[simp] theorem not_showsNull_count32 (n : UInt32) : ¬ ShowsNull (.count32 n) := nofun

@[simp] theorem not_showsNull_count64 (n : UInt64) : ¬ ShowsNull (.count64 n) := nofun

@[simp] theorem showsNull_number_iff {x : Binary64} :
    ShowsNull (.number x) ↔ x.isFinite = false := by
  constructor
  · rintro ⟨⟩
    assumption
  · exact .number

@[simp] theorem showsNull_array_iff {items : List Json} :
    ShowsNull (.array items) ↔ ∃ item ∈ items, ShowsNull item := by
  constructor
  · rintro ⟨⟩
    exact ⟨_, ‹_›, ‹_›⟩
  · rintro ⟨item, hmem, h⟩
    exact .array hmem h

@[simp] theorem showsNull_object_iff {members : List (String × Json)} :
    ShowsNull (.object members) ↔ ∃ member ∈ members, ShowsNull member.2 := by
  constructor
  · rintro ⟨⟩
    exact ⟨_, ‹_›, ‹_›⟩
  · rintro ⟨member, hmem, h⟩
    exact .object hmem h

/-- The members that are present have a `null` if a value of the table has one. -/
theorem showsNull_present_iff {table : List (String × Option Json)} :
    ShowsNull (.object (present table)) ↔ ∃ entry ∈ table, ∃ v ∈ entry.2, ShowsNull v := by
  rw [← not_iff_not]
  simp only [showsNull_object_iff, not_exists, not_and]
  constructor
  · intro h entry hentry v hv
    obtain ⟨name, value⟩ := entry
    obtain rfl : value = some v := hv
    exact h (name, v) (List.mem_flatMap.mpr ⟨_, hentry, List.mem_singleton_self _⟩)
  · exact forall_mem_present

end Json

/-- The milliseconds of a duration are not written as `null`. -/
@[simp] theorem Duration.not_showsNull_toJson (d : Duration) : ¬ d.toJson.ShowsNull := by
  rw [toJson, Json.showsNull_number_iff, d.isFinite_milliseconds]
  decide

theorem LatencyStats.showsNull_toJson_iff {s : LatencyStats} :
    s.toJson.ShowsNull ↔ s.withinDeviation.isFinite = false := by
  simp [toJson]

theorem ThreadStats.showsNull_toJson_iff {s : ThreadStats} :
    s.toJson.ShowsNull ↔
      ∃ x ∈ [s.average, s.deviation, s.maximum, s.withinDeviation], x.isFinite = false := by
  simp [toJson]

theorem Percentile.showsNull_toJson_iff {p : Percentile} :
    p.toJson.ShowsNull ↔ p.percent.isFinite = false := by
  simp [toJson]

theorem SocketErrors.not_showsNull_toJson (e : SocketErrors) : ¬ e.toJson.ShowsNull := by
  simp [toJson]

/-- **Numbers in the text of a run.**  The text of a run has a `null` exactly if one of its numbers
is not finite. -/
theorem Run.showsNull_toJson_iff (run : Run) :
    run.toJson.ShowsNull ↔ ∃ x ∈ run.numbers, x.isFinite = false := by
  have hsome : ∀ value : Json, (∃ v ∈ some value, v.ShowsNull) ↔ value.ShowsNull := by
    simp
  have hmap : ∀ {α : Type} (value : Option α) (write : α → Json),
      (∃ v ∈ value.map write, v.ShowsNull) ↔ ∃ a ∈ value, (write a).ShowsNull := by
    simp
  have hdistribution : (∃ v ∈ if run.distribution.isEmpty then none
        else some (Json.array (run.distribution.map Percentile.toJson)), v.ShowsNull) ↔
      ∃ entry ∈ run.distribution, entry.percent.isFinite = false := by
    split
    · next hempty => simp [List.isEmpty_iff.mp hempty]
    · simp [Percentile.showsNull_toJson_iff]
  rw [toJson_eq, Json.showsNull_present_iff]
  simp only [table, List.exists_mem_cons_iff, hsome, hmap, hdistribution,
    LatencyStats.showsNull_toJson_iff, ThreadStats.showsNull_toJson_iff,
    SocketErrors.not_showsNull_toJson, Duration.not_showsNull_toJson, Json.not_showsNull_text,
    Json.not_showsNull_count32, Json.not_showsNull_count64, Json.showsNull_number_iff]
  cases hthreads : run.threadRate with
  | none => simp [numbers, hthreads, or_and_right, exists_or]
  | some stats => simp [numbers, hthreads, or_and_right, exists_or, or_assoc]

/-- A run without a `null` in its text has finite numbers in its text. -/
theorem Run.isFinite_of_mem_writtenNumbers {run : Run} (h : ¬ run.toJson.ShowsNull) {x : Binary64}
    (hx : x ∈ run.writtenNumbers) : x.isFinite = true := by
  rcases List.mem_append.mp hx with hx | hx
  · rw [showsNull_toJson_iff] at h
    exact Bool.of_not_eq_false fun hfinite => h ⟨x, hx, hfinite⟩
  · obtain ⟨d, -, rfl⟩ := List.mem_map.mp hx
    exact d.isFinite_milliseconds

/-! ### Valid runs -/

namespace Run

/-- A run is valid if its label is more than blanks and its rate is finite and not below zero. -/
theorem fault?_eq_none_iff {run : Run} :
    run.fault? = none ↔
      Text.isBlankText run.label.toList = false ∧ run.rate.isFiniteNonneg = true := by
  unfold fault?
  cases Text.isBlankText run.label.toList with
  | true => simp
  | false => cases run.rate.isFiniteNonneg <;> simp

/-- A run with a rate that is finite and not below zero can only have a blank label. -/
theorem fault_eq_blankLabel {run : Run} (hrate : run.rate.isFiniteNonneg = true) {fault : Fault}
    (h : run.fault? = some fault) : fault = .blankLabel := by
  rw [fault?, hrate] at h
  split at h
  · exact (Option.some.inj h).symm
  · cases h

end Run

end BenchCompare
