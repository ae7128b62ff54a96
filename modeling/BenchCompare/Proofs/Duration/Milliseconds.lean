import BenchCompare.Proofs.Binary64.Error
import BenchCompare.Proofs.Run.Numbers

/-!
# Durations in milliseconds

A duration is written as milliseconds and read from them.  The division by a million and the
multiplication by it are rounded, each by a fixed part of the number at the most, so both together
stay below half a nanosecond as long as the duration has less than `2⁵¹` nanoseconds, which is about
twenty-six days (`Duration.isStable_of_lt`).  Runs that take no longer are read back from their text
(`Run.ofJson?_toJson_of_lt`).

What is not read as a duration is a number below zero, infinity, or no number
(`Duration.ofMilliseconds?_eq_none_iff`).  The milliseconds of a duration are none of these, however
long the duration is.  All of this together is `Duration.ofMilliseconds?_milliseconds`.
-/

namespace BenchCompare

namespace Duration

/-! ### Accepted numbers -/

theorem zero_lt_perMillisecond : Binary64.lt .zero perMillisecond = true := by
  decide +kernel

theorem isFinite_perMillisecond : perMillisecond.isFinite = true := by
  decide +kernel

/-- The milliseconds of a duration are finite and not below zero. -/
theorem isFiniteNonneg_milliseconds (d : Duration) : d.milliseconds.isFiniteNonneg = true := by
  have hword : d.nanoseconds.toNat < Nat.pow 2 64 := d.nanoseconds.toNat_lt
  have hnumber := Binary64.isFiniteNonneg_ofNat (by decide) hword
  have hzero : Binary64.le .zero d.milliseconds = true :=
    Binary64.zero_le_div hnumber zero_lt_perMillisecond isFinite_perMillisecond
  rw [Binary64.isFiniteNonneg, d.isFinite_milliseconds, hzero]
  rfl

/-- A number is not read as a duration exactly if it is below zero, infinity, or no number. -/
theorem ofMilliseconds?_eq_none_iff {ms : Binary64} :
    ofMilliseconds? ms = none ↔ Binary64.lt ms .zero = true ∨ ms = .infinity ∨ ms = .nan := by
  rw [← Binary64.isFiniteNonneg_eq_false_iff]
  unfold ofMilliseconds?
  cases ms.isFiniteNonneg with
  | true => simp
  | false => simp

/-! ### Durations that come back -/

/-- A duration that is not too long comes back from its milliseconds. -/
theorem isStable_of_lt {d : Duration} (h : d.nanoseconds.toNat < Nat.pow 2 51) : d.IsStable := by
  have hcount : (d.milliseconds.mul perMillisecond).toCount = d.nanoseconds := by
    unfold milliseconds perMillisecond
    rw [Binary64.toCount_div_mul_ofNat (by decide) (by decide) h]
    exact UInt64.ofNat_toNat
  unfold IsStable ofMilliseconds?
  rw [if_pos d.isFiniteNonneg_milliseconds, hcount]

end Duration

/-- A run whose durations are not too long is read back from its text. -/
theorem Run.ofJson?_toJson_of_lt {run : Run}
    (h : ∀ d ∈ run.durations, d.nanoseconds.toNat < Nat.pow 2 51) :
    ofJson? run.toJson = some run :=
  ofJson?_toJson fun d hd => Duration.isStable_of_lt (h d hd)

namespace Duration

/-- **Durations survive in milliseconds.**  A duration of less than `2⁵¹` nanoseconds comes back from
its milliseconds.  A number of milliseconds is refused exactly if it is below zero, infinity, or no
number, so the milliseconds of a duration are accepted, whether it comes back or not. -/
theorem ofMilliseconds?_milliseconds :
    (∀ d : Duration, d.nanoseconds.toNat < Nat.pow 2 51 →
        ofMilliseconds? d.milliseconds = some d)
      ∧ (∀ ms : Binary64, ofMilliseconds? ms = none ↔
          Binary64.lt ms .zero = true ∨ ms = .infinity ∨ ms = .nan)
      ∧ ∀ d : Duration, (ofMilliseconds? d.milliseconds).isSome = true := by
  refine ⟨fun d => isStable_of_lt, fun ms => ofMilliseconds?_eq_none_iff, ?_⟩
  intro d
  unfold ofMilliseconds?
  rw [if_pos d.isFiniteNonneg_milliseconds]
  rfl

/-- The longest duration of less than `2⁵¹` nanoseconds comes back, and the longest of all is accepted.
The least number below zero is refused, but a zero with a sign is not. -/
theorem ofMilliseconds?_longest :
    ofMilliseconds? (⟨2251799813685247⟩ : Duration).milliseconds = some ⟨2251799813685247⟩
      ∧ (ofMilliseconds? (⟨18446744073709551615⟩ : Duration).milliseconds).isSome = true
      ∧ ofMilliseconds? (Binary64.ofDecimal 5 (-324)).neg = none
      ∧ ofMilliseconds? Binary64.zero.neg ≠ none := by
  obtain ⟨hback, hrefused, haccepted⟩ := ofMilliseconds?_milliseconds
  refine ⟨hback _ (by decide), haccepted _, (hrefused _).mpr (.inl (by decide +kernel)), ?_⟩
  rw [Ne, hrefused]
  decide +kernel

/-- A duration of about fifty days comes back as a longer one. -/
example : ofMilliseconds? (⟨4294967296000011⟩ : Duration).milliseconds = some ⟨4294967296000012⟩ := by
  decide +kernel

end Duration

end BenchCompare
