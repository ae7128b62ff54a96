import BenchCompare.Proofs.Binary64.Error
import BenchCompare.Proofs.Report.Amount

/-!
# The conversion of units

A token of the grammar writes a quantity: its decimal times its unit (`Writes`).  The decimal is
rounded when it is read and once more when it is scaled, but if the quantity is a whole number of
nanoseconds or bytes below `2⁵¹`, then the count is that number (`isExactConversion_units`).  The
errors of the two roundings are bounded in `BenchCompare.Proofs.Binary64.Error`.
-/

namespace BenchCompare.Report

/-- The number that a decimal writes. -/
def decimalValue (number : List Char) : ℚ :=
  significand number / (Nat.pow 10 (places number) : Nat)

/-- A token writes a quantity if its decimal times its unit is that quantity. -/
def Writes (units : List (String × Nat)) (token : List Char) (quantity : ℚ) : Prop :=
  ∃ number unit scale, IsAmount units token number unit scale
    ∧ decimalValue number * scale = quantity

/-- Tokens with the units of a table are read exactly.

Every token that is accepted writes one quantity, and a quantity that is a whole number below `2⁵¹` is
read as that number.  So two tokens that write such a quantity are read as the same number.  Tokens
with units of the same size are read as the same number if they write the same quantity, whether it is
a whole number or not. -/
structure IsExactConversion (units : List (String × Nat))
    (read? : List Char → Option UInt64) : Prop where
  isSome_iff : ∀ token, (read? token).isSome = true ↔ ∃ quantity, Writes units token quantity
  unique : ∀ token quantity other, Writes units token quantity → Writes units token other →
    quantity = other
  exact : ∀ token (x : Nat), Writes units token x → x < Nat.pow 2 51 →
    (read? token).map UInt64.toNat = some x
  read_eq : ∀ token other (x : Nat), Writes units token x → Writes units other x →
    x < Nat.pow 2 51 → read? token = read? other
  read_eq_of_scale : ∀ token other number otherNumber unit otherUnit scale,
    IsAmount units token number unit scale → IsAmount units other otherNumber otherUnit scale →
      decimalValue number = decimalValue otherNumber → read? token = read? other

/-- There is a power of ten behind every decimal. -/
theorem pow_places_pos (number : List Char) : 0 < Nat.pow 10 (places number) :=
  Nat.pow_pos (by decide)

/-- Decimals that write the same number are read as the same number. -/
theorem nearestTo_congr {number other : List Char} (h : decimalValue number = decimalValue other) :
    nearestTo number = nearestTo other := by
  have hnumber : ((Nat.pow 10 (places number) : Nat) : ℚ) ≠ 0 :=
    Nat.cast_ne_zero.mpr (pow_places_pos number).ne'
  have hother : ((Nat.pow 10 (places other) : Nat) : ℚ) ≠ 0 :=
    Nat.cast_ne_zero.mpr (pow_places_pos other).ne'
  unfold decimalValue at h
  rw [div_eq_div_iff hnumber hother] at h
  have hcross : significand number * Nat.pow 10 (places other) =
      significand other * Nat.pow 10 (places number) := by
    exact_mod_cast h
  unfold nearestTo Binary64.ofRatio
  rw [Magnitude.nearest_congr (pow_places_pos number) (pow_places_pos other)]
  rw [Nat.mul_right_comm, hcross, Nat.mul_right_comm]

section Table

variable {units : List (String × Nat)}

/-- What it means to write a whole number, in natural numbers. -/
theorem writes_natCast_iff {token : List Char} {x : Nat} :
    Writes units token x ↔ ∃ number unit scale, IsAmount units token number unit scale
      ∧ significand number * scale = x * Nat.pow 10 (places number) := by
  have hcross : ∀ (number : List Char) (scale : Nat),
      decimalValue number * scale = x ↔
        significand number * scale = x * Nat.pow 10 (places number) := by
    intro number scale
    have hpow : ((Nat.pow 10 (places number) : Nat) : ℚ) ≠ 0 :=
      Nat.cast_ne_zero.mpr (pow_places_pos number).ne'
    unfold decimalValue
    rw [div_mul_eq_mul_div, div_eq_iff hpow]
    exact_mod_cast Iff.rfl
  unfold Writes
  simp only [hcross]

/-- A token writes one quantity. -/
theorem IsUnitTable.writes_unique (h : IsUnitTable units) {token : List Char} {quantity other : ℚ}
    (hquantity : Writes units token quantity) (hother : Writes units token other) :
    quantity = other := by
  obtain ⟨number, unit, scale, hamount, rfl⟩ := hquantity
  obtain ⟨otherNumber, otherUnit, otherScale, hotherAmount, rfl⟩ := hother
  obtain ⟨rfl, rfl, rfl⟩ := hamount.unique hotherAmount h
  rfl

/-- Tokens with the units of a table are read exactly, if the units are not too great. -/
theorem IsUnitTable.isExactConversion (h : IsUnitTable units)
    (hscales : ∀ entry ∈ units, 0 < entry.2 ∧ entry.2 < Nat.pow 2 53) :
    IsExactConversion units fun token =>
      (quantity? (fun unit => units.lookup (String.ofList unit)) token).map Binary64.toCount := by
  have hread : ∀ {token number unit scale}, IsAmount units token number unit scale →
      (quantity? (fun unit => units.lookup (String.ofList unit)) token).map Binary64.toCount =
        some ((nearestTo number).mul (.ofNat scale)).toCount := by
    intro token number unit scale hamount
    rw [(quantity?_eq_some_iff h).mpr ⟨number, unit, scale, hamount, rfl⟩]
    rfl
  have hexact : ∀ token (x : Nat), Writes units token x → x < Nat.pow 2 51 →
      (quantity? (fun unit => units.lookup (String.ofList unit)) token).map Binary64.toCount =
        some (UInt64.ofNat x) := by
    rintro token x ⟨number, unit, scale, hamount, hx⟩ hlt
    obtain ⟨hpos, hscale⟩ := hscales _ hamount.mem
    rw [hread hamount]
    exact congrArg some
      (Binary64.toCount_ofRatio_mul (pow_places_pos number) hx hpos hscale hlt)
  refine ⟨?_, ?_, ?_, ?_, ?_⟩
  · intro token
    rw [Option.isSome_map, h.isGrammarOf_quantity?.accepts_iff token]
    constructor
    · rintro ⟨number, unit, scale, hamount⟩
      exact ⟨_, number, unit, scale, hamount, rfl⟩
    · rintro ⟨_, number, unit, scale, hamount, -⟩
      exact ⟨number, unit, scale, hamount⟩
  · intro token quantity other
    exact h.writes_unique
  · intro token x hwrites hlt
    rw [hexact token x hwrites hlt, Option.map_some, UInt64.toNat_ofNat_of_lt']
    exact Nat.lt_trans hlt (by decide)
  · intro token other x hwrites hother hlt
    rw [hexact token x hwrites hlt, hexact other x hother hlt]
  · intro token other number otherNumber unit otherUnit scale hamount hother hvalue
    rw [hread hamount, hread hother, nearestTo_congr hvalue]

end Table

/-- **The conversion of units is exact** for times and for sizes that are whole numbers below
`2⁵¹`. -/
theorem isExactConversion_units :
    IsExactConversion timeUnits (fun token => (duration? token).map Duration.nanoseconds)
      ∧ IsExactConversion sizeUnits size? := by
  have htime := isUnitTable_timeUnits.isExactConversion (by decide)
  have hsize := isUnitTable_sizeUnits.isExactConversion (by decide)
  refine ⟨?_, hsize⟩
  unfold duration?
  simp only [Option.map_map]
  exact htime

/-- A second and a fifth is the same time in seconds, in milliseconds and in minutes, and one and a
half kilobytes are read as all their bytes. -/
theorem isExactConversion_units_fifth :
    (duration? "1.20s".toList).map (fun d => d.nanoseconds.toNat) = some 1200000000
      ∧ (duration? "1.20s".toList).map Duration.nanoseconds =
        (duration? "1200ms".toList).map Duration.nanoseconds
      ∧ (duration? "1.20s".toList).map Duration.nanoseconds =
        (duration? "0.02m".toList).map Duration.nanoseconds
      ∧ (size? "1.50KB".toList).map UInt64.toNat = some 1536 := by
  obtain ⟨htime, hsize⟩ := isExactConversion_units
  have hseconds : Writes timeUnits "1.20s".toList (1200000000 : Nat) :=
    writes_natCast_iff.mpr
      ⟨"1.20".toList, "s", 1000000000, ⟨by decide, by decide, by decide⟩, by decide⟩
  have hmilliseconds : Writes timeUnits "1200ms".toList (1200000000 : Nat) :=
    writes_natCast_iff.mpr
      ⟨"1200".toList, "ms", 1000000, ⟨by decide, by decide, by decide⟩, by decide⟩
  have hminutes : Writes timeUnits "0.02m".toList (1200000000 : Nat) :=
    writes_natCast_iff.mpr
      ⟨"0.02".toList, "m", 60000000000, ⟨by decide, by decide, by decide⟩, by decide⟩
  have hkilobytes : Writes sizeUnits "1.50KB".toList (1536 : Nat) :=
    writes_natCast_iff.mpr
      ⟨"1.50".toList, "KB", 1024, ⟨by decide, by decide, by decide⟩, by decide⟩
  refine ⟨?_, ?_, ?_, hsize.exact _ _ hkilobytes (by decide)⟩
  · have hread := htime.exact _ _ hseconds (by decide)
    rw [Option.map_map] at hread
    exact hread
  · exact htime.read_eq _ _ _ hseconds hmilliseconds (by decide)
  · exact htime.read_eq _ _ _ hseconds hminutes (by decide)

/-- Half a nanosecond is rounded up, but the same time in microseconds is read as a number below the
half. -/
example : duration? "500.5ns".toList = some ⟨501⟩ ∧ duration? "0.5005us".toList = some ⟨500⟩ := by
  decide +kernel

end BenchCompare.Report
