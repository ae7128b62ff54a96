import BenchCompare.Proofs.Numeral.Digits
import BenchCompare.Timestamp
import Mathlib.Algebra.Group.Nat.Defs

/-!
# Timestamps are read back

The text of a moment of universal time is a timestamp, whatever its year and its fraction of a
second (`Timestamp.exists_parse?_universalText`).  Each part is printed with leading zeros and ends
where a mark stands, so the reader takes exactly its digits (`Timestamp.digits?_append`), and their
value is the part (`Timestamp.value_padded`).
-/

namespace BenchCompare.Timestamp

open Numeral (EndsDigits endsDigits_cons)

/-! ### Digits with leading zeros -/

/-- A digit character is a digit. -/
theorem isDigit_digitChar_mod (n : Nat) : (Nat.digitChar (n % 10)).isDigit = true := by
  have htable : ∀ d < 10, (Nat.digitChar d).isDigit = true := by decide
  exact htable _ (Nat.mod_lt n (by decide))

/-- Padded digits are digits. -/
theorem isDigit_of_mem_padded {width n : Nat} {c : Char} (h : c ∈ padded width n) :
    c.isDigit = true := by
  induction width generalizing n with
  | zero => cases h
  | succ width ih =>
    rcases List.mem_append.mp h with h | h
    · exact ih h
    · rw [List.mem_singleton.mp h]
      exact isDigit_digitChar_mod n

/-- There are as many padded digits as wanted. -/
theorem length_padded (width n : Nat) : (padded width n).length = width := by
  induction width generalizing n with
  | zero => rfl
  | succ width ih => rw [padded, List.length_append, ih, List.length_singleton]

/-- Padded digits are at least one if at least one is wanted. -/
theorem exists_padded_cons (width n : Nat) :
    ∃ c cs, padded (width + 1) n = c :: cs ∧ c.isDigit = true := by
  have hne : padded (width + 1) n ≠ [] := by
    rw [← List.length_pos_iff, length_padded]
    exact Nat.succ_pos width
  obtain ⟨c, cs, h⟩ := List.exists_cons_of_ne_nil hne
  exact ⟨c, cs, h, isDigit_of_mem_padded (h ▸ List.mem_cons_self)⟩

/-- The value of padded digits is the number, as far as there are digits for it. -/
theorem value_padded (width n : Nat) : Numeral.value (padded width n) = n % 10 ^ width := by
  induction width generalizing n with
  | zero => rw [Nat.pow_zero, Nat.mod_one]; rfl
  | succ width ih =>
    have hdigit : (Nat.digitChar (n % 10)).toNat - '0'.toNat = n % 10 :=
      Nat.toNat_digitChar_sub_48_of_lt_ten (Nat.mod_lt n (by decide))
    have hfront : (padded width (n / 10)).foldl
        (fun acc c => acc * 10 + (c.toNat - '0'.toNat)) 0 = n / 10 % 10 ^ width := ih (n / 10)
    rw [padded, Numeral.value, List.foldl_append, hfront, List.foldl_cons, List.foldl_nil, hdigit,
      Nat.pow_succ', Nat.mod_mul]
    omega

/-- Digits in front of another character are read, if there are not too many of them. -/
theorem digits?_append {most : Nat} {ds rest : List Char} (hds : ∀ c ∈ ds, c.isDigit = true)
    (hne : ds ≠ []) (hmost : ds.length ≤ most) (hrest : EndsDigits rest) :
    digits? most (ds ++ rest) = some (Numeral.value ds, rest) := by
  rw [digits?, Numeral.takeWhile_isDigit_append ds hrest, List.takeWhile_eq_self_iff.mpr hds,
    List.take_of_length_le hmost]
  simp [hne]

/-! ### Parts of a timestamp -/

/-- A text that begins with a digit begins with no blank. -/
theorem trimStart_cons_of_isDigit {c : Char} (hc : c.isDigit = true) (cs : List Char) :
    Text.trimStart (c :: cs) = c :: cs := by
  simp [Text.trimStart, Numeral.isBlank_of_isDigit hc]

/-- Padded digits are read back if there are enough of them for the number. -/
theorem digits?_padded_append {most width n : Nat} (hwidth : width + 1 ≤ most)
    (hn : n < 10 ^ (width + 1)) {rest : List Char} (hrest : EndsDigits rest) :
    digits? most (padded (width + 1) n ++ rest) = some (n, rest) := by
  obtain ⟨c, cs, hcs, -⟩ := exists_padded_cons width n
  rw [digits?_append (fun _ => isDigit_of_mem_padded) (by simp [hcs])
    (by rwa [length_padded]) hrest, value_padded, Nat.mod_eq_of_lt hn]

/-- A part of two digits is read back. -/
theorem pair?_padded {n : Nat} (h : n < 100) {rest : List Char} (hrest : EndsDigits rest) :
    pair? (padded 2 n ++ rest) = some (n, rest) := by
  obtain ⟨c, cs, hcs, hc⟩ := exists_padded_cons 1 n
  rw [pair?, ← digits?_padded_append (Nat.le_refl 2) h hrest, hcs, List.cons_append,
    trimStart_cons_of_isDigit hc]

/-- A mark is read back. -/
theorem afterMark?_cons {mark : Char} (h : Text.isBlank mark = false) (rest : List Char) :
    afterMark? mark (mark :: rest) = some rest := by
  simp [afterMark?, Text.trimStart, h]

/-- The size of a year with a sign is read back, however many digits it has. -/
theorem digits?_signedYear (n : Nat) {rest : List Char} (hrest : EndsDigits rest) :
    digits? (padded (max 4 (Numeral.digits n).length) n ++ rest).length
      (padded (max 4 (Numeral.digits n).length) n ++ rest) = some (n, rest) := by
  obtain ⟨width, hwidth⟩ : ∃ width, max 4 (Numeral.digits n).length = width + 1 :=
    Nat.exists_eq_succ_of_ne_zero (by omega)
  have hn : n < 10 ^ (width + 1) := by
    have hpos : 0 < (Numeral.digits n).length := Nat.length_toDigits_pos
    have hlt : n < 10 ^ (Numeral.digits n).length :=
      (Nat.length_toDigits_le_iff (by decide) hpos).mp (Nat.le_refl _)
    refine hlt.trans_le (Nat.pow_le_pow_right (by decide) ?_)
    omega
  rw [hwidth]
  refine digits?_padded_append ?_ hn hrest
  rw [List.length_append, length_padded]
  exact Nat.le_add_right _ _

/-- A year is read back. -/
theorem year?_yearText (year : Int) {rest : List Char} (hrest : EndsDigits rest) :
    year? (yearText year ++ rest) = some (year, rest) := by
  have hsign : ∀ {sign : Char} (cs : List Char), Text.isBlank sign = false →
      Text.trimStart (sign :: cs) = sign :: cs := by
    intro sign cs h
    simp [Text.trimStart, h]
  rw [yearText]
  split_ifs with hplain hnegative
  · rw [Bool.and_eq_true, decide_eq_true_eq, decide_eq_true_eq] at hplain
    obtain ⟨n, rfl⟩ := Int.eq_ofNat_of_zero_le hplain.1
    have hn : n < 10 ^ 4 := by omega
    obtain ⟨c, cs, hcs, hc⟩ := exists_padded_cons 3 n
    have hread := digits?_padded_append (Nat.le_refl 4) hn hrest
    rw [hcs, List.cons_append] at hread
    rw [Int.toNat_natCast, hcs, List.cons_append, year?, trimStart_cons_of_isDigit hc]
    split
    · next heq =>
      obtain ⟨rfl, -⟩ := List.cons.inj heq
      cases hc
    · next heq =>
      obtain ⟨rfl, -⟩ := List.cons.inj heq
      cases hc
    · rw [hread]
      rfl
  · have hread := digits?_signedYear year.natAbs hrest
    rw [List.cons_append, year?, hsign _ (by decide)]
    simp only [hread, Option.map_some, Option.some.injEq, Prod.mk.injEq, and_true]
    omega
  · have hread := digits?_signedYear year.natAbs hrest
    rw [List.cons_append, year?, hsign _ (by decide)]
    simp only [hread, Option.map_some, Option.some.injEq, Prod.mk.injEq, and_true]
    omega

/-- A fraction of a second is read up to the mark of universal time. -/
theorem exists_fraction?_fractionText (nanosecond : Nat) :
    ∃ n, fraction? (fractionText nanosecond ++ ['Z']) = some (n, ['Z']) := by
  have hdigits : ∀ width n, ∃ k, fraction? ('.' :: (padded (width + 1) n ++ ['Z'])) =
      some (k, ['Z']) := by
    intro width n
    obtain ⟨c, cs, hcs, -⟩ := exists_padded_cons width n
    have htake : (padded (width + 1) n ++ ['Z']).takeWhile Char.isDigit = padded (width + 1) n := by
      rw [Numeral.takeWhile_isDigit_append _ (endsDigits_cons (by decide) [])]
      exact List.takeWhile_eq_self_iff.mpr fun _ => isDigit_of_mem_padded
    refine ⟨nanosecondsOf (padded (width + 1) n), ?_⟩
    rw [fraction?, htake, hcs]
    simp
  rw [fractionText]
  split_ifs
  · exact ⟨0, rfl⟩
  · exact hdigits 2 _
  · exact hdigits 5 _
  · exact hdigits 8 _

/-- A fraction of a second and the mark of universal time begin with no digit. -/
theorem endsDigits_fractionText (nanosecond : Nat) :
    EndsDigits (fractionText nanosecond ++ ['Z']) := by
  rw [fractionText]
  split_ifs <;> exact endsDigits_cons (by decide) _

/-- **A printed timestamp is read back.**  The text of a moment of universal time is a timestamp
with the same date and time of day, whatever the fraction of a second is read as. -/
theorem exists_parse?_universalText {t : Timestamp} (h : t.isValid = true) :
    ∃ nanosecond, parse? t.universalText = some { t with nanosecond, offsetMinutes := 0 } := by
  obtain ⟨nanosecond, hfraction⟩ := exists_fraction?_fractionText t.nanosecond
  have hvalid : isValid { t with nanosecond, offsetMinutes := 0 } = true := by
    simp only [isValid, Bool.and_eq_true] at h ⊢
    exact ⟨h.1, rfl⟩
  simp only [isValid, Bool.and_eq_true, decide_eq_true_eq] at h
  have hdays : daysIn t.year t.month ≤ 31 := by
    rw [daysIn]
    split_ifs <;> decide
  have hmark : ∀ {mark : Char} (cs : List Char), mark.isDigit = false → EndsDigits (mark :: cs) :=
    fun cs hmark => endsDigits_cons hmark cs
  have hoffset : offset? (Text.trimStart ['Z']) = some (0, []) := by decide
  refine ⟨nanosecond, ?_⟩
  rw [parse?, universalText, String.toList_ofList]
  simp only [Option.bind_eq_bind, Option.bind_eq_some_iff, List.append_assoc, List.cons_append]
  refine ⟨_, year?_yearText t.year (hmark _ (by decide)),
    _, afterMark?_cons (by decide) _, _, pair?_padded (by omega) (hmark _ (by decide)),
    _, afterMark?_cons (by decide) _, _, pair?_padded (by omega) (hmark _ (by decide)),
    _, rfl, _, pair?_padded (by omega) (hmark _ (by decide)),
    _, afterMark?_cons (by decide) _, _, pair?_padded (by omega) (hmark _ (by decide)),
    _, afterMark?_cons (by decide) _, _,
    pair?_padded (by omega) (endsDigits_fractionText t.nanosecond),
    _, hfraction, _, hoffset, ?_⟩
  rw [hvalid]
  rfl

end BenchCompare.Timestamp
