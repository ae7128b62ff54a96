import BenchCompare.Binary64.Reader
import BenchCompare.Proofs.Numeral.Digits

/-!
# Decimals

A decimal consists of digits with at most one point among them, and has at least one digit
(`IsDecimal`).  Of the texts of digits and points, exactly the decimals are read as numbers
(`Binary64.isDecimal_of_parse?`, `Binary64.parse?_of_isDecimal`).  The number is the one nearest to
the quotient of the digits, taken as a whole number, by ten for each digit behind the point.
-/

namespace BenchCompare

/-- A text of digits and points only. -/
def IsDigitsAndPoints (cs : List Char) : Prop :=
  ∀ c ∈ cs, c.isDigit = true ∨ c = '.'

/-- Digits with at most one point among them, and at least one digit. -/
structure IsDecimal (cs : List Char) : Prop where
  digits_and_points : IsDigitsAndPoints cs
  count_point : cs.count '.' ≤ 1
  exists_digit : ∃ c ∈ cs, c.isDigit = true

/-- What a decimal is, as a check of its characters. -/
theorem isDecimal_iff {cs : List Char} :
    IsDecimal cs ↔ cs.all (fun c => c.isDigit || c == '.') = true ∧ cs.count '.' ≤ 1
      ∧ cs.any Char.isDigit = true := by
  simp only [List.all_eq_true, List.any_eq_true, Bool.or_eq_true, beq_iff_eq]
  exact ⟨fun h => ⟨h.digits_and_points, h.count_point, h.exists_digit⟩, fun h => ⟨h.1, h.2.1, h.2.2⟩⟩

instance (cs : List Char) : Decidable (IsDecimal cs) :=
  decidable_of_iff _ isDecimal_iff.symm

/-- The digits of a text, taken as one whole number. -/
def significand (cs : List Char) : Nat :=
  Numeral.value (cs.filter Char.isDigit)

/-- The number of characters behind the first point of a text. -/
def places (cs : List Char) : Nat :=
  ((cs.dropWhile (· != '.')).drop 1).length

/-! ### Digits and points -/

/-- A text of digits and points consists of digits, or it has a first point. -/
theorem IsDigitsAndPoints.exists_parts {cs : List Char} (h : IsDigitsAndPoints cs) :
    (∀ c ∈ cs, c.isDigit = true) ∨ ∃ whole tail, cs = whole ++ '.' :: tail
      ∧ (∀ c ∈ whole, c.isDigit = true) ∧ IsDigitsAndPoints tail := by
  by_cases hmem : '.' ∈ cs
  · obtain ⟨whole, tail, rfl, hfirst⟩ := List.eq_append_cons_of_mem hmem
    refine .inr ⟨whole, tail, rfl, ?_, ?_⟩
    · intro c hc
      rcases h c (List.mem_append_left _ hc) with hdigit | rfl
      · exact hdigit
      · exact absurd hc hfirst
    · intro c hc
      exact h c (List.mem_append_right _ (List.mem_cons_of_mem _ hc))
  · left
    intro c hc
    rcases h c hc with hdigit | rfl
    · exact hdigit
    · exact absurd hc hmem

/-- The parts of a decimal: digits only, or digits in front of a point and behind it. -/
theorem IsDecimal.exists_parts {cs : List Char} (h : IsDecimal cs) :
    ((∀ c ∈ cs, c.isDigit = true) ∧ cs ≠ [])
      ∨ ∃ whole fraction, cs = whole ++ '.' :: fraction ∧ (∀ c ∈ whole, c.isDigit = true)
        ∧ (∀ c ∈ fraction, c.isDigit = true) ∧ whole ++ fraction ≠ [] := by
  obtain ⟨c, hc, hdigit⟩ := h.exists_digit
  rcases h.digits_and_points.exists_parts with hdigits | ⟨whole, tail, rfl, hwhole, htail⟩
  · exact .inl ⟨hdigits, List.ne_nil_of_mem hc⟩
  · have hcount := h.count_point
    rw [List.count_append, List.count_cons_self] at hcount
    have hnone : '.' ∉ tail := List.count_eq_zero.mp (by omega)
    refine .inr ⟨whole, tail, rfl, hwhole, ?_, ?_⟩
    · intro d hd
      rcases htail d hd with hd | rfl
      · exact hd
      · exact absurd hd hnone
    · intro hnil
      obtain ⟨rfl, rfl⟩ := List.append_eq_nil_iff.mp hnil
      obtain rfl := List.mem_singleton.mp hc
      cases hdigit

/-- Digits are a decimal. -/
theorem isDecimal_digits {cs : List Char} (h : ∀ c ∈ cs, c.isDigit = true) (hne : cs ≠ []) :
    IsDecimal cs where
  digits_and_points c hc := .inl (h c hc)
  count_point := by
    have hnone : '.' ∉ cs := fun hmem => absurd (h '.' hmem) (by decide)
    rw [List.count_eq_zero.mpr hnone]
    exact Nat.zero_le 1
  exists_digit := by
    obtain ⟨c, ds, rfl⟩ := List.exists_cons_of_ne_nil hne
    exact ⟨c, List.mem_cons_self, h c List.mem_cons_self⟩

/-- Digits with a point in front of them, behind them or in their midst are a decimal. -/
theorem isDecimal_point {whole fraction : List Char} (hwhole : ∀ c ∈ whole, c.isDigit = true)
    (hfraction : ∀ c ∈ fraction, c.isDigit = true) (hne : whole ++ fraction ≠ []) :
    IsDecimal (whole ++ '.' :: fraction) := by
  have hdigits : ∀ c ∈ whole ++ fraction, c.isDigit = true := by
    intro c hc
    rcases List.mem_append.mp hc with hc | hc
    · exact hwhole c hc
    · exact hfraction c hc
  have hdecimal := isDecimal_digits hdigits hne
  have hnone : '.' ∉ whole ++ fraction := fun hmem => absurd (hdigits '.' hmem) (by decide)
  refine ⟨?_, ?_, ?_⟩
  · intro c hc
    rcases List.mem_append.mp hc with hc | hc
    · exact .inl (hwhole c hc)
    · rcases List.mem_cons.mp hc with rfl | hc
      · exact .inr rfl
      · exact .inl (hfraction c hc)
  · rw [List.mem_append, not_or] at hnone
    rw [List.count_append, List.count_cons_self, List.count_eq_zero.mpr hnone.1,
      List.count_eq_zero.mpr hnone.2]
  · obtain ⟨c, hc, hdigit⟩ := hdecimal.exists_digit
    refine ⟨c, ?_, hdigit⟩
    rcases List.mem_append.mp hc with hc | hc
    · exact List.mem_append_left _ hc
    · exact List.mem_append_right _ (List.mem_cons_of_mem _ hc)

/-- A digit is no point. -/
theorem bne_point_of_isDigit {c : Char} (h : c.isDigit = true) : (c != '.') = true := by
  apply bne_iff_ne.mpr
  rintro rfl
  cases h

/-- The digits and the places of digits. -/
theorem significand_digits {cs : List Char} (h : ∀ c ∈ cs, c.isDigit = true) :
    significand cs = Numeral.value cs ∧ places cs = 0 := by
  have hdrop : cs.dropWhile (· != '.') = [] := by
    apply List.dropWhile_eq_nil_iff.mpr
    intro c hc
    exact bne_point_of_isDigit (h c hc)
  unfold significand places
  rw [List.filter_eq_self.mpr h, hdrop]
  exact ⟨rfl, rfl⟩

/-- The digits and the places of digits with a point among them. -/
theorem significand_point {whole fraction : List Char} (hwhole : ∀ c ∈ whole, c.isDigit = true)
    (hfraction : ∀ c ∈ fraction, c.isDigit = true) :
    significand (whole ++ '.' :: fraction) = Numeral.value (whole ++ fraction)
      ∧ places (whole ++ '.' :: fraction) = fraction.length := by
  have hdrop : (whole ++ '.' :: fraction).dropWhile (· != '.') = '.' :: fraction := by
    rw [List.dropWhile_append_of_pos fun c hc => bne_point_of_isDigit (hwhole c hc)]
    exact List.dropWhile_cons_of_neg (by decide)
  unfold significand places
  rw [List.filter_append, List.filter_cons_of_neg (by decide), List.filter_eq_self.mpr hwhole,
    List.filter_eq_self.mpr hfraction, hdrop]
  exact ⟨rfl, rfl⟩

/-! ### Reading -/

namespace Binary64

/-- Digits and points have no lower-case form. -/
theorem toLower_eq_self {c : Char} (h : c.isDigit = true ∨ c = '.') : c.toLower = c := by
  rcases h with h | rfl
  · have hbounds := Numeral.isDigit_iff.mp h
    have hnot : ¬ (c.val ≥ 'A'.val ∧ c.val ≤ 'Z'.val) := by
      rintro ⟨hA, -⟩
      have hlow : 65 ≤ c.toNat := UInt32.le_iff_toNat_le.mp hA
      omega
    exact dif_neg hnot
  · decide

/-- Digits and points are no sign and no word, so they are read as a mantissa or not at all. -/
theorem parse?_eq_mantissa? {cs : List Char} (h : IsDigitsAndPoints cs) :
    parse? cs = (mantissa? cs).bind fun read => (exponent? read.2).map (ofMantissa read.1) := by
  rcases cs with _ | ⟨c, cs⟩
  · decide
  · have hc := h c List.mem_cons_self
    have hne : ∀ d : Char, ¬ (d.isDigit = true ∨ d = '.') → c ≠ d := by
      rintro d hd rfl
      exact hd hc
    have hword : ∀ {d : Char} {ds : List Char}, ¬ (d.toLower.isDigit = true ∨ d.toLower = '.') →
        Text.sameLetters (c :: cs) (d :: ds) = false := by
      intro d ds hd
      simp [Text.sameLetters, toLower_eq_self hc, hne _ hd]
    have hinf : Text.sameLetters (c :: cs) "inf".toList = false := hword (by decide)
    have hinfinity : Text.sameLetters (c :: cs) "infinity".toList = false := hword (by decide)
    have hnan : Text.sameLetters (c :: cs) "nan".toList = false := hword (by decide)
    have hunsigned : parse? (c :: cs) = unsigned? (c :: cs) := by
      rw [parse?]
      · exact fun _ heq => hne '-' (by decide) (List.cons.inj heq).1
      · exact fun _ heq => hne '+' (by decide) (List.cons.inj heq).1
    rw [hunsigned]
    unfold unsigned?
    rw [hinf, hinfinity, hnan]
    rcases mantissa? (c :: cs) with _ | ⟨m, rest⟩
    · rfl
    · change ((exponent? rest).bind fun exponent => some (ofMantissa m exponent)) =
        (exponent? rest).map (ofMantissa m)
      rw [Option.map_eq_bind]
      rfl

/-- A mantissa without an exponent is a quotient by a power of ten. -/
theorem ofMantissa_zero (m : Mantissa) :
    ofMantissa m 0 = ofRatio (Numeral.value (m.whole ++ m.fraction)) (Nat.pow 10 m.fraction.length) := by
  have hscale : Max.max (-(((m.whole ++ m.fraction).length : Int) + 400))
      (min (((m.whole ++ m.fraction).length : Int) + 400) 0) = 0 := by
    omega
  unfold ofMantissa
  simp only [hscale]
  rcases m.fraction.length with _ | n
  · change ofRatio (_ * Nat.pow 10 0) 1 = _
    rw [show Nat.pow 10 0 = 1 from rfl, Nat.mul_one]
  · have hneg : (0 : Int) - ((n + 1 : Nat) : Int) = Int.negSucc n := by omega
    rw [hneg]
    rfl

/-- Digits are read as a mantissa up to their end. -/
theorem mantissa?_digits {cs : List Char} (h : ∀ c ∈ cs, c.isDigit = true) :
    mantissa? cs = if cs.isEmpty then none else some (⟨cs, []⟩, []) := by
  unfold mantissa?
  rw [List.takeWhile_eq_self_iff.mpr h, List.dropWhile_eq_nil_iff.mpr h]
  simp

/-- Digits with a point among them are read as a mantissa up to the next character that is no
digit. -/
theorem mantissa?_point {whole fraction rest : List Char} (hwhole : ∀ c ∈ whole, c.isDigit = true)
    (hfraction : ∀ c ∈ fraction, c.isDigit = true) (hrest : Numeral.EndsDigits rest) :
    mantissa? (whole ++ '.' :: (fraction ++ rest)) =
      if whole.isEmpty && fraction.isEmpty then none else some (⟨whole, fraction⟩, rest) := by
  have hpoint : Numeral.EndsDigits ('.' :: (fraction ++ rest)) :=
    Numeral.endsDigits_cons (by decide) _
  unfold mantissa?
  rw [Numeral.takeWhile_isDigit_append whole hpoint, Numeral.dropWhile_isDigit_append whole hpoint,
    List.takeWhile_eq_self_iff.mpr hwhole, List.dropWhile_eq_nil_iff.mpr hwhole]
  simp only [List.nil_append]
  rw [Numeral.takeWhile_isDigit_append fraction hrest,
    Numeral.dropWhile_isDigit_append fraction hrest, List.takeWhile_eq_self_iff.mpr hfraction,
    List.dropWhile_eq_nil_iff.mpr hfraction, List.nil_append]

/-- **Decimals are read** as the number nearest to the quotient that they write. -/
theorem parse?_of_isDecimal {cs : List Char} (h : IsDecimal cs) :
    parse? cs = some (ofRatio (significand cs) (Nat.pow 10 (places cs))) := by
  rw [parse?_eq_mantissa? h.digits_and_points]
  rcases h.exists_parts with ⟨hdigits, hne⟩ | ⟨whole, fraction, rfl, hwhole, hfraction, hne⟩
  · obtain ⟨hvalue, hplaces⟩ := significand_digits hdigits
    rw [mantissa?_digits hdigits, if_neg (by simpa using hne), hvalue, hplaces]
    change some (ofMantissa ⟨cs, []⟩ 0) = _
    rw [ofMantissa_zero, List.append_nil]
    rfl
  · obtain ⟨hvalue, hplaces⟩ := significand_point hwhole hfraction
    have hread := @mantissa?_point whole fraction [] hwhole hfraction nofun
    rw [List.append_nil] at hread
    rw [hread, if_neg (by simpa using hne), hvalue, hplaces]
    change some (ofMantissa ⟨whole, fraction⟩ 0) = _
    rw [ofMantissa_zero]

/-- Of the texts of digits and points, only decimals are read. -/
theorem isDecimal_of_parse? {cs : List Char} (h : IsDigitsAndPoints cs) {x : Binary64}
    (hread : parse? cs = some x) : IsDecimal cs := by
  rw [parse?_eq_mantissa? h] at hread
  obtain ⟨⟨m, rest⟩, hmantissa, hexponent⟩ := Option.bind_eq_some_iff.mp hread
  rcases h.exists_parts with hdigits | ⟨whole, tail, rfl, hwhole, htail⟩
  · refine isDecimal_digits hdigits ?_
    rintro rfl
    cases hmantissa
  · rcases htail.exists_parts with hfraction | ⟨fraction, others, rfl, hfraction, -⟩
    · refine isDecimal_point hwhole hfraction ?_
      intro hnil
      obtain ⟨rfl, rfl⟩ := List.append_eq_nil_iff.mp hnil
      cases hmantissa
    · -- A second point is left over, and it begins no exponent.
      rw [mantissa?_point hwhole hfraction (Numeral.endsDigits_cons (by decide) _)] at hmantissa
      split at hmantissa
      · cases hmantissa
      · cases hmantissa
        cases hexponent

end Binary64

end BenchCompare
