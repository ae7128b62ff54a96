import BenchCompare.Proofs.Json.Numbers
import BenchCompare.Proofs.Yaml.Entries

/-!
# Whole numbers are read back

The digits of a number are a plain text (`isWritten_digits`): a digit is no mark.  They have no sign
and no leading zero, and nothing in them marks another base, so they stand for the number
(`natural?_digits`).
-/

namespace BenchCompare.Yaml

/-! ### Digits as a text -/

/-- No neighbours in a text satisfy `p` if no two characters of the text do. -/
theorem anyNeighbours_eq_false {p : Char → Char → Bool} {cs : List Char}
    (h : ∀ c ∈ cs, ∀ d ∈ cs, p c d = false) : anyNeighbours p cs = false := by
  induction cs with
  | nil => rfl
  | cons c cs ih =>
    rw [anyNeighbours_cons_eq_false]
    refine ⟨fun d hd => ?_, ih fun e he d hd => ?_⟩
    · exact h c List.mem_cons_self d (List.mem_cons_of_mem c (List.mem_of_mem_head? hd))
    · exact h e (List.mem_cons_of_mem c he) d (List.mem_cons_of_mem c hd)

/-- A text with a digit at an end has no blank there. -/
theorem any_isEdge_of_isDigit {edge : Option Char} (h : ∀ c ∈ edge, c.isDigit = true) :
    edge.any isEdge = false := by
  cases edge with
  | none => rfl
  | some c =>
    have hdigit := isOrdinary_of_isDigit (h c rfl)
    simp [isEdge, (isSolid_iff.mp hdigit.isSolid).2, hdigit.ne ' ' (by decide)]

/-- A text that begins with a digit begins like a plain scalar. -/
theorem beginsOther_cons_of_isDigit {c : Char} (h : c.isDigit = true) (cs : List Char) :
    beginsOther (c :: cs) = false := by
  have hdigit := isOrdinary_of_isDigit h
  have hmark : c ∉ leadingMarks := hdigit.not_mem (by decide)
  have hdash : ('-' == c) = false := beq_eq_false_iff_ne.mpr (hdigit.ne '-' (by decide)).symm
  have hpoint : ('.' == c) = false := beq_eq_false_iff_ne.mpr (hdigit.ne '.' (by decide)).symm
  simp [beginsOther, List.isPrefixOf, hdigit.isFlowMark, hmark, hdash, hpoint,
    hdigit.ne '?' (by decide), hdigit.ne ':' (by decide), hdigit.ne '-' (by decide)]

/-- The digits of a number are a plain text. -/
theorem plainAllowed_digits (n : Nat) : plainAllowed (Numeral.digits n) = true := by
  have hdigit : ∀ c ∈ Numeral.digits n, c.isDigit = true := fun c => Numeral.isDigit_of_mem_digits
  have hprintable : (Numeral.digits n).all (fun c => isPrintable c && !isBreak c) = true := by
    rw [List.all_eq_true]
    intro c hc
    have hordinary := isOrdinary_of_isDigit (hdigit c hc)
    rw [hordinary.isPrintable, (isSolid_iff.mp hordinary.isSolid).2]
    rfl
  have hbegins : beginsOther (Numeral.digits n) = false := by
    obtain ⟨c, cs, hcs, hc⟩ := Numeral.exists_digits_cons n
    rw [hcs]
    exact beginsOther_cons_of_isDigit hc cs
  have hlast : (Numeral.digits n).getLast? ≠ some ':' := fun e =>
    (isOrdinary_of_isDigit (hdigit ':' (List.mem_of_getLast? e))).ne ':' (by decide) rfl
  have hbetween : anyNeighbours endsBetween (Numeral.digits n) = false := by
    refine anyNeighbours_eq_false fun c hc d hd => ?_
    have hcolon : c ≠ ':' := (isOrdinary_of_isDigit (hdigit c hc)).ne ':' (by decide)
    have hsign : d ≠ '#' := (isOrdinary_of_isDigit (hdigit d hd)).ne '#' (by decide)
    simp [endsBetween, hcolon, hsign]
  have hinside : endsInside (Numeral.digits n) = false := by
    rw [endsInside, beq_eq_false_iff_ne.mpr hlast]
    exact hbetween
  have hfirstEdge : (Numeral.digits n).head?.any isEdge = false :=
    any_isEdge_of_isDigit fun c hc => hdigit c (List.mem_of_mem_head? hc)
  have hlastEdge : (Numeral.digits n).getLast?.any isEdge = false :=
    any_isEdge_of_isDigit fun c hc => hdigit c (List.mem_of_getLast? hc)
  rw [plainAllowed, hprintable, hbegins, hinside, hfirstEdge, hlastEdge]
  rfl

/-- The digits of a number are written as they are. -/
theorem isWritten_digits (n : Nat) :
    IsWritten (Numeral.digits n) .plain (Numeral.digits n ++ ['\n']) :=
  .plain (Numeral.digits_ne_nil n) (plainAllowed_digits n)

/-! ### Digits as a number -/

/-- Digits have no mark of another base in front of them. -/
theorem isPrefixOf?_mark_eq_none {cs : List Char} (h : ∀ c ∈ cs, c.isDigit = true) :
    ∀ base ∈ bases, base.1.isPrefixOf? cs = none := by
  intro base hbase
  have hall : bases.all (fun base => base.1.any fun c => !c.isDigit) = true := by decide
  obtain ⟨c, hc, hmark⟩ := List.any_eq_true.mp (List.all_eq_true.mp hall base hbase)
  have hdigit : c.isDigit = false := by simpa using hmark
  cases hcut : base.1.isPrefixOf? cs with
  | none => rfl
  | some rest =>
    rw [List.isPrefixOf?_eq_some_iff_append_eq] at hcut
    have hcs := h c (hcut ▸ List.mem_append_left rest hc)
    rw [hdigit] at hcs
    cases hcs

/-- Digits in base ten are read after a value as long as they do not pass the bound. -/
theorem foldlM_digits {limit : Nat} {cs : List Char} (hcs : ∀ c ∈ cs, c.isDigit = true) {acc : Nat}
    (h : Nat.ofDigitChars 10 cs acc ≤ limit) :
    cs.foldlM (fun n c =>
      match Json.hexValue? c with
      | none => none
      | some d => if d < 10 ∧ n * 10 + d ≤ limit then some (n * 10 + d) else none) acc =
        some (Nat.ofDigitChars 10 cs acc) := by
  induction cs generalizing acc with
  | nil => rfl
  | cons c cs ih =>
    rw [List.forall_mem_cons] at hcs
    have hvalue : Json.hexValue? c = some (c.toNat - '0'.toNat) := by
      rw [Json.hexValue?, if_pos hcs.1]
    have hdigit : c.toNat - '0'.toNat < 10 := by
      have hcode := Numeral.isDigit_iff.mp hcs.1
      have hzero : '0'.toNat = 48 := rfl
      omega
    rw [Nat.ofDigitChars_cons, Nat.mul_comm] at h
    have hle : acc * 10 + (c.toNat - '0'.toNat) ≤ limit := (Numeral.le_ofDigitChars cs _).trans h
    rw [Nat.ofDigitChars_cons, Nat.mul_comm, List.foldlM_cons, hvalue]
    simp only [if_pos (And.intro hdigit hle), Option.bind_eq_bind, Option.bind_some]
    exact ih hcs.2 h

/-- A number within the bounds is read back from its digits in base ten. -/
theorem digitsIn?_ten {limit n : Nat} (h : n ≤ limit) :
    digitsIn? 10 limit (Numeral.digits n) = some n := by
  have hvalue : Nat.ofDigitChars 10 (Numeral.digits n) 0 = n := Nat.ofDigitChars_ten_toDigits
  have hfull : (Numeral.digits n).isEmpty = false :=
    List.isEmpty_eq_false_iff.mpr (Numeral.digits_ne_nil n)
  have hbound : Nat.ofDigitChars 10 (Numeral.digits n) 0 ≤ limit := by rwa [hvalue]
  have hread := foldlM_digits (fun _ => Numeral.isDigit_of_mem_digits) hbound
  rw [hvalue] at hread
  rw [digitsIn?, hfull]
  exact hread

/-- The digits of a number have no sign in front of them. -/
theorem hasSign_digits (n : Nat) : hasSign (Numeral.digits n) = false := by
  obtain ⟨c, cs, hcs, hc⟩ := Numeral.exists_digits_cons n
  have hdigit := isOrdinary_of_isDigit hc
  simp [hcs, hasSign, hdigit.ne '+' (by decide), hdigit.ne '-' (by decide)]

/-- The digits of a number have no plus sign in front of them. -/
theorem dropPlus_digits (n : Nat) : dropPlus (Numeral.digits n) = Numeral.digits n := by
  obtain ⟨c, cs, hcs, hc⟩ := Numeral.exists_digits_cons n
  rw [hcs, dropPlus]
  exact fun _ e => (isOrdinary_of_isDigit hc).ne '+' (by decide) (List.cons.inj e).1

/-- The digits of a number are no run of digits after a zero. -/
theorem hasLeadingZero_digits (n : Nat) : hasLeadingZero (Numeral.digits n) = false := by
  rw [hasLeadingZero, dropSign, hasSign_digits]
  cases Nat.eq_zero_or_pos n with
  | inl hzero =>
    subst hzero
    rfl
  | inr hpos =>
    have hfirst := Json.head?_digits_ne_zero hpos
    obtain ⟨c, cs, hcs, -⟩ := Numeral.exists_digits_cons n
    rw [hcs] at hfirst ⊢
    simp only [Bool.false_eq_true, if_false]
    split
    case h_1 heq =>
      rw [(List.cons.inj heq).1] at hfirst
      exact absurd rfl hfirst
    case h_2 => rfl

/-- **A whole number is read back from its digits.** -/
theorem natural?_digits {limit n : Nat} (h : n ≤ limit) :
    natural? limit (Numeral.digits n) = some n := by
  have hmark : ∀ base ∈ bases, base.1.isPrefixOf? (Numeral.digits n) = none :=
    isPrefixOf?_mark_eq_none fun _ => Numeral.isDigit_of_mem_digits
  have hsigned : hasSignAfterMark (Numeral.digits n) = false := by
    rw [hasSignAfterMark, List.any_eq_false]
    rintro ⟨mark, base⟩ hbase
    simp [show mark.isPrefixOf? (Numeral.digits n) = none from hmark _ hbase]
  have hmarked : marked? limit (Numeral.digits n) = none := by
    rw [marked?, List.findSome?_eq_none_iff]
    rintro ⟨mark, base⟩ hbase
    simp [show mark.isPrefixOf? (Numeral.digits n) = none from hmark _ hbase]
  simp only [natural?, dropPlus_digits, hsigned, hmarked, hasSign_digits, hasLeadingZero_digits,
    digitsIn?_ten h, Bool.false_eq_true, if_false, Bool.or_self]

end BenchCompare.Yaml
