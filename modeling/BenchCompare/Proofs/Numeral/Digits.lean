import BenchCompare.Numeral
import BenchCompare.Proofs.Text.Cutting

/-!
# Digits of whole numbers

The decimal digits of a number are read back.  As long as the number is within the wanted bounds,
the reader that checks them digit by digit returns it (`Numeral.natural_digits`), since no part of
the digits has a greater value than all of them.

The digits are also a word, and a word of digits only: a mark in a text, such as a comma or a
letter, is never one of them.
-/

namespace BenchCompare

namespace Numeral

/-! ### The characters -/

/-- The digits of a number are digits. -/
theorem isDigit_of_mem_digits {n : Nat} {c : Char} (h : c ∈ digits n) : c.isDigit = true :=
  Nat.isDigit_of_mem_toDigits (by decide) (by decide) h

/-- A character that is no digit is not among the digits of a number. -/
theorem not_mem_digits {n : Nat} {c : Char} (hc : c.isDigit = false) : c ∉ digits n := by
  intro h
  rw [isDigit_of_mem_digits h] at hc
  cases hc

/-- A number has a digit. -/
theorem digits_ne_nil (n : Nat) : digits n ≠ [] :=
  Nat.toDigits_ne_nil

/-- The digits of a number begin with a digit. -/
theorem exists_digits_cons (n : Nat) : ∃ c cs, digits n = c :: cs ∧ c.isDigit = true := by
  obtain ⟨c, cs, h⟩ := List.exists_cons_of_ne_nil (digits_ne_nil n)
  exact ⟨c, cs, h, isDigit_of_mem_digits (h ▸ List.mem_cons_self)⟩

/-- A digit is a character between the digit zero and the digit nine. -/
theorem isDigit_iff {c : Char} : c.isDigit = true ↔ 48 ≤ c.toNat ∧ c.toNat ≤ 57 := by
  rw [Char.isDigit, Bool.and_eq_true, decide_eq_true_eq, decide_eq_true_eq]
  exact and_congr UInt32.le_iff_toNat_le UInt32.le_iff_toNat_le

/-- A digit is no blank. -/
theorem isBlank_of_isDigit {c : Char} (h : c.isDigit = true) : Text.isBlank c = false := by
  have := isDigit_iff.mp h
  simp [Text.isBlank]
  omega

/-- The digits of a number are a word. -/
theorem isWord_digits (n : Nat) : Text.IsWord (digits n) where
  ne_nil := digits_ne_nil n
  blankFree _ h := isBlank_of_isDigit (isDigit_of_mem_digits h)

/-! ### Digits at the front of a text -/

/-- A text that begins with no digit. -/
def EndsDigits (cs : List Char) : Prop :=
  ∀ c ∈ cs.head?, c.isDigit = false

/-- A character that is no digit ends digits. -/
theorem endsDigits_cons {c : Char} (h : c.isDigit = false) (cs : List Char) :
    EndsDigits (c :: cs) := by
  rintro d ⟨⟩
  exact h

/-- A text that begins with no digit adds none to the digits at the front. -/
theorem takeWhile_isDigit_append (cs : List Char) {more : List Char} (h : EndsDigits more) :
    (cs ++ more).takeWhile Char.isDigit = cs.takeWhile Char.isDigit := by
  induction cs with
  | nil =>
    cases more with
    | nil => rfl
    | cons c more => simp [h c rfl]
  | cons c cs ih => rw [List.cons_append, List.takeWhile_cons, List.takeWhile_cons, ih]

/-- A text that begins with no digit stays as it is behind the digits at the front. -/
theorem dropWhile_isDigit_append (cs : List Char) {more : List Char} (h : EndsDigits more) :
    (cs ++ more).dropWhile Char.isDigit = cs.dropWhile Char.isDigit ++ more := by
  induction cs with
  | nil =>
    cases more with
    | nil => rfl
    | cons c more => simp [h c rfl]
  | cons c cs ih =>
    rw [List.cons_append, List.dropWhile_cons, List.dropWhile_cons, ih]
    split <;> rfl

/-! ### The value -/

/-- Digits read after a value lead to no smaller value. -/
theorem le_ofDigitChars (cs : List Char) (acc : Nat) : acc ≤ Nat.ofDigitChars 10 cs acc := by
  rw [Nat.ofDigitChars_eq_ofDigitChars_zero]
  calc acc ≤ 10 ^ cs.length * acc := Nat.le_mul_of_pos_left acc (Nat.pow_pos (by decide))
    _ ≤ 10 ^ cs.length * acc + Nat.ofDigitChars 10 cs 0 := Nat.le_add_right _ _

/-- Digits are read as long as their value is within the bounds. -/
theorem digitsWithin_eq {limit : Nat} {cs : List Char} (hcs : ∀ c ∈ cs, c.isDigit = true)
    {acc : Nat} (h : Nat.ofDigitChars 10 cs acc ≤ limit) :
    digitsWithin limit acc cs = .ok (Nat.ofDigitChars 10 cs acc) := by
  induction cs generalizing acc with
  | nil => simp [digitsWithin]
  | cons c cs ih =>
    have hc : digit? c = some (c.toNat - '0'.toNat) := by
      rw [digit?, if_pos (hcs c List.mem_cons_self)]
    rw [Nat.ofDigitChars_cons, Nat.mul_comm] at h
    rw [Nat.ofDigitChars_cons, Nat.mul_comm, digitsWithin, hc]
    have hle : acc * 10 + (c.toNat - '0'.toNat) ≤ limit := (le_ofDigitChars cs _).trans h
    simp only [if_pos hle]
    exact ih (fun d hd => hcs d (List.mem_cons_of_mem c hd)) h

/-- A number within the bounds is read back from its digits. -/
theorem natural_digits {limit n : Nat} (h : n ≤ limit) : natural limit (digits n) = .ok n := by
  have hvalue : Nat.ofDigitChars 10 (digits n) 0 = n := Nat.ofDigitChars_ten_toDigits
  have hread : digitsWithin limit 0 (digits n) = .ok n := by
    rw [digitsWithin_eq (fun _ => isDigit_of_mem_digits) (by rwa [hvalue]), hvalue]
  obtain ⟨c, cs, hcs, hc⟩ := exists_digits_cons n
  have hplus : c ≠ '+' := by
    rintro rfl
    cases hc
  rw [hcs] at hread ⊢
  rw [natural, hread]
  · nofun
  · exact fun e => hplus (List.cons.inj e).1
  · exact fun _ _ e => hplus (List.cons.inj e).1

/-- A number of 32 bits is read back from its digits. -/
theorem word32_digits (n : UInt32) : word32 (digits n.toNat) = .ok n := by
  have hle : n.toNat ≤ UInt32.size - 1 := Nat.le_pred_of_lt n.toNat_lt_size
  rw [word32, natural_digits hle]
  simp [Except.map]

/-- A number of 64 bits is read back from its digits. -/
theorem word64_digits (n : UInt64) : word64 (digits n.toNat) = .ok n := by
  have hle : n.toNat ≤ UInt64.size - 1 := Nat.le_pred_of_lt n.toNat_lt_size
  rw [word64, natural_digits hle]
  simp [Except.map]

end Numeral

end BenchCompare
