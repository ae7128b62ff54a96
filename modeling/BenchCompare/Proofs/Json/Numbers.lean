import BenchCompare.Json.Lexeme
import BenchCompare.Json.Printer
import BenchCompare.Proofs.Numeral.Digits

/-!
# Numbers in JSON are read back

The reader of numbers takes as many characters as it can.  What it reads at the front of a text does
not change when more text follows, as long as that text cannot go on with the number
(`number?_append`).  So a number is read back wherever it stands if it is read back alone.

A count is always read back from its digits (`number?_digits_append`).  A binary64 number need not
be, for the reader rounds more than once; `ReadsBack` says of a number that it is.
-/

namespace BenchCompare.Json

/-- A text with which a number in front of it cannot go on. -/
def EndsNumber (cs : List Char) : Prop :=
  ∀ c ∈ cs.head?, c.isDigit = false ∧ c ≠ '.' ∧ c ≠ 'e' ∧ c ≠ 'E'

theorem endsNumber_nil : EndsNumber [] := nofun

/-- A text that ends a number begins with no digit. -/
theorem EndsNumber.endsDigits {cs : List Char} (h : EndsNumber cs) : Numeral.EndsDigits cs :=
  fun c hc => (h c hc).1

/-- A character ends a number if it is part of none. -/
theorem endsNumber_cons {c : Char} (h : c.isDigit = false ∧ c ≠ '.' ∧ c ≠ 'e' ∧ c ≠ 'E')
    (cs : List Char) : EndsNumber (c :: cs) := by
  intro d hd
  cases hd
  exact h

/-! ### More text after a number -/

/-- Digits are read in the same way if no digit follows. -/
theorem digits?_append {cs digits rest : List Char} (h : digits? cs = some (digits, rest))
    {more : List Char} (hmore : EndsNumber more) :
    digits? (cs ++ more) = some (digits, rest ++ more) := by
  rw [digits?] at h ⊢
  rw [Numeral.takeWhile_isDigit_append cs hmore.endsDigits,
    Numeral.dropWhile_isDigit_append cs hmore.endsDigits]
  cases hempty : (cs.takeWhile Char.isDigit).isEmpty with
  | true => simp [hempty] at h
  | false =>
    simp only [hempty, Bool.false_eq_true, if_false, Option.some.injEq, Prod.mk.injEq] at h ⊢
    exact ⟨h.1, by rw [h.2]⟩

/-- Reading digits and doing something with them is not changed by what follows. -/
theorem map_digits?_append {α : Type} (f : List Char → α) {cs rest : List Char} {a : α}
    (h : ((digits? cs).map fun (digits, rest) => (f digits, rest)) = some (a, rest))
    {more : List Char} (hmore : EndsNumber more) :
    ((digits? (cs ++ more)).map fun (digits, rest) => (f digits, rest)) =
      some (a, rest ++ more) := by
  obtain ⟨⟨digits, rest'⟩, hdigits, heq⟩ := Option.map_eq_some_iff.mp h
  cases heq
  rw [digits?_append hdigits hmore]
  rfl

/-- The digits in front of the point are read in the same way if nothing follows that goes on. -/
theorem wholeDigits?_append {cs digits rest : List Char}
    (h : wholeDigits? cs = some (digits, rest)) {more : List Char} (hmore : EndsNumber more) :
    wholeDigits? (cs ++ more) = some (digits, rest ++ more) := by
  obtain ⟨hdigits, hzero⟩ := Option.filter_eq_some_iff.mp h
  exact Option.filter_eq_some_iff.mpr ⟨digits?_append hdigits hmore, hzero⟩

/-- A fraction is read in the same way if nothing follows that goes on. -/
theorem fraction?_append {cs rest : List Char} {fraction : Option (List Char)}
    (h : fraction? cs = some (fraction, rest)) {more : List Char} (hmore : EndsNumber more) :
    fraction? (cs ++ more) = some (fraction, rest ++ more) := by
  cases cs with
  | nil =>
    cases h
    cases more with
    | nil => rfl
    | cons c more =>
      rw [List.nil_append, fraction?]
      exact fun _ e => (hmore c rfl).2.1 (List.cons.inj e).1
  | cons c cs =>
    by_cases hc : c = '.'
    · subst hc
      exact map_digits?_append some h hmore
    · have hnone : ∀ cs, fraction? (c :: cs) = some (none, c :: cs) := by
        intro cs
        rw [fraction?]
        exact fun _ e => hc (List.cons.inj e).1
      rw [hnone] at h
      cases h
      exact hnone (cs ++ more)

/-- The digits of an exponent are read in the same way if nothing follows that goes on. -/
theorem exponentDigits?_append {cs rest : List Char} {exponent : Bool × List Char}
    (h : exponentDigits? cs = some (exponent, rest)) {more : List Char} (hmore : EndsNumber more) :
    exponentDigits? (cs ++ more) = some (exponent, rest ++ more) := by
  cases cs with
  | nil => cases h
  | cons c cs =>
    by_cases hminus : c = '-'
    · subst hminus
      exact map_digits?_append (fun digits => (true, digits)) h hmore
    · by_cases hplus : c = '+'
      · subst hplus
        exact map_digits?_append (fun digits => (false, digits)) h hmore
      · have hsign : ∀ cs, exponentDigits? (c :: cs) =
            (digits? (c :: cs)).map fun (digits, rest) => ((false, digits), rest) := by
          intro cs
          rw [exponentDigits?]
          · exact fun _ e => hminus (List.cons.inj e).1
          · exact fun _ e => hplus (List.cons.inj e).1
        rw [hsign] at h
        rw [List.cons_append, hsign]
        exact map_digits?_append (fun digits => (false, digits)) h hmore

/-- An exponent is read in the same way if nothing follows that goes on. -/
theorem exponent?_append {cs rest : List Char} {exponent : Option (Bool × List Char)}
    (h : exponent? cs = some (exponent, rest)) {more : List Char} (hmore : EndsNumber more) :
    exponent? (cs ++ more) = some (exponent, rest ++ more) := by
  cases cs with
  | nil =>
    cases h
    cases more with
    | nil => rfl
    | cons c more => simp [exponent?, (hmore c rfl).2.2]
  | cons c cs =>
    rw [exponent?] at h
    rw [List.cons_append, exponent?]
    split at h
    · next hc =>
      obtain ⟨⟨digits, rest'⟩, hdigits, heq⟩ := Option.map_eq_some_iff.mp h
      cases heq
      rw [if_pos hc, exponentDigits?_append hdigits hmore]
      rfl
    · next hc =>
      cases h
      rw [if_neg hc]
      rfl

/-- A number without its sign is read in the same way if nothing follows that goes on. -/
theorem unsignedNumber?_append {negative : Bool} {cs rest : List Char} {n : WrittenNumber}
    (h : unsignedNumber? negative cs = some (n, rest)) {more : List Char}
    (hmore : EndsNumber more) :
    unsignedNumber? negative (cs ++ more) = some (n, rest ++ more) := by
  simp only [unsignedNumber?, Option.bind_eq_bind, Option.bind_eq_some_iff, Option.pure_def] at h ⊢
  obtain ⟨⟨front, rest₁⟩, hfront, ⟨fraction, rest₂⟩, hfraction, ⟨exponent, rest₃⟩, hexponent,
    heq⟩ := h
  refine ⟨_, wholeDigits?_append hfront hmore, _, fraction?_append hfraction hmore, _,
    exponent?_append hexponent hmore, ?_⟩
  cases heq
  rfl

/-- A number is read in the same way if nothing follows that goes on. -/
theorem writtenNumber?_append {cs rest : List Char} {n : WrittenNumber}
    (h : writtenNumber? cs = some (n, rest)) {more : List Char} (hmore : EndsNumber more) :
    writtenNumber? (cs ++ more) = some (n, rest ++ more) := by
  cases cs with
  | nil => cases h
  | cons c cs =>
    by_cases hminus : c = '-'
    · subst hminus
      exact unsignedNumber?_append h hmore
    · have hsign : ∀ cs, writtenNumber? (c :: cs) = unsignedNumber? false (c :: cs) := by
        intro cs
        rw [writtenNumber?]
        exact fun _ e => hminus (List.cons.inj e).1
      rw [hsign] at h
      rw [List.cons_append, hsign]
      exact unsignedNumber?_append h hmore

/-- The value of a number does not depend on what follows, if nothing follows that goes on. -/
theorem number?_append {cs rest : List Char} {value : Json}
    (h : number? cs = some (value, rest)) {more : List Char} (hmore : EndsNumber more) :
    number? (cs ++ more) = some (value, rest ++ more) := by
  rw [number?] at h ⊢
  cases hwritten : writtenNumber? cs with
  | none => simp [hwritten] at h
  | some written =>
    obtain ⟨n, rest'⟩ := written
    rw [hwritten] at h
    rw [writtenNumber?_append hwritten hmore]
    obtain ⟨value', hvalue, heq⟩ := Option.map_eq_some_iff.mp h
    cases heq
    simp only [hvalue, Option.map_some]

/-- A number begins with a minus sign or a digit. -/
theorem exists_cons_of_number? {cs rest : List Char} {value : Json}
    (h : number? cs = some (value, rest)) :
    ∃ c ds, cs = c :: ds ∧ (c = '-' ∨ c.isDigit = true) := by
  cases cs with
  | nil => cases h
  | cons c cs =>
    refine ⟨c, cs, rfl, ?_⟩
    by_contra hc
    rw [not_or, Bool.not_eq_true] at hc
    have hdigits : digits? (c :: cs) = none := by simp [digits?, hc.2]
    have hwritten : writtenNumber? (c :: cs) = none := by
      rw [writtenNumber?]
      · simp [unsignedNumber?, wholeDigits?, hdigits]
      · exact fun _ e => hc.1 (List.cons.inj e).1
    rw [number?, hwritten] at h
    cases h

/-! ### Counts -/

/-- The digits of a number that is not zero begin with no zero. -/
theorem head?_digits_ne_zero {n : Nat} (h : 0 < n) : (Numeral.digits n).head? ≠ some '0' := by
  induction n using Nat.strongRecOn with
  | _ n ih =>
    cases Nat.lt_or_ge n 10 with
    | inl hlt =>
      have htable : ∀ n, n < 10 → 0 < n → (Numeral.digits n).head? ≠ some '0' := by decide
      exact htable n hlt h
    | inr hle =>
      have hfront : 0 < n / 10 := Nat.div_pos hle (by decide)
      rw [Numeral.digits, Nat.toDigits_of_base_le (by decide) hle,
        List.head?_append_of_ne_nil _ Nat.toDigits_ne_nil]
      exact ih (n / 10) (Nat.div_lt_self h (by decide)) hfront

/-- The digits of a number are digits in front of a point. -/
theorem wholeDigits?_digits (n : Nat) :
    wholeDigits? (Numeral.digits n) = some (Numeral.digits n, []) := by
  have hall : ∀ c ∈ Numeral.digits n, c.isDigit = true := fun c => Numeral.isDigit_of_mem_digits
  have hdigits : digits? (Numeral.digits n) = some (Numeral.digits n, []) := by
    rw [digits?, List.takeWhile_eq_self_iff.mpr hall, List.dropWhile_eq_nil_iff.mpr hall]
    simp [Numeral.digits_ne_nil]
  rw [wholeDigits?, Option.filter_eq_some_iff]
  refine ⟨hdigits, ?_⟩
  cases Nat.eq_zero_or_pos n with
  | inl hzero =>
    subst hzero
    decide
  | inr hpos => simp [head?_digits_ne_zero hpos]

/-- Digits that fit in 64 bits are all part of the significand. -/
theorem significand_eq {cs : List Char} {acc : Nat}
    (h : Nat.ofDigitChars 10 cs acc < UInt64.size) :
    significand acc cs = ⟨Nat.ofDigitChars 10 cs acc, 0⟩ := by
  induction cs generalizing acc with
  | nil => rfl
  | cons c cs ih =>
    rw [Nat.ofDigitChars_cons, Nat.mul_comm] at h
    have hnext : acc * 10 + (c.toNat - '0'.toNat) < UInt64.size :=
      (Numeral.le_ofDigitChars cs _).trans_lt h
    rw [Nat.ofDigitChars_cons, Nat.mul_comm, significand, if_pos hnext, ih h]

/-- A count is read back from its digits. -/
theorem number?_digits_append {n : Nat} (h : n < UInt64.size) {more : List Char}
    (hmore : EndsNumber more) :
    number? (Numeral.digits n ++ more) = some (.whole n, more) := by
  have hvalue : Nat.ofDigitChars 10 (Numeral.digits n) 0 = n := Nat.ofDigitChars_ten_toDigits
  have hsignificand : significand 0 (Numeral.digits n) = ⟨n, 0⟩ := by
    rw [significand_eq (by rwa [hvalue]), hvalue]
  have hunsigned : unsignedNumber? false (Numeral.digits n) =
      some (⟨false, Numeral.digits n, none, none⟩, []) := by
    simp [unsignedNumber?, wholeDigits?_digits, fraction?, exponent?]
  have hwritten : writtenNumber? (Numeral.digits n) =
      some (⟨false, Numeral.digits n, none, none⟩, []) := by
    obtain ⟨c, cs, hcs, hc⟩ := Numeral.exists_digits_cons n
    rw [← hunsigned, hcs, writtenNumber?]
    rintro _ ⟨⟩
    cases hc
  have hnumber : number? (Numeral.digits n) = some (.whole n, []) := by
    rw [number?, hwritten]
    simp [WrittenNumber.value?, hsignificand, wholeNumber?]
  simpa using number?_append hnumber hmore

/-! ### Numbers that are read back -/

/-- A number is read back from its own text. -/
def ReadsBack (x : Binary64) : Prop :=
  number? (writtenNumber x) = some (.number x, [])

/-- Whether a number is read back from its own text. -/
def readsBack (x : Binary64) : Bool :=
  match number? (writtenNumber x) with
  | some (.number y, []) => x = y
  | _ => false

theorem readsBack_iff {x : Binary64} : readsBack x = true ↔ ReadsBack x := by
  rw [readsBack, ReadsBack]
  split
  · next y h =>
    rw [h, decide_eq_true_eq]
    constructor
    · rintro rfl
      rfl
    · intro heq
      cases heq
      rfl
  · next hne =>
    refine ⟨nofun, fun heq => ?_⟩
    exact absurd heq (hne x)

instance (x : Binary64) : Decidable (ReadsBack x) :=
  decidable_of_iff _ readsBack_iff

/-- A number that is read back alone is read back wherever it stands. -/
theorem ReadsBack.number?_append {x : Binary64} (h : ReadsBack x) {more : List Char}
    (hmore : EndsNumber more) : number? (writtenNumber x ++ more) = some (.number x, more) := by
  simpa using Json.number?_append h hmore

end BenchCompare.Json
