import BenchCompare.Proofs.Binary64.Decimal
import BenchCompare.Report.Token

/-!
# The grammar of quantities

A quantity is written as a decimal with a unit right after it, blanks around both aside (`IsAmount`).
The units of a kind are listed in a table, each with the number of base units in it.

Since no unit begins with a digit or a point, a token can be taken apart in one way only
(`IsAmount.unique`), and it is taken apart where its digits and points end
(`amount?_of_isAmount`).  So the tokens that are accepted as a quantity are exactly those of the
grammar (`quantity?_eq_some_iff`), for each of the three tables (`isGrammarOf_units`).
-/

namespace BenchCompare.Report

/-! ### Units -/

/-- The units of time, with the nanoseconds in them. -/
def timeUnits : List (String × Nat) :=
  [("ns", 1), ("us", 1000), ("µs", 1000), ("μs", 1000), ("ms", 1000000), ("s", 1000000000),
    ("m", 60000000000), ("h", 3600000000000)]

/-- The units of size, with the bytes in them. -/
def sizeUnits : List (String × Nat) :=
  [("", 1), ("B", 1), ("K", 1024), ("KB", 1024), ("M", 1048576), ("MB", 1048576), ("G", 1073741824),
    ("GB", 1073741824), ("T", 1099511627776), ("TB", 1099511627776)]

/-- The units of counting, with the factors that they stand for. -/
def countUnits : List (String × Nat) :=
  [("", 1), ("k", 1000), ("M", 1000000), ("G", 1000000000)]

/-- The characters that occur in no unit: blanks, signs and points, and the letters of an exponent and
of the number words. -/
def isForeignChar (c : Char) : Bool :=
  Text.isBlank c || "+-.eEifa".toList.contains c

/-- A digit is not foreign. -/
theorem isForeignChar_of_isDigit {c : Char} (h : c.isDigit = true) : isForeignChar c = false := by
  have hmarks : "+-.eEifa".toList.all (fun d => !d.isDigit) = true := by decide
  unfold isForeignChar
  rw [Numeral.isBlank_of_isDigit h, Bool.false_or, ← Bool.not_eq_true, List.contains_iff_mem]
  intro hmem
  have hc := List.all_eq_true.mp hmarks c hmem
  rw [h] at hc
  cases hc

/-- A table that lists every unit once, none of them with a foreign character or with a digit in
front. -/
structure IsUnitTable (units : List (String × Nat)) : Prop where
  nodup : (units.map Prod.fst).Nodup
  isNumberChar : ∀ entry ∈ units, ∀ c ∈ entry.1.toList.head?, isNumberChar c = false
  isForeignChar : ∀ entry ∈ units, ∀ c ∈ entry.1.toList, isForeignChar c = false

/-- A table of units, as a check of its entries. -/
theorem isUnitTable_of_all {units : List (String × Nat)} (hnodup : (units.map Prod.fst).Nodup)
    (hhead : units.all (fun entry => entry.1.toList.head?.all fun c => !isNumberChar c) = true)
    (hchars : units.all (fun entry => entry.1.toList.all fun c => !isForeignChar c) = true) :
    IsUnitTable units where
  nodup := hnodup
  isNumberChar := by
    intro entry hentry c hc
    have hentryHead := List.all_eq_true.mp hhead entry hentry
    rw [Option.mem_def.mp hc] at hentryHead
    exact (Bool.not_eq_true' _).mp hentryHead
  isForeignChar := by
    intro entry hentry c hc
    have hentryChars := List.all_eq_true.mp hchars entry hentry
    exact (Bool.not_eq_true' _).mp (List.all_eq_true.mp hentryChars c hc)

theorem isUnitTable_timeUnits : IsUnitTable timeUnits :=
  isUnitTable_of_all (by decide) (by decide) (by decide)

theorem isUnitTable_sizeUnits : IsUnitTable sizeUnits :=
  isUnitTable_of_all (by decide) (by decide) (by decide)

theorem isUnitTable_countUnits : IsUnitTable countUnits :=
  isUnitTable_of_all (by decide) (by decide) (by decide)

/-- A unit is looked up exactly if it is in the table. -/
theorem IsUnitTable.lookup_eq_some_iff {units : List (String × Nat)} (h : IsUnitTable units)
    {unit : String} {scale : Nat} : units.lookup unit = some scale ↔ (unit, scale) ∈ units := by
  rw [List.lookup_eq_some_iff]
  constructor
  · rintro ⟨before, after, rfl, -⟩
    exact List.mem_append_right _ List.mem_cons_self
  · intro hmem
    obtain ⟨before, after, hunits⟩ := List.append_of_mem hmem
    refine ⟨before, after, hunits, ?_⟩
    intro entry hentry
    have hnodup := h.nodup
    rw [hunits, List.map_append, List.map_cons] at hnodup
    have hdisjoint := (List.nodup_append.mp hnodup).2.2
    apply bne_iff_ne.mpr
    exact (hdisjoint _ (List.mem_map_of_mem hentry) _ List.mem_cons_self).symm

/-! ### Tokens -/

/-- A token of a decimal and a unit right after it, with blanks around them. -/
structure IsAmount (units : List (String × Nat)) (token number : List Char) (unit : String)
    (scale : Nat) : Prop where
  token_eq : Text.trim token = number ++ unit.toList
  isDecimal : IsDecimal number
  mem : (unit, scale) ∈ units

/-- The characters of a number are digits and points. -/
theorem isNumberChar_iff {c : Char} : isNumberChar c = true ↔ c.isDigit = true ∨ c = '.' := by
  unfold isNumberChar
  rw [Bool.or_eq_true, beq_iff_eq]

/-- The number nearest to a decimal. -/
def nearestTo (number : List Char) : Binary64 :=
  .ofRatio (significand number) (Nat.pow 10 (places number))

/-- The front of a token that is read is a decimal, and what follows it is left over. -/
theorem amount?_eq_some_iff {token unit : List Char} {x : Binary64} :
    amount? token = some (x, unit) ↔
      IsDecimal ((Text.trim token).takeWhile isNumberChar)
        ∧ x = nearestTo ((Text.trim token).takeWhile isNumberChar)
        ∧ unit = (Text.trim token).dropWhile isNumberChar := by
  have hchars : IsDigitsAndPoints ((Text.trim token).takeWhile isNumberChar) := by
    intro c hc
    exact isNumberChar_iff.mp (List.mem_takeWhile_imp hc)
  simp only [amount?]
  generalize (Text.trim token).takeWhile isNumberChar = number at hchars
  constructor
  · intro h
    split at h
    · cases h
    · obtain ⟨y, hy, hpair⟩ := Option.map_eq_some_iff.mp h
      obtain ⟨rfl, rfl⟩ := Prod.mk.inj hpair
      have hdecimal := Binary64.isDecimal_of_parse? hchars hy
      rw [Binary64.parse?_of_isDecimal hdecimal] at hy
      exact ⟨hdecimal, (Option.some.inj hy).symm, rfl⟩
  · rintro ⟨hdecimal, rfl, rfl⟩
    obtain ⟨c, hc, -⟩ := hdecimal.exists_digit
    have hne : number.isEmpty = false := by
      rw [List.isEmpty_eq_false_iff]
      exact List.ne_nil_of_mem hc
    rw [hne, Binary64.parse?_of_isDecimal hdecimal]
    rfl

section Table

variable {units : List (String × Nat)} {token number : List Char} {unit : String} {scale : Nat}

/-- The unit of a token begins where the digits and points end. -/
theorem IsAmount.takeWhile_dropWhile (h : IsAmount units token number unit scale)
    (htable : IsUnitTable units) :
    (Text.trim token).takeWhile isNumberChar = number
      ∧ (Text.trim token).dropWhile isNumberChar = unit.toList := by
  have hnumber : ∀ c ∈ number, isNumberChar c = true := by
    intro c hc
    exact isNumberChar_iff.mpr (h.isDecimal.digits_and_points c hc)
  have hunit := htable.isNumberChar _ h.mem
  rw [h.token_eq, List.takeWhile_append_of_pos hnumber, List.dropWhile_append_of_pos hnumber]
  rcases hchars : unit.toList with _ | ⟨c, cs⟩
  · simp
  · have hc : isNumberChar c = false := hunit c (by rw [hchars]; rfl)
    simp [hc]

/-- A token is taken apart in one way only. -/
theorem IsAmount.unique {other : List Char} {otherUnit : String} {otherScale : Nat}
    (h : IsAmount units token number unit scale)
    (hother : IsAmount units token other otherUnit otherScale) (htable : IsUnitTable units) :
    number = other ∧ unit = otherUnit ∧ scale = otherScale := by
  obtain ⟨hnumber, hunit⟩ := h.takeWhile_dropWhile htable
  obtain ⟨hotherNumber, hotherUnit⟩ := hother.takeWhile_dropWhile htable
  have hunits : unit = otherUnit := String.toList_inj.mp (hunit.symm.trans hotherUnit)
  have hlookup := htable.lookup_eq_some_iff.mpr h.mem
  rw [hunits, htable.lookup_eq_some_iff.mpr hother.mem] at hlookup
  exact ⟨hnumber.symm.trans hotherNumber, hunits, (Option.some.inj hlookup).symm⟩

/-- A token of the grammar has no foreign character but one point. -/
theorem IsAmount.eq_point_of_isForeignChar (h : IsAmount units token number unit scale)
    (htable : IsUnitTable units) :
    (∀ c ∈ Text.trim token, isForeignChar c = true → c = '.')
      ∧ (Text.trim token).count '.' ≤ 1 := by
  have hunit := htable.isForeignChar _ h.mem
  rw [h.token_eq]
  constructor
  · intro c hc hforeign
    rcases List.mem_append.mp hc with hc | hc
    · rcases h.isDecimal.digits_and_points c hc with hdigit | hpoint
      · rw [isForeignChar_of_isDigit hdigit] at hforeign
        cases hforeign
      · exact hpoint
    · rw [hunit c hc] at hforeign
      cases hforeign
  · have hnone : '.' ∉ unit.toList := by
      intro hmem
      exact absurd (hunit '.' hmem) (by decide)
    rw [List.count_append, List.count_eq_zero.mpr hnone]
    exact h.isDecimal.count_point

/-- **The accepted quantities** are those of the grammar, with the product of the two numbers. -/
theorem quantity?_eq_some_iff (htable : IsUnitTable units) {x : Binary64} :
    quantity? (fun unit => units.lookup (String.ofList unit)) token = some x ↔
      ∃ number unit scale, IsAmount units token number unit scale
        ∧ x = (nearestTo number).mul (.ofNat scale) := by
  unfold quantity?
  constructor
  · intro h
    rcases hamount : amount? token with _ | ⟨y, rest⟩
    · rw [hamount] at h
      cases h
    · rw [hamount] at h
      obtain ⟨scale, hscale, rfl⟩ := Option.map_eq_some_iff.mp h
      obtain ⟨hdecimal, rfl, rfl⟩ := amount?_eq_some_iff.mp hamount
      refine ⟨_, _, scale, ⟨?_, hdecimal, htable.lookup_eq_some_iff.mp hscale⟩, rfl⟩
      rw [String.toList_ofList, List.takeWhile_append_dropWhile]
  · rintro ⟨number, unit, scale, hamount, rfl⟩
    obtain ⟨hnumber, hunit⟩ := hamount.takeWhile_dropWhile htable
    have hread : amount? token = some (nearestTo number, unit.toList) := by
      apply amount?_eq_some_iff.mpr
      rw [hnumber, hunit]
      exact ⟨hamount.isDecimal, rfl, rfl⟩
    rw [hread]
    simp only [String.ofList_toList, htable.lookup_eq_some_iff.mpr hamount.mem, Option.map_some]

end Table

/-! ### The three kinds -/

theorem timeUnit?_eq : timeUnit? = fun unit => timeUnits.lookup (String.ofList unit) :=
  rfl

theorem sizeUnit?_eq : sizeUnit? = fun unit => sizeUnits.lookup (String.ofList unit) :=
  rfl

theorem countUnit?_eq : countUnit? = fun unit => countUnits.lookup (String.ofList unit) :=
  rfl

/-- A count is accepted exactly if it is in the grammar, as the product. -/
theorem count?_eq_some_iff {token : List Char} {x : Binary64} :
    count? token = some x ↔
      ∃ number unit scale, IsAmount countUnits token number unit scale
        ∧ x = (nearestTo number).mul (.ofNat scale) := by
  unfold count?
  rw [countUnit?_eq]
  exact quantity?_eq_some_iff isUnitTable_countUnits

/-- The accepted tokens are those with a decimal and one of the units right after it.  There is one
such decimal and one such unit, and there is no foreign character but one point. -/
structure IsGrammarOf (units : List (String × Nat)) (accepts : List Char → Bool) : Prop where
  accepts_iff : ∀ token, accepts token = true ↔
    ∃ number unit scale, IsAmount units token number unit scale
  unique : ∀ token number other unit otherUnit scale otherScale,
    IsAmount units token number unit scale → IsAmount units token other otherUnit otherScale →
      number = other ∧ unit = otherUnit ∧ scale = otherScale
  eq_point : ∀ token, accepts token = true →
    (∀ c ∈ Text.trim token, isForeignChar c = true → c = '.') ∧ (Text.trim token).count '.' ≤ 1

/-- The grammar of the quantities with the units of a table. -/
theorem IsUnitTable.isGrammarOf_quantity? {units : List (String × Nat)} (h : IsUnitTable units) :
    IsGrammarOf units fun token =>
      (quantity? (fun unit => units.lookup (String.ofList unit)) token).isSome := by
  have haccepts : ∀ token,
      (quantity? (fun unit => units.lookup (String.ofList unit)) token).isSome = true ↔
        ∃ number unit scale, IsAmount units token number unit scale := by
    intro token
    rw [Option.isSome_iff_exists]
    constructor
    · rintro ⟨x, hx⟩
      obtain ⟨number, unit, scale, hamount, -⟩ := (quantity?_eq_some_iff h).mp hx
      exact ⟨number, unit, scale, hamount⟩
    · rintro ⟨number, unit, scale, hamount⟩
      exact ⟨_, (quantity?_eq_some_iff h).mpr ⟨number, unit, scale, hamount, rfl⟩⟩
  refine ⟨haccepts, ?_, ?_⟩
  · intro token number other unit otherUnit scale otherScale hamount hother
    exact hamount.unique hother h
  · intro token htoken
    obtain ⟨number, unit, scale, hamount⟩ := (haccepts token).mp htoken
    exact hamount.eq_point_of_isForeignChar h

/-- **The grammar of quantities.**  Times, sizes and counts are accepted exactly if they are a decimal
with one of their units right after it. -/
theorem isGrammarOf_units :
    IsGrammarOf timeUnits (fun token => (duration? token).isSome)
      ∧ IsGrammarOf sizeUnits (fun token => (size? token).isSome)
      ∧ IsGrammarOf countUnits (fun token => (count? token).isSome) := by
  unfold duration? size? count?
  simp only [Option.isSome_map, timeUnit?_eq, sizeUnit?_eq, countUnit?_eq]
  exact ⟨isUnitTable_timeUnits.isGrammarOf_quantity?, isUnitTable_sizeUnits.isGrammarOf_quantity?,
    isUnitTable_countUnits.isGrammarOf_quantity?⟩

/-- Half a millisecond, with no digit in front of the point, is accepted and taken apart in one way; a
number with two points is not accepted. -/
theorem isGrammarOf_units_halfMillisecond :
    (duration? "\t.5ms ".toList).isSome = true
      ∧ (∀ number unit scale, IsAmount timeUnits "\t.5ms ".toList number unit scale →
        ".5".toList = number ∧ "ms" = unit ∧ 1000000 = scale)
      ∧ (duration? "1.2.3s".toList).isSome = false := by
  obtain ⟨hgrammar, -, -⟩ := isGrammarOf_units
  have hamount : IsAmount timeUnits "\t.5ms ".toList ".5".toList "ms" 1000000 :=
    ⟨by decide, by decide, by decide⟩
  refine ⟨(hgrammar.accepts_iff _).mpr ⟨_, _, _, hamount⟩, ?_, ?_⟩
  · intro number unit scale hother
    exact hgrammar.unique _ _ _ _ _ _ _ hamount hother
  · apply Bool.eq_false_iff.mpr
    intro haccepted
    exact absurd (hgrammar.eq_point _ haccepted).2 (by decide)

end BenchCompare.Report
