import BenchCompare.Proofs.Numeral.Digits
import BenchCompare.Yaml.Printer

/-!
# Characters of written YAML

A written text is made of printable characters only: those that can be seen, and line breaks.  All
of them may occur in a text, and none changes when line breaks are unified (`unifyBreaks_eq_self`).
-/

namespace BenchCompare.Yaml

/-! ### Classes of characters -/

/-- A line break is a line feed, a line separator or a paragraph separator. -/
theorem isBreak_iff {c : Char} :
    isBreak c = true ↔ c = '\n' ∨ c.toNat = 0x2028 ∨ c.toNat = 0x2029 := by
  simp [isBreak, or_assoc]

/-- The code points of printable characters. -/
theorem isPrintable_iff {c : Char} :
    isPrintable c = true ↔ c.toNat = 0x0A ∨ (0x20 ≤ c.toNat ∧ c.toNat ≤ 0x7E)
      ∨ (0xA0 ≤ c.toNat ∧ c.toNat ≠ 0xFEFF ∧ c.toNat ≠ 0xFFFE ∧ c.toNat ≠ 0xFFFF) := by
  simp only [isPrintable, Bool.or_eq_true, Bool.and_eq_true, beq_iff_eq, decide_eq_true_eq,
    ne_eq, and_assoc, or_assoc]

/-- The code points of small letters. -/
theorem isLower_iff {c : Char} : c.isLower = true ↔ 97 ≤ c.toNat ∧ c.toNat ≤ 122 := by
  change (decide (c.val ≥ 'a'.val) && decide (c.val ≤ 'z'.val)) = true ↔ _
  rw [Bool.and_eq_true, decide_eq_true_eq, decide_eq_true_eq]
  exact and_congr UInt32.le_iff_toNat_le UInt32.le_iff_toNat_le

/-- A printable character may occur in a text. -/
theorem isAllowed_of_isPrintable {c : Char} (h : isPrintable c = true) : isAllowed c = true := by
  have hcode := isPrintable_iff.mp h
  simp only [isAllowed, Bool.or_eq_true, Bool.and_eq_true, beq_iff_eq, decide_eq_true_eq]
  omega

/-- A character that is neither a blank nor a line break is solid. -/
theorem isSolid_iff {c : Char} : isSolid c = true ↔ isSpace c = false ∧ isBreak c = false := by
  simp [isSolid]

/-- A character that stands for itself wherever it is, as letters and digits do. -/
structure IsOrdinary (c : Char) : Prop where
  isPrintable : isPrintable c = true
  isSolid : isSolid c = true
  ne : ∀ d : Char, d.isAlphanum = false → c ≠ d

/-- Letters and digits lie between the blanks and the line separators. -/
theorem isOrdinary_of_isAlphanum {c : Char} (h : c.isAlphanum = true) (hlower : 48 ≤ c.toNat)
    (hupper : c.toNat ≤ 122) : IsOrdinary c := by
  have hne : ∀ d : Char, d.isAlphanum = false → c ≠ d := by
    rintro d hd rfl
    rw [h] at hd
    cases hd
  have hspace : isSpace c = false := by
    simp [isSpace, hne ' ' (by decide), hne '\t' (by decide)]
  have hbreak : isBreak c = false := by
    rw [Bool.eq_false_iff, ne_eq, isBreak_iff]
    rintro (e | e | e)
    · exact hne '\n' (by decide) e
    · omega
    · omega
  exact ⟨isPrintable_iff.mpr (by omega), isSolid_iff.mpr ⟨hspace, hbreak⟩, hne⟩

/-- Small letters are ordinary. -/
theorem isOrdinary_of_isLower {c : Char} (h : c.isLower = true) : IsOrdinary c := by
  obtain ⟨hlower, hupper⟩ := isLower_iff.mp h
  have hletter : c.isAlpha = true := (Bool.or_eq_true _ _).mpr (.inr h)
  have halphanum : c.isAlphanum = true := (Bool.or_eq_true _ _).mpr (.inl hletter)
  exact isOrdinary_of_isAlphanum halphanum (by omega) hupper

/-- Digits are ordinary. -/
theorem isOrdinary_of_isDigit {c : Char} (h : c.isDigit = true) : IsOrdinary c := by
  obtain ⟨hlower, hupper⟩ := Numeral.isDigit_iff.mp h
  have halphanum : c.isAlphanum = true := (Bool.or_eq_true _ _).mpr (.inr h)
  exact isOrdinary_of_isAlphanum halphanum hlower (by omega)

namespace IsOrdinary

variable {c : Char}

/-- An ordinary character is none of several marks. -/
theorem not_mem (h : IsOrdinary c) {marks : List Char}
    (hmarks : marks.all (fun d => !d.isAlphanum) = true) : c ∉ marks := by
  intro hmem
  have hmark := List.all_eq_true.mp hmarks c hmem
  rw [Bool.not_eq_true'] at hmark
  exact h.ne c hmark rfl

/-- An ordinary character does not part the items of a collection. -/
theorem isFlowMark (h : IsOrdinary c) : isFlowMark c = false := by
  simp [Yaml.isFlowMark, h.ne ',' (by decide), h.ne '[' (by decide), h.ne ']' (by decide),
    h.ne '\x7b' (by decide), h.ne '\x7d' (by decide)]

end IsOrdinary

/-- A printable character that is no space and no line break is solid. -/
theorem isSolid_of_isPrintable {c : Char} (h : isPrintable c = true) (hspace : c ≠ ' ')
    (hbreak : isBreak c = false) : isSolid c = true := by
  have htab : c ≠ '\t' := by
    rintro rfl
    cases h
  rw [isSolid_iff]
  exact ⟨by simp [isSpace, hspace, htab], hbreak⟩

/-- A character that is no line break differs from each of them. -/
theorem ne_of_isBreak {b c : Char} (hb : isBreak b = true) (hc : isBreak c = false) : b ≠ c := by
  rintro rfl
  rw [hb] at hc
  cases hc

/-! ### Texts -/

/-- Printable characters stay as they are when line breaks are unified. -/
theorem unifyBreaks_eq_self {cs : List Char} (h : ∀ c ∈ cs, isPrintable c = true) :
    unifyBreaks cs = cs := by
  induction cs with
  | nil => rfl
  | cons c cs ih =>
    rw [List.forall_mem_cons] at h
    have hcode := isPrintable_iff.mp h.1
    have hreturn : c ≠ '\r' := by
      rintro rfl
      exact absurd h.1 (by decide)
    have hnext : c.toNat ≠ 0x85 := by omega
    rw [unifyBreaks, ih h.2]
    · simp [hreturn, hnext]
    · exact fun _ e _ => hreturn e

/-- A marker is made of its character. -/
theorem atMarker_cons {marker c : Char} (h : c ≠ marker) (cs : List Char) :
    atMarker marker (c :: cs) = false := by
  rcases cs with _ | ⟨d, _ | ⟨e, cs⟩⟩
  · rfl
  · rfl
  · simp [atMarker, h]

/-- A marker of a document begins with a dash or a point. -/
theorem atDocumentMarker_cons {c : Char} (hdash : c ≠ '-') (hpoint : c ≠ '.') (cs : List Char) :
    atDocumentMarker (c :: cs) = false := by
  rw [atDocumentMarker, atMarker_cons hdash, atMarker_cons hpoint]
  rfl

/-- No two neighbours in a text satisfy `p` if the first two do not, nor any after them. -/
theorem anyNeighbours_cons_eq_false {p : Char → Char → Bool} {c : Char} {cs : List Char} :
    anyNeighbours p (c :: cs) = false ↔
      (∀ d ∈ cs.head?, p c d = false) ∧ anyNeighbours p cs = false := by
  cases cs with
  | nil => simp [anyNeighbours]
  | cons d cs => simp [anyNeighbours]

end BenchCompare.Yaml
