import BenchCompare.Proofs.Text.Cutting
import BenchCompare.Report.Line

/-!
# Tokens of a report

What the tokens that the readers accept look like, as far as the lines of a report can be told apart
by it.  A number begins with a digit, a point, a sign or a letter of its words
(`Binary64.parse?_cons_eq_none`), a share ends with a percent sign (`eq_append_of_beforePercent?`),
and the words of a row of the latency distribution are a percentage and a time.
-/

namespace BenchCompare

/-- A number does not begin with a character that is neither a digit nor a point, a sign or the
first letter of a number word. -/
theorem Binary64.parse?_cons_eq_none {c : Char} (hmark : c ≠ '-' ∧ c ≠ '+' ∧ c ≠ '.')
    (hdigit : c.isDigit = false) (hletter : c.toLower ≠ 'i' ∧ c.toLower ≠ 'n')
    (cs : List Char) : parse? (c :: cs) = none := by
  have hunsigned : parse? (c :: cs) = unsigned? (c :: cs) := by
    rw [parse?]
    · exact fun _ h => hmark.1 (List.cons.inj h).1
    · exact fun _ h => hmark.2.1 (List.cons.inj h).1
  have hmantissa : mantissa? (c :: cs) = none := by
    have hdrop : (c :: cs).dropWhile Char.isDigit = c :: cs := by simp [hdigit]
    simp [mantissa?, hdrop, hdigit, hmark.2.2]
  simp [hunsigned, unsigned?, Text.sameLetters, hletter, hmantissa]

namespace Report

/-- A share is a number with a percent sign after it. -/
theorem eq_append_of_beforePercent? {token : List Char} {x : Binary64}
    (h : beforePercent? token = some x) :
    ∃ number, token = number ++ ['%'] ∧ Binary64.parse? number = some x := by
  rw [beforePercent?] at h
  split at h
  · cases h
  · next number hnumber =>
    exact ⟨number, (List.isSuffixOf?_eq_some_iff_append_eq.mp hnumber).symm, h⟩

/-- A percentage does not begin with a letter that begins no number. -/
theorem percent?_cons_eq_none {c : Char} (hmark : c ≠ '-' ∧ c ≠ '+' ∧ c ≠ '.')
    (hdigit : c.isDigit = false) (hletter : c.toLower ≠ 'i' ∧ c.toLower ≠ 'n')
    (cs : List Char) : percent? (c :: cs) = none := by
  have hbefore : beforePercent? (c :: cs) = none := by
    rw [Option.eq_none_iff_forall_ne_some]
    intro x hx
    obtain ⟨number, htoken, hparse⟩ := eq_append_of_beforePercent? hx
    cases number with
    | nil =>
      have hnil : Binary64.parse? [] = none := by decide
      rw [hnil] at hparse
      cases hparse
    | cons d ds =>
      obtain ⟨rfl, -⟩ := List.cons.inj htoken
      rw [Binary64.parse?_cons_eq_none hmark hdigit hletter] at hparse
      cases hparse
  rw [percent?, hbefore]
  rfl

/-- A time does not begin with a character that is neither a blank nor part of a number. -/
theorem duration?_cons_eq_none {c : Char} (hblank : Text.isBlank c = false)
    (hnumber : isNumberChar c = false) (cs : List Char) : duration? (c :: cs) = none := by
  obtain ⟨ds, hds⟩ := Text.exists_trim_cons hblank cs
  have hamount : amount? (c :: cs) = none := by
    rw [amount?, hds]
    simp [hnumber]
  rw [duration?, quantity?, hamount]
  rfl

/-- A row of the latency distribution has two words: a percentage and a time. -/
theorem words_of_percentileRow? {line : List Char} {entry : Percentile}
    (h : percentileRow? line = some entry) :
    ∃ percent latency, Text.words line = [percent, latency]
      ∧ percent? percent = some entry.percent ∧ duration? latency = some entry.latency := by
  rw [percentileRow?] at h
  split at h
  · next percent latency hwords =>
    refine ⟨percent, latency, hwords, ?_⟩
    cases hpercent : percent? percent with
    | none => simp [hpercent] at h
    | some p =>
      cases hlatency : duration? latency with
      | none => simp [hpercent, hlatency] at h
      | some d =>
        simp only [hpercent, hlatency, Option.bind_eq_bind, Option.bind_some] at h
        cases h
        exact ⟨rfl, rfl⟩
  · cases h

end Report

end BenchCompare
