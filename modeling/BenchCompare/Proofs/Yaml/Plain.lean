import BenchCompare.Proofs.Yaml.Quoted

/-!
# Plain texts are read back

A plain text stands as it is, on one line (`plain?_append_newline`).  Nothing in it ends it: no colon
in front of a blank, and no number sign after one.  The line break after it does, provided that the
next line begins outside the indentation.  The names in front of the values of a mapping are plain
texts, too; a colon ends them (`plain?_append_colon`).
-/

namespace BenchCompare.Yaml

/-- A text that is at its end or goes on with something at the margin, which is no comment. -/
def BeginsEntry (cs : List Char) : Prop :=
  ∀ c ∈ cs.head?, isSolid c = true ∧ c ≠ '#'

section Plain

variable {indent column : Nat} {gap : Gap} {c : Char} {cs rest : List Char}

/-- A solid character that ends nothing ends the gap and stands for itself. -/
theorem plain?_cons_of_isSolid (hsolid : isSolid c = true)
    (hend : endsAfterGap false indent column gap (c :: cs) = false)
    (hcolon : c = ':' → atGap cs = false) :
    plain? false indent gap column (c :: cs) =
      PlainText.push? (gap.value ++ [c]) (plain? false indent .none (column + 1) cs) := by
  obtain ⟨hspace, hbreak⟩ := isSolid_iff.mp hsolid
  have hstays : (c == ':' && atGap cs) = false := by
    rw [Bool.and_eq_false_iff, beq_eq_false_iff_ne]
    exact Decidable.not_or_of_imp hcolon |>.imp id id
  rw [plain?]
  simp [hbreak, hspace, hend, hstays]

/-- A space within the line goes into the gap. -/
theorem plain?_cons_space :
    plain? false indent gap column (' ' :: cs) =
      plain? false indent (gap.addSpace ' ') (column + 1) cs := by
  rw [plain?]
  simp [isBreak, isSpace]

/-- Solid characters without a colon are read up to a colon in front of a blank. -/
theorem plain?_append_colon (hcs : ∀ c ∈ cs, isSolid c = true ∧ c ≠ ':') (hrest : atGap rest = true) :
    plain? false indent .none column (cs ++ ':' :: rest) = some ⟨cs, ':' :: rest, false⟩ := by
  induction cs generalizing column with
  | nil =>
    rw [List.nil_append, plain?]
    simp [isBreak, isSpace, endsAfterGap, hrest, Gap.isBroken]
  | cons c cs ih =>
    rw [List.forall_mem_cons] at hcs
    rw [List.cons_append, plain?_cons_of_isSolid hcs.1.1 rfl fun e => absurd e hcs.1.2, ih hcs.2]
    rfl

/-- A line break in front of a line outside the indentation ends a text. -/
theorem plain?_newline (hindent : 0 < indent) (hrest : BeginsEntry rest) :
    plain? false indent gap column ('\n' :: rest) = some ⟨[], rest, true⟩ := by
  rw [plain?, if_pos (show isBreak '\n' = true from rfl)]
  cases rest with
  | nil => simp [plain?, Gap.isBroken_addBreak]
  | cons c rest =>
    obtain ⟨hspace, hbreak⟩ := isSolid_iff.mp (hrest c rfl).1
    have hbroken := gap.isBroken_addBreak '\n'
    have hsome : gap.addBreak '\n' ≠ .none := by
      intro e
      rw [e] at hbroken
      cases hbroken
    rw [plain?]
    simp [hbreak, hspace, endsAfterGap, hindent, hsome, hbroken]

/-- Within the line a text ends after a gap only in front of a number sign. -/
theorem endsAfterGap_eq_false (hindent : 0 < indent) (hcolumn : indent ≤ column)
    (h : gap ≠ .none → c ≠ '#') : endsAfterGap false indent column gap (c :: cs) = false := by
  have hdeep : ¬ column < indent := Nat.not_lt.mpr hcolumn
  have hlater : column ≠ 0 := Nat.ne_of_gt (Nat.lt_of_lt_of_le hindent hcolumn)
  cases gap with
  | none => rfl
  | spaces spaces => simp [endsAfterGap, hdeep, hlater, h nofun]
  | broken first more => simp [endsAfterGap, hdeep, hlater, h nofun]

/-- The last character of a text is the last one of any end of it. -/
theorem getLast?_ne_of_cons {c d : Char} {cs : List Char} (h : (c :: cs).getLast? ≠ some d) :
    cs.getLast? ≠ some d := by
  cases cs with
  | nil => nofun
  | cons e cs => rwa [List.getLast?_cons_cons] at h

/-- Two neighbours of a plain text: a colon in front of a blank, or a number sign after one. -/
def endsBetween (c d : Char) : Bool :=
  (c == ':' && !isSolid d) || (!isSolid c && d == '#')

/-- What is read after a gap within the line.  A gap must be followed by something, which is no
number sign. -/
theorem plain?_append_newline_of_isBroken_eq_false (hindent : 0 < indent) (hrest : BeginsEntry rest)
    (hcolumn : indent ≤ column) (hgap : gap.isBroken = false)
    (hprintable : ∀ c ∈ cs, isPrintable c = true ∧ isBreak c = false)
    (hcolon : cs.getLast? ≠ some ':') (hinside : anyNeighbours endsBetween cs = false)
    (hlast : cs.getLast? ≠ some ' ') (hfirst : gap ≠ .none → ∃ c ∈ cs.head?, c ≠ '#') :
    plain? false indent gap column (cs ++ '\n' :: rest) = some ⟨gap.value ++ cs, rest, true⟩ := by
  induction cs generalizing gap column with
  | nil =>
    have hnone : gap = .none := by
      by_contra hsome
      obtain ⟨c, hc, -⟩ := hfirst hsome
      cases hc
    rw [List.nil_append, plain?_newline hindent hrest, hnone]
    rfl
  | cons c cs ih =>
    rw [List.forall_mem_cons] at hprintable
    rw [anyNeighbours_cons_eq_false] at hinside
    have hread := fun {gap : Gap} => @ih (column + 1) gap (Nat.le_succ_of_le hcolumn)
    by_cases hspace : c = ' '
    · subst hspace
      have hlater : ∃ d ∈ cs.head?, d ≠ '#' := by
        cases cs with
        | nil => exact absurd rfl hlast
        | cons d cs =>
          refine ⟨d, rfl, ?_⟩
          rintro rfl
          exact absurd (hinside.1 '#' rfl) (by decide)
      rw [List.cons_append, plain?_cons_space, hread ((gap.isBroken_addSpace ' ').trans hgap)
        hprintable.2 (getLast?_ne_of_cons hcolon) hinside.2 (getLast?_ne_of_cons hlast)
        fun _ => hlater, Gap.value_addSpace hgap, List.append_assoc, List.singleton_append]
    · have hsolid := isSolid_of_isPrintable hprintable.1.1 hspace hprintable.1.2
      have hend : endsAfterGap false indent column gap (c :: (cs ++ '\n' :: rest)) = false :=
        endsAfterGap_eq_false hindent hcolumn fun hsome => by
          obtain ⟨d, ⟨⟩, hd⟩ := hfirst hsome
          exact hd
      have hstays : c = ':' → atGap (cs ++ '\n' :: rest) = false := by
        rintro rfl
        cases cs with
        | nil => exact absurd rfl hcolon
        | cons d cs =>
          have hd := hinside.1 d rfl
          simp only [endsBetween, Bool.or_eq_false_iff] at hd
          exact hd.1
      rw [List.cons_append, plain?_cons_of_isSolid hsolid hend hstays, hread rfl
        hprintable.2 (getLast?_ne_of_cons hcolon) hinside.2 (getLast?_ne_of_cons hlast)
        fun hsome => absurd rfl hsome]
      simp [PlainText.push?, Gap.value]

/-- **A plain text is read back.** -/
theorem plain?_append_newline (hindent : 0 < indent) (hcolumn : indent ≤ column)
    (hallowed : plainAllowed cs = true) (hrest : BeginsEntry rest) :
    plain? false indent .none column (cs ++ '\n' :: rest) = some ⟨cs, rest, true⟩ := by
  simp only [plainAllowed, endsInside, Bool.and_eq_true, List.all_eq_true, Bool.not_eq_true',
    Bool.or_eq_false_iff, beq_eq_false_iff_ne] at hallowed
  obtain ⟨⟨⟨⟨hprintable, -⟩, hcolon, hinside⟩, -⟩, hedge⟩ := hallowed
  have hlast : cs.getLast? ≠ some ' ' := by
    intro e
    rw [e] at hedge
    cases hedge
  exact plain?_append_newline_of_isBroken_eq_false hindent hrest hcolumn rfl hprintable hcolon
    hinside hlast fun hsome => absurd rfl hsome

end Plain

end BenchCompare.Yaml
