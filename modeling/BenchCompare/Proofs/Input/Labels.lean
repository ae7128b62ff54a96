import BenchCompare.Input.Spec
import BenchCompare.Proofs.Text.Cutting

/-!
# Labels of inputs

Neither the label nor the path of an input that was read is blank (`InputSpec.IsNamed.of_parse`): the
reader trims them, and refuses them if nothing is left.

The label of a report without a label of its own is another matter.  It is the stem of the file, and
stems are not trimmed.  They are never empty (`Path.ne_nil_of_mem_stem?`), so the whole path is taken
only if there is no stem at all (`Path.defaultLabel_eq`), and the label is blank exactly if the stem
is (`Path.isBlankText_defaultLabel_iff`).
-/

namespace BenchCompare

/-! ### The stem of a file -/

namespace Path

/-- Once the idle parts at the end are dropped, the last part is not empty. -/
theorem ne_nil_of_mem_getLast?_dropIdleEnd {keepFirst : Bool} {parts : List (List Char)}
    {part : List Char} (h : part ∈ (dropIdleEnd keepFirst parts).getLast?) : part ≠ [] := by
  induction parts generalizing keepFirst with
  | nil => cases h
  | cons first rest ih =>
    unfold dropIdleEnd at h
    cases hrest : dropIdleEnd false rest with
    | nil =>
      rw [hrest] at h
      rintro rfl
      by_cases hidle : (isIdle first && !(keepFirst && first == ['.'])) = true
      · simp only [hidle, if_true] at h
        cases h
      · -- The part was kept, but an empty part is idle, and it is no point that stays in front.
        simp only [hidle] at h
        cases h
        exact hidle (by cases keepFirst <;> rfl)
    | cons second others =>
      rw [hrest] at h
      exact ih (by rwa [hrest])

/-- The name of a file is not empty. -/
theorem ne_nil_of_mem_fileName? {path : Path} {name : List Char} (h : name ∈ path.fileName?) :
    name ≠ [] := by
  unfold fileName? at h
  cases hlast : path.parts.getLast? with
  | none =>
    rw [hlast] at h
    cases h
  | some part =>
    have hpart : part ≠ [] := ne_nil_of_mem_getLast?_dropIdleEnd hlast
    rw [hlast] at h
    split at h
    · cases h
    · next heq =>
      split at h
      · cases h
      · cases h
        exact Option.some.inj heq ▸ hpart

/-- A name that is not empty has something in front of its extension. -/
theorem cutName_fst_ne_nil {name : List Char} (h : name ≠ []) : (cutName name).1 ≠ [] := by
  simp only [cutName]
  split
  · exact h
  · next hcut =>
    rw [Bool.or_eq_true, not_or] at hcut
    simpa using hcut.2

/-- The stem of a file is not empty. -/
theorem ne_nil_of_mem_stem? {path : Path} {stem : List Char} (h : stem ∈ path.stem?) :
    stem ≠ [] := by
  obtain ⟨name, hname, rfl⟩ := Option.map_eq_some_iff.mp h
  exact cutName_fst_ne_nil (ne_nil_of_mem_fileName? hname)

/-! ### The label of a report -/

/-- The default label is the stem, or the whole path if there is none.  That the stem has to be more
than empty changes nothing. -/
theorem defaultLabel_eq (path : Path) :
    path.defaultLabel = (path.stem?.map String.ofList).getD path.text := by
  unfold defaultLabel
  cases hstem : path.stem? with
  | none => rfl
  | some stem =>
    have hne : stem.isEmpty = false := by simpa using ne_nil_of_mem_stem? hstem
    simp only [hne, Bool.false_eq_true, if_false]
    rfl

/-- A path whose stem consists of blanks. -/
def HasBlankStem (path : Path) : Prop :=
  path.stem?.any Text.isBlankText = true

instance (path : Path) : Decidable path.HasBlankStem :=
  inferInstanceAs (Decidable (_ = true))

/-- The default label is blank exactly if the stem is, or else if the path is. -/
theorem isBlankText_defaultLabel_iff {path : Path}
    (hpath : Text.isBlankText path.text.toList = false) :
    Text.isBlankText path.defaultLabel.toList = true ↔ path.HasBlankStem := by
  rw [defaultLabel_eq, HasBlankStem]
  cases path.stem? with
  | none => simp [hpath]
  | some stem => simp

end Path

/-! ### Inputs that were read -/

namespace InputSpec

/-- An input whose label, if it has one, and whose path are more than blanks. -/
structure IsNamed (input : InputSpec) : Prop where
  label : ∀ label ∈ input.label, Text.isBlankText label.toList = false
  path : Text.isBlankText input.path.text.toList = false

/-- An input that was read has names that are more than blanks. -/
theorem IsNamed.of_parse {text : String} {input : InputSpec} (h : parse text = .ok input) :
    input.IsNamed := by
  have hblank : ∀ cs : List Char, ¬ (Text.trim cs).isEmpty = true →
      Text.isBlankText (Text.trim cs) = false := by
    intro cs hcs
    exact (Text.isTrimmed_trim cs).isBlankText_eq_false (by simpa using hcs)
  unfold parse at h
  by_cases htext : (Text.trim text.toList).isEmpty = true
  · simp only [htext, if_true] at h
    cases h
  · simp only [htext] at h
    cases hcut : Text.cutAtChar? '=' (Text.trim text.toList) with
    | none =>
      rw [hcut] at h
      cases h
      refine ⟨nofun, ?_⟩
      rw [String.toList_ofList]
      exact hblank _ htext
    | some parts =>
      obtain ⟨before, after⟩ := parts
      rw [hcut] at h
      by_cases hlabel : (Text.trim before).isEmpty = true
      · simp only [hlabel, if_true] at h
        cases h
      · by_cases hpath : (Text.trim after).isEmpty = true
        · simp only [hlabel, hpath, if_true] at h
          cases h
        · simp only [hlabel, hpath] at h
          cases h
          refine ⟨?_, ?_⟩
          · rintro _ ⟨⟩
            rw [String.toList_ofList]
            exact hblank _ hlabel
          · rw [String.toList_ofList]
            exact hblank _ hpath

end InputSpec

end BenchCompare
