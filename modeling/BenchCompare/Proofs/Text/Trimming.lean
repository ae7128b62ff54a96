import BenchCompare.Proofs.Text.Cutting
import Mathlib.Data.List.Forall2

/-!
# Cores of texts

A text that is more than blanks has a *core*: the text without the blanks around it (`HasCore`).  The
core begins and ends with no blank, and trimming leaves exactly the core (`HasCore.trim_eq`,
`exists_hasCore`), whatever the blanks around it are (`trim_blanks_append`, `trim_append_blanks`).  So
texts that differ in these blanks only are trimmed to the same text, and no other texts are
(`sameButMargins_iff`).
-/

namespace BenchCompare.Text

/-- The empty text is a text of blanks. -/
theorem isBlanks_nil : IsBlanks [] :=
  nofun

/-- Blanks behind a text are dropped at its end. -/
theorem trimEnd_append_blanks {bs : List Char} (hbs : IsBlanks bs) (cs : List Char) :
    trimEnd (cs ++ bs) = trimEnd cs := by
  have hreverse : bs.reverse.dropWhile isBlank = [] := by
    apply List.dropWhile_eq_nil_iff.mpr
    intro c hc
    exact hbs c (List.mem_reverse.mp hc)
  rw [trimEnd_eq_rdropWhile, trimEnd_eq_rdropWhile]
  unfold List.rdropWhile
  rw [List.reverse_append, List.dropWhile_append, hreverse]
  rfl

/-- Blanks behind a text are trimmed away. -/
theorem trim_append_blanks {bs : List Char} (hbs : IsBlanks bs) (cs : List Char) :
    trim (cs ++ bs) = trim cs := by
  unfold trim trimStart
  rw [List.dropWhile_append]
  split
  · next hempty =>
    -- Nothing but blanks: both texts are trimmed to nothing.
    rw [List.isEmpty_iff.mp hempty, List.dropWhile_eq_nil_iff.mpr hbs]
  · exact trimEnd_append_blanks hbs _

/-- A text of blanks is trimmed to nothing. -/
theorem trim_of_isBlankText {cs : List Char} (h : isBlankText cs = true) : trim cs = [] := by
  have hblanks : IsBlanks cs := List.all_eq_true.mp h
  have hnil := trim_blanks_append hblanks []
  rwa [List.append_nil] at hnil

/-- A text with blanks around a core, which begins and ends with no blank. -/
structure HasCore (cs core : List Char) : Prop where
  surrounded : ∃ lead trail, IsBlanks lead ∧ IsBlanks trail ∧ cs = lead ++ (core ++ trail)
  isTrimmed : IsTrimmed core
  ne_nil : core ≠ []

namespace HasCore

variable {cs core : List Char}

/-- The core is what trimming leaves. -/
theorem trim_eq (h : HasCore cs core) : trim cs = core := by
  obtain ⟨lead, trail, hlead, htrail, rfl⟩ := h.surrounded
  rw [trim_blanks_append hlead, trim_append_blanks htrail, h.isTrimmed.trim_eq]

/-- The characters of the core are characters of the text. -/
theorem subset (h : HasCore cs core) : core ⊆ cs := by
  obtain ⟨lead, trail, -, -, rfl⟩ := h.surrounded
  intro c hc
  simp [hc]

/-- A character that is no blank is as often in the core as in the text. -/
theorem count_eq (h : HasCore cs core) {c : Char} (hc : isBlank c = false) :
    core.count c = cs.count c := by
  have hnone : ∀ bs, IsBlanks bs → bs.count c = 0 := by
    intro bs hbs
    apply List.count_eq_zero.mpr
    intro hmem
    rw [hbs c hmem] at hc
    cases hc
  obtain ⟨lead, trail, hlead, htrail, rfl⟩ := h.surrounded
  rw [List.count_append, List.count_append, hnone lead hlead, hnone trail htrail, Nat.zero_add,
    Nat.add_zero]

end HasCore

/-- A trimmed text is its own core. -/
theorem IsTrimmed.hasCore {cs : List Char} (h : IsTrimmed cs) (hne : cs ≠ []) : HasCore cs cs where
  surrounded := ⟨[], [], isBlanks_nil, isBlanks_nil, (List.append_nil cs).symm⟩
  isTrimmed := h
  ne_nil := hne

/-- The core of two texts together: the two cores with blanks between them. -/
theorem HasCore.append {cs ds core other : List Char} (h : HasCore cs core)
    (hother : HasCore ds other) :
    ∃ between, IsBlanks between ∧ HasCore (cs ++ ds) (core ++ (between ++ other)) := by
  have htrimmed := h.isTrimmed.append h.ne_nil hother.isTrimmed hother.ne_nil
  obtain ⟨lead, between, hlead, hbetween, rfl⟩ := h.surrounded
  obtain ⟨further, trail, hfurther, htrail, rfl⟩ := hother.surrounded
  refine ⟨between ++ further, ?_, ⟨lead, trail, hlead, htrail, ?_⟩, htrimmed _, ?_⟩
  · intro c hc
    rcases List.mem_append.mp hc with hc | hc
    · exact hbetween c hc
    · exact hfurther c hc
  · simp only [List.append_assoc]
  · exact List.append_ne_nil_of_left_ne_nil h.ne_nil _

/-- A text is what trimming leaves of it, with blanks around that. -/
theorem exists_eq_blanks_trim_blanks (cs : List Char) :
    ∃ lead trail, IsBlanks lead ∧ IsBlanks trail ∧ cs = lead ++ (trim cs ++ trail) := by
  refine ⟨cs.takeWhile isBlank, (trimStart cs).rtakeWhile isBlank, ?_, ?_, ?_⟩
  · intro c hc
    exact List.mem_takeWhile_imp hc
  · intro c hc
    exact List.mem_rtakeWhile_imp hc
  · unfold trim
    rw [trimEnd_eq_rdropWhile, List.rdropWhile_append_rtakeWhile]
    exact List.takeWhile_append_dropWhile.symm

/-- A text that is more than blanks has a core. -/
theorem exists_hasCore {cs : List Char} (h : isBlankText cs = false) : ∃ core, HasCore cs core := by
  refine ⟨trim cs, exists_eq_blanks_trim_blanks cs, isTrimmed_trim cs, ?_⟩
  intro hnil
  obtain ⟨lead, trail, hlead, htrail, hcs⟩ := exists_eq_blanks_trim_blanks cs
  rw [hnil, List.nil_append] at hcs
  have hblank : isBlankText cs = true := by
    rw [hcs]
    exact List.all_eq_true.mpr (List.forall_mem_append.mpr ⟨hlead, htrail⟩)
  rw [hblank] at h
  cases h

/-! ### Margins -/

/-- Two texts are the same but for the blanks at their two ends. -/
def SameButMargins (cs ds : List Char) : Prop :=
  ∃ core, (∃ lead trail, IsBlanks lead ∧ IsBlanks trail ∧ cs = lead ++ (core ++ trail))
    ∧ ∃ lead trail, IsBlanks lead ∧ IsBlanks trail ∧ ds = lead ++ (core ++ trail)

/-- Texts are the same but for the blanks at their ends exactly if they are trimmed to the same
text. -/
theorem sameButMargins_iff {cs ds : List Char} : SameButMargins cs ds ↔ trim cs = trim ds := by
  constructor
  · rintro ⟨core, ⟨lead, trail, hlead, htrail, rfl⟩, ⟨lead', trail', hlead', htrail', rfl⟩⟩
    rw [trim_blanks_append hlead, trim_append_blanks htrail, trim_blanks_append hlead',
      trim_append_blanks htrail']
  · intro h
    exact ⟨trim cs, exists_eq_blanks_trim_blanks cs, h ▸ exists_eq_blanks_trim_blanks ds⟩

/-- Texts are the same one by one, but for the blanks at their ends, exactly if they are trimmed to the
same texts. -/
theorem forall₂_sameButMargins_iff {ps qs : List (List Char)} :
    List.Forall₂ SameButMargins ps qs ↔ ps.map trim = qs.map trim := by
  rw [← List.forall₂_eq_eq_eq, List.forall₂_map_left_iff, List.forall₂_map_right_iff]
  exact ⟨fun h => h.imp fun _ _ => sameButMargins_iff.mp,
    fun h => h.imp fun _ _ => sameButMargins_iff.mpr⟩

end BenchCompare.Text
