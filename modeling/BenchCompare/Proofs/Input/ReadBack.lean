import BenchCompare.Proofs.Input.Labels
import BenchCompare.Proofs.Text.Trimming

/-!
# Inputs are read back as they are written

Which texts are inputs, and which input a text is.  A text without an equals sign is a path; in any
other text the first equals sign has the label in front of it and the path behind it.  Blanks around
the label and around the path do not count (`InputSpec.IsTextOf`).  A text is refused exactly if a
part is missing (`InputSpec.LacksPart`), and every text that is not refused is the text of one input.

An input that was read is the text of itself when it is written (`InputSpec.IsTextOf.display`): its
label has no equals sign, so the one that is written after it is the first one again.
-/

namespace BenchCompare.InputSpec

/-- A text is refused: it is blank, or what is in front of its first equals sign is, or what is behind
it. -/
inductive LacksPart : List Char → Prop
  | all {cs : List Char} (h : Text.isBlankText cs = true) : LacksPart cs
  | label {before after : List Char} (hfirst : '=' ∉ before)
    (h : Text.isBlankText before = true) : LacksPart (before ++ '=' :: after)
  | path {before after : List Char} (hfirst : '=' ∉ before)
    (h : Text.isBlankText after = true) : LacksPart (before ++ '=' :: after)

/-- A text is the text of an input: its path, or its label and its path around the first equals
sign. -/
inductive IsTextOf : List Char → InputSpec → Prop
  | plain {cs path : List Char} (hnone : '=' ∉ cs) (hpath : Text.HasCore cs path) :
    IsTextOf cs { label := none, path := ⟨String.ofList path⟩ }
  | labelled {before after label path : List Char} (hfirst : '=' ∉ before)
    (hlabel : Text.HasCore before label) (hpath : Text.HasCore after path) :
    IsTextOf (before ++ '=' :: after)
      { label := some (String.ofList label), path := ⟨String.ofList path⟩ }

/-- The equals sign is no blank. -/
theorem isBlank_equals : Text.isBlank '=' = false := by
  decide

/-- There is no equals sign in a core with blanks behind it, if there is none in the text. -/
theorem equals_not_mem_append {cs core blanks : List Char} (h : Text.HasCore cs core)
    (hnone : '=' ∉ cs) (hblanks : Text.IsBlanks blanks) : '=' ∉ core ++ blanks := by
  intro hmem
  rcases List.mem_append.mp hmem with hcore | hblank
  · exact hnone (h.subset hcore)
  · have hequals := hblanks '=' hblank
    rw [isBlank_equals] at hequals
    cases hequals

/-- The equals sign is a core. -/
theorem hasCore_equals {after : List Char} (h : Text.IsBlanks after) :
    Text.HasCore ('=' :: after) ['='] where
  surrounded := ⟨[], after, Text.isBlanks_nil, h, rfl⟩
  isTrimmed := by
    constructor
    · rintro _ ⟨⟩
      exact isBlank_equals
    · rintro _ ⟨⟩
      exact isBlank_equals
  ne_nil := by decide

/-! ### Reading -/

/-- A text whose trimmed form has an equals sign is cut at the first one. -/
theorem parse_of_trim_eq {text : String} {before after : List Char} (hfirst : '=' ∉ before)
    (h : Text.trim text.toList = before ++ '=' :: after) :
    parse text =
      if (Text.trim before).isEmpty then
        .error (.missingLabel (String.ofList (before ++ '=' :: after)))
      else if (Text.trim after).isEmpty then
        .error (.missingPath (String.ofList (before ++ '=' :: after)))
      else
        .ok { label := some (String.ofList (Text.trim before))
              path := ⟨String.ofList (Text.trim after)⟩ } := by
  have hne : (before ++ '=' :: after).isEmpty = false := by simp
  unfold parse
  simp only [h, hne, Bool.false_eq_true, if_false, Text.cutAtChar?_append_cons hfirst]

/-- A text with blanks in front of its first equals sign is refused. -/
theorem exists_error_of_isBlankText {text : String} {before after : List Char}
    (htext : text.toList = before ++ '=' :: after) (h : Text.isBlankText before = true) :
    ∃ fault, parse text = .error fault := by
  obtain ⟨rest, hrest⟩ := Text.exists_trim_cons isBlank_equals after
  have htrim : Text.trim text.toList = [] ++ '=' :: rest := by
    rw [htext, Text.trim_blanks_append (List.all_eq_true.mp h), hrest]
    rfl
  rw [parse_of_trim_eq List.not_mem_nil htrim]
  exact ⟨_, rfl⟩

/-- A text that lacks a part is refused. -/
theorem LacksPart.exists_error {text : String} (h : LacksPart text.toList) :
    ∃ fault, parse text = .error fault := by
  generalize hcs : text.toList = cs at h
  rcases h with hblank | ⟨hfirst, hblank⟩ | @⟨before, after, hfirst, hblank⟩
  · unfold parse
    rw [hcs, Text.trim_of_isBlankText hblank]
    exact ⟨_, rfl⟩
  · exact exists_error_of_isBlankText hcs hblank
  · rcases hlabel : Text.isBlankText before with _ | _
    · -- What is left of the text ends with the equals sign.
      obtain ⟨label, hcore⟩ := Text.exists_hasCore hlabel
      obtain ⟨blanks, hblanks, hall⟩ := hcore.append (hasCore_equals (List.all_eq_true.mp hblank))
      have hmark := equals_not_mem_append hcore hfirst hblanks
      have htrim : Text.trim text.toList = (label ++ blanks) ++ '=' :: [] := by
        rw [hcs, hall.trim_eq, List.append_assoc]
      rw [parse_of_trim_eq hmark htrim]
      split
      · exact ⟨_, rfl⟩
      · exact ⟨_, rfl⟩
    · exact exists_error_of_isBlankText hcs hlabel

/-- The text of an input is read as that input. -/
theorem IsTextOf.parse_eq {text : String} {input : InputSpec} (h : IsTextOf text.toList input) :
    parse text = .ok input := by
  generalize hcs : text.toList = cs at h
  rcases h with ⟨hnone, hpath⟩ | @⟨before, after, label, path, hfirst, hlabel, hpath⟩
  · have hcut := Text.cutAtChar?_of_not_mem fun hmem => hnone (hpath.subset hmem)
    have hne := List.isEmpty_eq_false_iff.mpr hpath.ne_nil
    unfold parse
    simp only [hcs, hpath.trim_eq, hne, Bool.false_eq_true, if_false, hcut]
  · obtain ⟨further, hfurther, hright⟩ := (hasCore_equals Text.isBlanks_nil).append hpath
    obtain ⟨blanks, hblanks, hall⟩ := hlabel.append hright
    have hmark := equals_not_mem_append hlabel hfirst hblanks
    have htrim : Text.trim text.toList = (label ++ blanks) ++ '=' :: (further ++ path) := by
      rw [List.append_assoc, hcs]
      exact hall.trim_eq
    have hbefore : Text.trim (label ++ blanks) = label :=
      (Text.trim_append_blanks hblanks label).trans hlabel.isTrimmed.trim_eq
    have hafter : Text.trim (further ++ path) = path :=
      (Text.trim_blanks_append hfurther path).trans hpath.isTrimmed.trim_eq
    rw [parse_of_trim_eq hmark htrim, hbefore, hafter,
      if_neg (by simpa using hlabel.ne_nil), if_neg (by simpa using hpath.ne_nil)]

/-- Every text lacks a part, or else it is the text of an input. -/
theorem lacksPart_or_exists_isTextOf (cs : List Char) :
    LacksPart cs ∨ ∃ input, IsTextOf cs input := by
  by_cases hmem : '=' ∈ cs
  · obtain ⟨before, after, rfl, hfirst⟩ := List.eq_append_cons_of_mem hmem
    rcases hbefore : Text.isBlankText before with _ | _
    · rcases hafter : Text.isBlankText after with _ | _
      · obtain ⟨label, hlabel⟩ := Text.exists_hasCore hbefore
        obtain ⟨path, hpath⟩ := Text.exists_hasCore hafter
        exact .inr ⟨_, .labelled hfirst hlabel hpath⟩
      · exact .inl (.path hfirst hafter)
    · exact .inl (.label hfirst hbefore)
  · rcases hblank : Text.isBlankText cs with _ | _
    · obtain ⟨path, hpath⟩ := Text.exists_hasCore hblank
      exact .inr ⟨_, .plain hmem hpath⟩
    · exact .inl (.all hblank)

/-- A text is read as an input exactly if it is the text of that input. -/
theorem parse_eq_ok_iff_isTextOf {text : String} {input : InputSpec} :
    parse text = .ok input ↔ IsTextOf text.toList input := by
  constructor
  · intro h
    rcases lacksPart_or_exists_isTextOf text.toList with hlacks | ⟨other, hother⟩
    · obtain ⟨fault, hfault⟩ := hlacks.exists_error
      rw [hfault] at h
      cases h
    · have hread := hother.parse_eq
      rw [h] at hread
      cases hread
      exact hother
  · exact IsTextOf.parse_eq

/-- A text is refused exactly if it lacks a part. -/
theorem exists_parse_eq_error_iff {text : String} :
    (∃ fault, parse text = .error fault) ↔ LacksPart text.toList := by
  constructor
  · rintro ⟨fault, hfault⟩
    rcases lacksPart_or_exists_isTextOf text.toList with hlacks | ⟨input, hinput⟩
    · exact hlacks
    · rw [hinput.parse_eq] at hfault
      cases hfault
  · exact LacksPart.exists_error

/-! ### Writing -/

/-- An input with names that are more than blanks and have no blanks around them, and with no equals
sign in the label. -/
structure IsTidy (input : InputSpec) : Prop extends IsNamed input where
  equals_not_mem : ∀ label ∈ input.label, '=' ∉ label.toList
  isTrimmed_label : ∀ label ∈ input.label, Text.IsTrimmed label.toList
  isTrimmed_path : Text.IsTrimmed input.path.text.toList

/-- An input that was read is tidy. -/
theorem IsTidy.of_parse {text : String} {input : InputSpec} (h : parse text = .ok input) :
    input.IsTidy := by
  have hnamed := IsNamed.of_parse h
  have htext := parse_eq_ok_iff_isTextOf.mp h
  generalize text.toList = cs at htext
  rcases htext with ⟨-, hpath⟩ | ⟨hfirst, hlabel, hpath⟩
  · refine ⟨hnamed, nofun, nofun, ?_⟩
    rw [String.toList_ofList]
    exact hpath.isTrimmed
  · refine ⟨hnamed, ?_, ?_, ?_⟩
    · rintro _ ⟨⟩ hmem
      rw [String.toList_ofList] at hmem
      exact hfirst (hlabel.subset hmem)
    · rintro _ ⟨⟩
      rw [String.toList_ofList]
      exact hlabel.isTrimmed
    · rw [String.toList_ofList]
      exact hpath.isTrimmed

namespace IsTextOf

variable {cs : List Char} {input : InputSpec}

/-- An input that has a text is the text of itself when it is written. -/
theorem display (h : IsTextOf cs input) : IsTextOf input.display.toList input := by
  rcases h with ⟨hnone, hpath⟩ | @⟨before, after, label, path, hfirst, hlabel, hpath⟩
  · unfold InputSpec.display
    rw [String.toList_ofList]
    exact .plain (fun hmem => hnone (hpath.subset hmem)) (hpath.isTrimmed.hasCore hpath.ne_nil)
  · unfold InputSpec.display
    simp only [String.toList_append, String.toList_ofList, List.append_assoc]
    exact .labelled (fun hmem => hfirst (hlabel.subset hmem))
      (hlabel.isTrimmed.hasCore hlabel.ne_nil) (hpath.isTrimmed.hasCore hpath.ne_nil)

/-- The path has all equals signs of the text but the first. -/
theorem count_path (h : IsTextOf cs input) :
    input.path.text.toList.count '=' = cs.count '=' - 1 := by
  rcases h with ⟨hnone, hpath⟩ | ⟨hfirst, -, hpath⟩
  · rw [String.toList_ofList, hpath.count_eq isBlank_equals, List.count_eq_zero.mpr hnone]
  · rw [String.toList_ofList, hpath.count_eq isBlank_equals, List.count_append,
      List.count_eq_zero.mpr hfirst, List.count_cons_self, Nat.zero_add, Nat.add_sub_cancel]

end IsTextOf

/-- **Inputs and their texts.**  A text is refused exactly if it is blank, or blank in front of its
first equals sign, or blank behind it.  Any other text is read as the one input whose text it is.
That input is tidy, its path keeps the later equals signs, and it is read back as it is written. -/
theorem parse_display (text : String) :
    ((∃ fault, parse text = .error fault) ↔ LacksPart text.toList)
      ∧ ∀ input, parse text = .ok input →
        IsTextOf text.toList input
          ∧ parse input.display = .ok input
          ∧ input.IsTidy
          ∧ input.path.text.toList.count '=' = text.toList.count '=' - 1 := by
  refine ⟨exists_parse_eq_error_iff, ?_⟩
  intro input h
  have htext := parse_eq_ok_iff_isTextOf.mp h
  exact ⟨htext, htext.display.parse_eq, .of_parse h, htext.count_path⟩

/-- An input with blanks around its parts and equals signs in its path. -/
theorem parse_display_spaced :
    parse "\u3000round robin =\t a=b=c.txt\n" =
        .ok { label := some "round robin", path := ⟨"a=b=c.txt"⟩ }
      ∧ parse "round robin=a=b=c.txt" =
        .ok { label := some "round robin", path := ⟨"a=b=c.txt"⟩ } := by
  have hread : parse "\u3000round robin =\t a=b=c.txt\n" =
      .ok { label := some "round robin", path := ⟨"a=b=c.txt"⟩ } := by
    decide +kernel
  exact ⟨hread, ((parse_display _).2 _ hread).2.1⟩

end BenchCompare.InputSpec
