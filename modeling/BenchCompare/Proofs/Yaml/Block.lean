import BenchCompare.Proofs.Yaml.Plain
import Mathlib.Data.List.Basic

/-!
# Blocks are read back

A text with a line feed is written as a block: its lines are indented, but for the empty ones, and
the last line gets an end if it has none (`exists_lines`).  The reader takes the lines one by one.
Each either adds to the line breaks at the end or goes behind all that was there (`BlockText.take`),
so the block it ends with holds the text, with the line breaks at its end kept apart
(`BlockText.IsSettled`).  The sign in the header says how many of them belong to the text
(`block?_blockSigns`).
-/

namespace BenchCompare.Yaml

/-! ### Lines -/

/-- A line without a line break in it, and with one at its end. -/
structure TextLine.IsWhole (line : TextLine) : Prop where
  content : ∀ c ∈ line.content, isBreak c = false
  ending : ∃ c, line.ending = some c ∧ isBreak c = true

/-- A whole line has a content and a line break. -/
theorem TextLine.IsWhole.exists_eq {line : TextLine} (h : line.IsWhole) :
    ∃ content e, line = ⟨content, some e⟩ ∧ (∀ c ∈ content, isBreak c = false)
      ∧ isBreak e = true := by
  obtain ⟨content, ending⟩ := line
  obtain ⟨e, rfl, he⟩ := h.ending
  exact ⟨content, e, rfl, h.content, he⟩

/-- The first line in front of the others and of what comes after them. -/
theorem joinLines_cons_append (content : List Char) (e : Char) (lines : List TextLine)
    (cs : List Char) : joinLines (⟨content, some e⟩ :: lines) ++ cs =
      content ++ e :: (joinLines lines ++ cs) := by
  simp [joinLines]

/-- Lines that are joined make up the text again. -/
theorem joinLines_textLines (cs : List Char) : joinLines (textLines cs) = cs := by
  induction cs with
  | nil => rfl
  | cons c cs ih =>
    rw [textLines]
    split
    · rw [joinLines, List.flatMap_cons, ← joinLines, ih]
      rfl
    · cases hlines : textLines cs with
      | nil =>
        rw [hlines] at ih
        rw [← ih]
        rfl
      | cons line lines =>
        rw [hlines] at ih
        rw [← ih]
        rfl

/-- The first line of a text ends at the first line break. -/
theorem textLines_append_cons {content : List Char} (hcontent : ∀ c ∈ content, isBreak c = false)
    {e : Char} (he : isBreak e = true) (cs : List Char) :
    textLines (content ++ e :: cs) = ⟨content, some e⟩ :: textLines cs := by
  induction content with
  | nil => rw [List.nil_append, textLines, if_pos he]
  | cons c content ih =>
    rw [List.forall_mem_cons] at hcontent
    rw [List.cons_append, textLines, hcontent.1, ih hcontent.2]
    rfl

/-- Whole lines are the first lines of a text that begins with them. -/
theorem textLines_joinLines_append {lines : List TextLine} (h : ∀ line ∈ lines, line.IsWhole)
    (cs : List Char) : textLines (joinLines lines ++ cs) = lines ++ textLines cs := by
  induction lines with
  | nil => rfl
  | cons line lines ih =>
    rw [List.forall_mem_cons] at h
    obtain ⟨content, e, rfl, hcontent, he⟩ := h.1.exists_eq
    rw [joinLines_cons_append, textLines_append_cons hcontent he, ih h.2, List.cons_append]

/-- A line as it is written in a block: indented, unless it is empty. -/
def TextLine.indented (line : TextLine) : TextLine :=
  if line.content.isEmpty then line else { line with content := indentation ++ line.content }

/-- A line stays whole when it is indented. -/
theorem TextLine.IsWhole.indented {line : TextLine} (h : line.IsWhole) : line.indented.IsWhole := by
  rw [TextLine.indented]
  split
  · exact h
  · refine ⟨fun c hc => ?_, h.ending⟩
    rcases List.mem_append.mp hc with hc | hc
    · simp only [indentation, List.mem_cons, List.not_mem_nil, or_false, or_self] at hc
      rw [hc]
      rfl
    · exact h.content c hc

/-! ### Texts as lines -/

/-- A line in the middle of a block. -/
theorem blockBody_false_append {content : List Char} (h : ∀ c ∈ content, isBreak c = false)
    (cs : List Char) : blockBody false (content ++ cs) = content ++ blockBody false cs := by
  induction content with
  | nil => rfl
  | cons c content ih =>
    rw [List.forall_mem_cons] at h
    rw [List.cons_append, blockBody, h.1, ih h.2]
    rfl

/-- A line at the beginning of a block. -/
theorem blockBody_true_append {content : List Char} (h : ∀ c ∈ content, isBreak c = false)
    (hne : content ≠ []) (cs : List Char) :
    blockBody true (content ++ cs) = indentation ++ content ++ blockBody false cs := by
  obtain ⟨c, content, rfl⟩ := List.exists_cons_of_ne_nil hne
  rw [List.forall_mem_cons] at h
  rw [List.cons_append, blockBody, h.1, blockBody_false_append h.2]
  simp

/-- A line break begins a line. -/
theorem blockBody_cons_of_isBreak {c : Char} (h : isBreak c = true) (afterBreak : Bool)
    (cs : List Char) : blockBody afterBreak (c :: cs) = c :: blockBody true cs := by
  rw [blockBody, if_pos h]

/-- Whole lines are indented one by one. -/
theorem blockBody_joinLines_append {lines : List TextLine} (h : ∀ line ∈ lines, line.IsWhole)
    (cs : List Char) : blockBody true (joinLines lines ++ cs) =
      joinLines (lines.map TextLine.indented) ++ blockBody true cs := by
  induction lines with
  | nil => rfl
  | cons line lines ih =>
    rw [List.forall_mem_cons] at h
    obtain ⟨content, e, rfl, hcontent, he⟩ := h.1.exists_eq
    rw [joinLines_cons_append]
    by_cases hne : content = []
    · subst hne
      rw [List.nil_append, blockBody_cons_of_isBreak he, ih h.2]
      rfl
    · rw [blockBody_true_append hcontent hne, blockBody_cons_of_isBreak he, ih h.2]
      simp [joinLines, TextLine.indented, hne]

/-- A text is made of whole lines and of what comes after the last line break. -/
theorem exists_lines_append (cs : List Char) :
    ∃ lines last, (∀ line ∈ lines, TextLine.IsWhole line) ∧ (∀ c ∈ last, isBreak c = false)
      ∧ cs = joinLines lines ++ last := by
  induction cs with
  | nil => exact ⟨[], [], nofun, nofun, rfl⟩
  | cons c cs ih =>
    obtain ⟨lines, last, hlines, hlast, rfl⟩ := ih
    cases hbreak : isBreak c with
    | true =>
      refine ⟨⟨[], some c⟩ :: lines, last, ?_, hlast, rfl⟩
      exact List.forall_mem_cons.mpr ⟨⟨nofun, c, rfl, hbreak⟩, hlines⟩
    | false =>
      cases lines with
      | nil => exact ⟨[], c :: last, nofun, List.forall_mem_cons.mpr ⟨hbreak, hlast⟩, rfl⟩
      | cons line lines =>
        rw [List.forall_mem_cons] at hlines
        refine ⟨⟨c :: line.content, line.ending⟩ :: lines, last, ?_, hlast, rfl⟩
        refine List.forall_mem_cons.mpr ⟨⟨?_, hlines.1.ending⟩, hlines.2⟩
        exact List.forall_mem_cons.mpr ⟨hbreak, hlines.1.content⟩

/-- A text that ends in a line break needs no other end to its last line. -/
theorem lineEnd_concat_of_isBreak {c : Char} (h : isBreak c = true) (cs : List Char) :
    lineEnd (cs ++ [c]) = [] := by
  simp [lineEnd, h]

/-- A text that ends in the middle of a line needs an end to that line. -/
theorem lineEnd_concat_of_not_isBreak {c : Char} (h : isBreak c = false) (cs : List Char) :
    lineEnd (cs ++ [c]) = ['\n'] := by
  simp [lineEnd, h]

/-- Whole lines end in a line break. -/
theorem exists_joinLines_eq_concat {lines : List TextLine} (h : ∀ line ∈ lines, line.IsWhole)
    (hne : lines ≠ []) : ∃ before e, joinLines lines = before ++ [e] ∧ isBreak e = true := by
  obtain ⟨before, line, rfl⟩ := (List.eq_nil_or_concat' lines).resolve_left hne
  obtain ⟨content, e, rfl, -, he⟩ := (h line (by simp)).exists_eq
  exact ⟨joinLines before ++ content, e, by simp [joinLines], he⟩

/-- Whole lines have an end to the last one. -/
theorem lineEnd_joinLines {lines : List TextLine} (h : ∀ line ∈ lines, line.IsWhole)
    (hne : lines ≠ []) : lineEnd (joinLines lines) = [] := by
  obtain ⟨before, e, hjoin, he⟩ := exists_joinLines_eq_concat h hne
  rw [hjoin]
  exact lineEnd_concat_of_isBreak he _

/-- A text with an end to its last line is made of whole lines, and a block of them indented. -/
theorem exists_lines {cs : List Char} (hne : cs ≠ []) :
    ∃ lines, (∀ line ∈ lines, TextLine.IsWhole line) ∧ joinLines lines = cs ++ lineEnd cs
      ∧ blockBody true cs ++ lineEnd cs = joinLines (lines.map TextLine.indented) := by
  obtain ⟨lines, last, hlines, hlast, rfl⟩ := exists_lines_append cs
  rcases List.eq_nil_or_concat' last with rfl | ⟨before, c, rfl⟩
  · rw [List.append_nil] at hne ⊢
    have hsome : lines ≠ [] := by
      rintro rfl
      exact hne rfl
    have hbody := blockBody_joinLines_append hlines []
    rw [List.append_nil] at hbody
    refine ⟨lines, hlines, ?_, ?_⟩
    · rw [lineEnd_joinLines hlines hsome, List.append_nil]
    · rw [lineEnd_joinLines hlines hsome, hbody]
      simp [blockBody]
  · have hend : lineEnd (joinLines lines ++ (before ++ [c])) = ['\n'] := by
      rw [← List.append_assoc]
      exact lineEnd_concat_of_not_isBreak (hlast c (by simp)) _
    have hwhole : TextLine.IsWhole ⟨before ++ [c], some '\n'⟩ := ⟨hlast, '\n', rfl, rfl⟩
    refine ⟨lines ++ [⟨before ++ [c], some '\n'⟩], ?_, ?_, ?_⟩
    · simpa using fun line hline => hline.elim (hlines line) fun e => e ▸ hwhole
    · rw [hend]
      simp [joinLines]
    · rw [hend, blockBody_joinLines_append hlines,
        ← List.append_nil (before ++ [c]), blockBody_true_append hlast (by simp)]
      simp [joinLines, TextLine.indented, blockBody]

/-! ### Reading lines -/

/-- What a block holds, with the line breaks at its end. -/
def BlockText.text (block : BlockText) : List Char :=
  block.value ++ block.lastBreak ++ block.breaks

/-- A block with one more line. -/
def BlockText.take (block : BlockText) (line : TextLine) : BlockText :=
  if line.content.isEmpty then { block with breaks := block.breaks ++ line.ending.toList }
  else
    { value := block.text ++ line.content
      lastBreak := line.ending.toList
      lastIndented := line.content.head?.any isSpace
      breaks := [] }

/-- A line adds its characters to a block. -/
theorem BlockText.text_take (block : BlockText) (line : TextLine) :
    (block.take line).text = block.text ++ (line.content ++ line.ending.toList) := by
  rw [take]
  split
  case isTrue hempty => simp [text, List.isEmpty_iff.mp hempty]
  case isFalse => simp [text]

/-- Lines add their text to a block. -/
theorem BlockText.text_foldl_take (lines : List TextLine) (block : BlockText) :
    (lines.foldl take block).text = block.text ++ joinLines lines := by
  induction lines generalizing block with
  | nil => simp [joinLines]
  | cons line lines ih => simp [ih, text_take, joinLines]

section Lines

variable {rest : List Char}

/-- A line with something in it, behind its indentation, is not passed over as an empty one. -/
theorem emptyLines?_cons {indent : Nat} {line : TextLine} {c : Char} {cs : List Char}
    (hafter : line.content.drop (min indent (indentOf line)) = c :: cs)
    (htab : indent ≤ indentOf line ∨ c ≠ '\t') (lines : List TextLine) :
    emptyLines? indent (line :: lines) = some ([], line :: lines) := by
  have hbad : (decide (min indent (indentOf line) < indent) && (c :: cs).head? == some '\t') =
      false := by
    rw [Bool.and_eq_false_iff]
    rcases htab with hdeep | htab
    · left
      simp [Nat.min_eq_left hdeep]
    · right
      simpa using htab
  rw [emptyLines?, hafter, hbad]
  rfl

/-- How deep an indented line is at least. -/
theorem le_indentOf_indentation_append (content : List Char) (ending : Option Char) :
    2 ≤ indentOf ⟨indentation ++ content, ending⟩ := by
  simp [indentOf, indentation]

/-- What follows the indentation of a line. -/
theorem drop_indentation_append (content : List Char) (ending : Option Char) :
    (indentation ++ content).drop (min 2 (indentOf ⟨indentation ++ content, ending⟩)) =
      content := by
  rw [Nat.min_eq_left (le_indentOf_indentation_append content ending)]
  rfl

/-- A line that begins at the margin has something in it, unless the text is at its end. -/
theorem exists_textLines_eq (hrest : BeginsEntry rest) (hne : rest ≠ []) :
    ∃ c content ending lines, textLines rest = ⟨c :: content, ending⟩ :: lines
      ∧ isSolid c = true := by
  obtain ⟨c, rest, rfl⟩ := List.exists_cons_of_ne_nil hne
  have hsolid := (hrest c rfl).1
  rw [textLines, (isSolid_iff.mp hsolid).2]
  cases textLines rest with
  | nil => exact ⟨c, [], none, [], rfl, hsolid⟩
  | cons line lines => exact ⟨c, line.content, line.ending, lines, rfl, hsolid⟩

/-- A line that begins with a solid character is not indented. -/
theorem indentOf_of_isSolid {c : Char} (h : isSolid c = true) (content : List Char)
    (ending : Option Char) : indentOf ⟨c :: content, ending⟩ = 0 := by
  have hspace : c ≠ ' ' := by
    rintro rfl
    cases h
  simp [indentOf, hspace]

/-- A line that begins at the margin is not passed over as an empty one. -/
theorem emptyLines?_textLines (hrest : BeginsEntry rest) :
    emptyLines? 2 (textLines rest) = some ([], textLines rest) := by
  by_cases hne : rest = []
  · subst hne
    rfl
  · obtain ⟨c, content, ending, lines, hlines, hsolid⟩ := exists_textLines_eq hrest hne
    have htab : c ≠ '\t' := by
      rintro rfl
      cases hsolid
    have hafter : (c :: content).drop (min 2 (indentOf ⟨c :: content, ending⟩)) = c :: content := by
      rw [indentOf_of_isSolid hsolid]
      rfl
    rw [hlines]
    exact emptyLines?_cons hafter (Or.inr htab) lines

/-- A line that begins at the margin belongs to no block. -/
theorem blockLines?_textLines (hrest : BeginsEntry rest) (block : BlockText) (fuel : Nat) :
    blockLines? false 2 block fuel (textLines rest) = some (block, textLines rest) := by
  cases fuel with
  | zero => rfl
  | succ fuel =>
    by_cases hne : rest = []
    · subst hne
      rfl
    · obtain ⟨c, content, ending, lines, hlines, hsolid⟩ := exists_textLines_eq hrest hne
      rw [hlines, blockLines?, belongs, indentOf_of_isSolid hsolid]
      rfl

/-- An indented line goes behind what the block holds. -/
theorem blockLines?_indentation_append {content : List Char} {e : Char} {block : BlockText}
    {fuel : Nat} {lines remaining : List TextLine} {breaks : List Char} (hne : content ≠ [])
    (hempty : emptyLines? 2 lines = some (breaks, remaining)) :
    blockLines? false 2 block (fuel + 1) (⟨indentation ++ content, some e⟩ :: lines) =
      blockLines? false 2 { block.take ⟨content, some e⟩ with breaks } fuel remaining := by
  have hdeep := le_indentOf_indentation_append content (some e)
  have hbelongs : belongs 2 ⟨indentation ++ content, some e⟩ = true := by
    simp [belongs, hdeep]
  have hdrop : (indentation ++ content).drop 2 = content := rfl
  have hfull : content.isEmpty = false := List.isEmpty_eq_false_iff.mpr hne
  rw [blockLines?, if_pos hbelongs, hempty]
  simp only [hdrop, BlockText.take, hfull, BlockText.joint, BlockText.text, Bool.false_and,
    Bool.false_eq_true, if_false, List.append_assoc]

/-- The lines of a block are read one by one, up to a line that begins at the margin: first those
that are passed over as empty, and then the others. -/
theorem exists_emptyLines?_indented (hrest : BeginsEntry rest) {lines : List TextLine}
    (h : ∀ line ∈ lines, line.IsWhole) (block : BlockText) :
    ∃ breaks remaining,
      emptyLines? 2 (lines.map TextLine.indented ++ textLines rest) = some (breaks, remaining)
        ∧ remaining.length ≤ (lines.map TextLine.indented ++ textLines rest).length
        ∧ ∀ fuel, remaining.length < fuel →
          blockLines? false 2 { block with breaks := block.breaks ++ breaks } fuel remaining =
            some (lines.foldl BlockText.take block, textLines rest) := by
  induction lines generalizing block with
  | nil =>
    refine ⟨[], textLines rest, emptyLines?_textLines hrest, Nat.le_refl _, fun fuel _ => ?_⟩
    rw [List.append_nil]
    exact blockLines?_textLines hrest block fuel
  | cons line lines ih =>
    rw [List.forall_mem_cons] at h
    obtain ⟨content, e, rfl, hcontent, he⟩ := h.1.exists_eq
    obtain ⟨breaks, remaining, hempty, hlength, hread⟩ := ih h.2 (block.take ⟨content, some e⟩)
    by_cases hne : content = []
    · subst hne
      refine ⟨e :: breaks, remaining, ?_, Nat.le_succ_of_le hlength, fun fuel hfuel => ?_⟩
      · rw [List.map_cons, List.cons_append]
        simp [TextLine.indented, emptyLines?, indentOf, hempty]
      · have htake : { block.take ⟨[], some e⟩ with
            breaks := (block.take ⟨[], some e⟩).breaks ++ breaks } =
              { block with breaks := block.breaks ++ e :: breaks } := by
          simp [BlockText.take]
        rw [← htake, hread fuel hfuel, List.foldl_cons]
    · have hindented : TextLine.indented ⟨content, some e⟩ = ⟨indentation ++ content, some e⟩ := by
        simp [TextLine.indented, hne]
      obtain ⟨c, cs, hcs⟩ := List.exists_cons_of_ne_nil hne
      rw [List.map_cons, List.cons_append, hindented]
      refine ⟨[], _, emptyLines?_cons ((drop_indentation_append content _).trans hcs)
        (Or.inl (le_indentOf_indentation_append content _)) _, Nat.le_refl _, fun fuel hfuel => ?_⟩
      obtain ⟨fuel, rfl⟩ := Nat.exists_eq_succ_of_ne_zero (Nat.ne_of_gt (Nat.zero_lt_of_lt hfuel))
      have htake : (block.take ⟨content, some e⟩).breaks = [] := by
        simp [BlockText.take, hne]
      have hlater := hread fuel (Nat.lt_of_le_of_lt hlength (Nat.lt_of_succ_lt_succ hfuel))
      rw [htake, List.nil_append] at hlater
      rw [List.append_nil, blockLines?_indentation_append hne hempty, hlater, List.foldl_cons]

end Lines

/-! ### The end of a block -/

/-- The line breaks at the end of a block are kept apart: its value is empty, or else it ends in the
middle of a line, whose end is kept apart as well. -/
structure BlockText.IsSettled (block : BlockText) : Prop where
  breaks : ∀ c ∈ block.breaks, isBreak c = true
  value : (block.value = [] ∧ block.lastBreak = [])
    ∨ ∃ before c e, block.value = before ++ [c] ∧ isBreak c = false ∧ block.lastBreak = [e]
      ∧ isBreak e = true

/-- A whole line leaves the line breaks at the end of a block apart. -/
theorem BlockText.IsSettled.take {block : BlockText} (h : block.IsSettled) {line : TextLine}
    (hline : line.IsWhole) : (block.take line).IsSettled := by
  obtain ⟨content, e, rfl, hcontent, he⟩ := hline.exists_eq
  rw [BlockText.take]
  split
  case isTrue =>
    refine ⟨fun c hc => ?_, h.value⟩
    rcases List.mem_append.mp hc with hc | hc
    · exact h.breaks c hc
    · rw [List.mem_singleton.mp hc]
      exact he
  case isFalse hne =>
    obtain ⟨before, c, rfl⟩ := (List.eq_nil_or_concat' content).resolve_left
      (mt List.isEmpty_iff.mpr hne)
    refine ⟨nofun, Or.inr ⟨block.text ++ before, c, e, ?_, hcontent c (by simp), rfl, he⟩⟩
    exact (List.append_assoc block.text before [c]).symm

/-- Whole lines leave the line breaks at the end of a block apart. -/
theorem BlockText.IsSettled.foldl_take {lines : List TextLine} (hlines : ∀ line ∈ lines, line.IsWhole)
    {block : BlockText} (h : block.IsSettled) : (lines.foldl BlockText.take block).IsSettled := by
  induction lines generalizing block with
  | nil => exact h
  | cons line lines ih =>
    rw [List.forall_mem_cons] at hlines
    exact ih hlines.2 (h.take hlines.1)

/-- A block whose text has a single line break at its end has everything in front of that for its
value. -/
theorem BlockText.IsSettled.eq_of_text_eq {block : BlockText} (h : block.IsSettled)
    {before : List Char} {c e : Char} (htext : block.text = before ++ [c] ++ [e])
    (hc : isBreak c = false) : block.value = before ++ [c] ∧ block.lastBreak = [e] := by
  rcases h.value with ⟨hvalue, hbreak⟩ | ⟨start, d, f, hvalue, -, hbreak, hf⟩
  · rw [text, hvalue, hbreak, List.append_nil, List.nil_append] at htext
    have hlast := h.breaks c (by simp [htext])
    rw [hc] at hlast
    cases hlast
  · rw [text, hbreak, List.append_assoc, List.singleton_append] at htext
    rcases List.eq_nil_or_concat' block.breaks with hnil | ⟨middle, last, hmiddle⟩
    · rw [hnil] at htext
      obtain ⟨hfront, hend⟩ := List.append_inj' htext rfl
      exact ⟨hfront, hbreak.trans hend⟩
    · rw [hmiddle, ← List.cons_append, ← List.append_assoc] at htext
      obtain ⟨hfront, -⟩ := List.append_inj' htext rfl
      have hmem : c ∈ f :: middle := by
        have hlast := congrArg List.getLast? hfront
        rw [List.getLast?_append_of_ne_nil _ (List.cons_ne_nil f middle), List.getLast?_concat]
          at hlast
        exact List.mem_of_getLast? hlast
      have hall : ∀ d ∈ f :: middle, isBreak d = true := by
        refine List.forall_mem_cons.mpr ⟨hf, fun d hd => h.breaks d ?_⟩
        rw [hmiddle]
        exact List.mem_append_left _ hd
      rw [hall c hmem] at hc
      cases hc

/-- The sign of a text that ends in the middle of a line. -/
theorem chompingSign_concat_of_not_isBreak {c : Char} (h : isBreak c = false) (cs : List Char) :
    chompingSign (cs ++ [c]) = ['-'] := by
  rw [chompingSign, List.reverse_concat']
  cases cs.reverse with
  | nil => simp [h]
  | cons d ds => simp [h]

/-- The sign of a text that ends in a line break after something else. -/
theorem chompingSign_concat_of_isBreak {c : Char} (h : isBreak c = true) (d : Char)
    (cs : List Char) : chompingSign (cs ++ [d] ++ [c]) = if isBreak d then ['+'] else [] := by
  rw [chompingSign, List.reverse_concat', List.reverse_concat']
  simp [h]

/-- What the sign for the line breaks at the end stands for. -/
def chompingOf (cs : List Char) : Chomping :=
  match chompingSign cs with
  | ['-'] => .strip
  | ['+'] => .keep
  | _ => .clip

/-- A block that holds a text with an end to its last line gives the text back. -/
theorem BlockText.IsSettled.finish_eq {block : BlockText} (h : block.IsSettled) {cs : List Char}
    (hne : cs ≠ []) (htext : block.text = cs ++ lineEnd cs) :
    block.finish (chompingOf cs) = cs := by
  obtain ⟨before, c, rfl⟩ := (List.eq_nil_or_concat' cs).resolve_left hne
  cases hbreak : isBreak c with
  | false =>
    rw [lineEnd_concat_of_not_isBreak hbreak] at htext
    rw [chompingOf, chompingSign_concat_of_not_isBreak hbreak]
    exact (h.eq_of_text_eq htext hbreak).1
  | true =>
    rw [lineEnd_concat_of_isBreak hbreak, List.append_nil] at htext
    rcases List.eq_nil_or_concat' before with rfl | ⟨before, d, rfl⟩
    · have hsign : chompingSign ([] ++ [c]) = ['+'] := by
        simp [chompingSign, hbreak]
      rw [chompingOf, hsign]
      exact htext
    · rw [chompingOf, chompingSign_concat_of_isBreak hbreak]
      cases hlast : isBreak d with
      | true => exact htext
      | false =>
        obtain ⟨hvalue, hend⟩ := h.eq_of_text_eq htext hlast
        simp only [Bool.false_eq_true, if_false, finish, hvalue, hend]

/-! ### Blocks -/

/-- The indentation that is given in front of a text, if it begins with a blank or a line break. -/
def givenIndent (cs : List Char) : Option Nat :=
  if cs.head?.any isEdge then some 2 else none

/-- The sign for the line breaks at the end is one of three. -/
theorem chompingSign_cases (cs : List Char) :
    chompingSign cs = ['-'] ∨ chompingSign cs = ['+'] ∨ chompingSign cs = [] := by
  rw [chompingSign]
  split
  · exact Or.inl rfl
  · split
    · exact Or.inr (Or.inl rfl)
    · exact Or.inl rfl
  · split
    · exact Or.inl rfl
    · split
      · exact Or.inr (Or.inl rfl)
      · exact Or.inr (Or.inr rfl)

/-- The signs of a block are read back. -/
theorem blockHeader_blockSigns (cs rest : List Char) :
    blockHeader (blockSigns cs ++ '\n' :: rest) =
      (chompingOf cs, givenIndent cs, '\n' :: rest) := by
  rw [blockSigns, givenIndent, chompingOf]
  rcases chompingSign_cases cs with h | h | h
  all_goals
    rw [h]
    cases cs.head?.any isEdge with
    | true => rfl
    | false => rfl

/-- The first line shows how deep the lines are indented, if it begins with something. -/
theorem leadingIndent?_indentation_append {c : Char} (hc : isSolid c = true) (content : List Char)
    (ending : Option Char) (lines : List TextLine) :
    leadingIndent? 0 (⟨indentation ++ c :: content, ending⟩ :: lines) = some 2 := by
  have hspace : c ≠ ' ' := by
    rintro rfl
    cases hc
  have htab : c ≠ '\t' := by
    rintro rfl
    cases hc
  have hindent : indentOf ⟨indentation ++ c :: content, ending⟩ = 2 := by
    simp [indentOf, indentation, hspace]
  rw [leadingIndent?, hindent]
  simp [indentation, htab]

/-- The lines of a block are found to be indented by two blanks. -/
theorem blockIndent?_indented {lines : List TextLine} (hlines : ∀ line ∈ lines, line.IsWhole)
    {cs more : List Char} (hne : cs ≠ []) (hprintable : ∀ c ∈ cs, isPrintable c = true)
    (hjoin : joinLines lines = cs ++ more) (rest : List TextLine) :
    blockIndent? 0 (givenIndent cs) (lines.map TextLine.indented ++ rest) = some 2 := by
  obtain ⟨c, cs, rfl⟩ := List.exists_cons_of_ne_nil hne
  cases hedge : isEdge c with
  | true =>
    have hgiven : givenIndent (c :: cs) = some 2 := by simp [givenIndent, hedge]
    rw [hgiven]
    rfl
  | false =>
    have hgiven : givenIndent (c :: cs) = none := by simp [givenIndent, hedge]
    simp only [isEdge, Bool.or_eq_false_iff, beq_eq_false_iff_ne] at hedge
    have hsolid := isSolid_of_isPrintable (hprintable c List.mem_cons_self) hedge.1 hedge.2
    cases lines with
    | nil => cases hjoin
    | cons line lines =>
      obtain ⟨content, e, rfl, -, he⟩ := (hlines line List.mem_cons_self).exists_eq
      have hfirst := joinLines_cons_append content e lines []
      rw [List.append_nil, hjoin] at hfirst
      cases content with
      | nil =>
        obtain ⟨rfl, -⟩ := List.cons.inj hfirst
        rw [hedge.2] at he
        cases he
      | cons d content =>
        obtain ⟨rfl, -⟩ := List.cons.inj hfirst
        have hindented : TextLine.indented ⟨c :: content, some e⟩ =
            ⟨indentation ++ c :: content, some e⟩ := rfl
        rw [hgiven, List.map_cons, List.cons_append, hindented, blockIndent?,
          leadingIndent?_indentation_append hsolid]
        rfl

/-- Lines stay whole when they are indented. -/
theorem isWhole_of_mem_map_indented {lines : List TextLine} (h : ∀ line ∈ lines, line.IsWhole) :
    ∀ line ∈ lines.map TextLine.indented, line.IsWhole := by
  intro line hline
  obtain ⟨original, horiginal, rfl⟩ := List.mem_map.mp hline
  exact (h original horiginal).indented

/-- A block ends in a line break. -/
theorem exists_blockBody_eq_concat {cs : List Char} (hne : cs ≠ []) :
    ∃ before e, blockBody true cs ++ lineEnd cs = before ++ [e] ∧ isBreak e = true := by
  obtain ⟨lines, hlines, hjoin, hbody⟩ := exists_lines hne
  have hsome : lines.map TextLine.indented ≠ [] := by
    rintro hnil
    rw [List.map_eq_nil_iff.mp hnil] at hjoin
    exact hne (List.append_eq_nil_iff.mp hjoin.symm).1
  rw [hbody]
  exact exists_joinLines_eq_concat (isWhole_of_mem_map_indented hlines) hsome

/-- The lines of a block are printable. -/
theorem isPrintable_of_mem_blockBody {cs : List Char} (hprintable : ∀ c ∈ cs, isPrintable c = true)
    (afterBreak : Bool) : ∀ c ∈ blockBody afterBreak cs, isPrintable c = true := by
  induction cs generalizing afterBreak with
  | nil => nofun
  | cons c cs ih =>
    rw [List.forall_mem_cons] at hprintable
    rw [blockBody]
    split
    · exact List.forall_mem_cons.mpr ⟨hprintable.1, ih hprintable.2 true⟩
    · exact List.forall_mem_append.mpr ⟨isPrintable_of_mem_indentation afterBreak,
        List.forall_mem_cons.mpr ⟨hprintable.1, ih hprintable.2 false⟩⟩

/-- The signs of a block are printable. -/
theorem isPrintable_of_mem_blockSigns (cs : List Char) :
    ∀ c ∈ blockSigns cs, isPrintable c = true := by
  have hdigit : ∀ edge : Bool, (if edge then ['2'] else []).all isPrintable = true := by
    decide
  refine List.forall_mem_append.mpr ⟨List.all_eq_true.mp (hdigit _), ?_⟩
  rcases chompingSign_cases cs with h | h | h
  · rw [h]
    exact List.all_eq_true.mp rfl
  · rw [h]
    exact List.all_eq_true.mp rfl
  · rw [h]
    nofun

/-- **A text in a block is read back.** -/
theorem block?_blockSigns {cs rest : List Char} (hne : cs ≠ [])
    (hprintable : ∀ c ∈ cs, isPrintable c = true) (hrest : BeginsEntry rest) :
    block? false 0 (blockSigns cs ++ '\n' :: (blockBody true cs ++ lineEnd cs ++ rest)) =
      some (cs, rest) := by
  obtain ⟨lines, hlines, hjoin, hbody⟩ := exists_lines hne
  have hindented := isWhole_of_mem_map_indented hlines
  obtain ⟨breaks, remaining, hempty, -, hread⟩ := exists_emptyLines?_indented hrest hlines {}
  have hsettled : (lines.foldl BlockText.take {}).IsSettled :=
    BlockText.IsSettled.foldl_take hlines ⟨nofun, Or.inl ⟨rfl, rfl⟩⟩
  have htext : (lines.foldl BlockText.take {}).text = cs ++ lineEnd cs :=
    (BlockText.text_foldl_take lines {}).trans hjoin
  have hfinish := hsettled.finish_eq hne htext
  have hindent := blockIndent?_indented hlines hne hprintable hjoin (textLines rest)
  have hlast := hread (remaining.length + 1) (Nat.lt_succ_self _)
  rw [List.nil_append] at hlast
  rw [block?, blockHeader_blockSigns]
  have hcomment : ∀ more, dropComment ('\n' :: more) = '\n' :: more := fun _ => rfl
  have hfeed : isBreak '\n' = true := rfl
  simp only [hcomment, hfeed, if_true, blockBody?, hbody, textLines_joinLines_append hindented,
    hindent, hempty, hlast, hfinish, joinLines_textLines, Option.bind_eq_bind, Option.bind_some,
    Option.pure_def]

end BenchCompare.Yaml
