import BenchCompare.Proofs.Yaml.Text
import Mathlib.Data.Nat.Digits.Defs

/-!
# Quoted texts are read back

A text in single quotes may hold line separators, but no line feed; the lines after the first one are
indented, and the reader takes the indentation for blanks after a line break, which do not count
(`singleQuoted?_singleBody`).  Between double quotes everything that is no plain character is
escaped, so no line is ever broken there (`doubleQuoted?_flatMap_doubleChar`).

The reader keeps blanks and line breaks back in a `Gap` until it knows what follows.  Both proofs go
along the text for every gap that nothing can be lost from.
-/

namespace BenchCompare.Yaml

/-! ### Gaps -/

/-- A gap from which nothing is lost in front of a text: no line break follows blanks, no blank
follows a line break, and the first line break is no line feed. -/
def Gap.Keeps (cs : List Char) : Gap → Prop
  | .none => True
  | .spaces _ => ∀ c ∈ cs.head?, isBreak c = false
  | .broken first _ => (∃ c, first = some c ∧ c ≠ '\n') ∧ ∀ c ∈ cs.head?, c ≠ ' '

/-- A blank is kept if it stands within a line. -/
theorem Gap.value_addSpace {gap : Gap} (h : gap.isBroken = false) (c : Char) :
    (gap.addSpace c).value = gap.value ++ [c] := by
  cases gap with
  | none => rfl
  | spaces cs => rfl
  | broken first more => cases h

/-- The gap stays within the line if a blank is added to it. -/
theorem Gap.isBroken_addSpace (gap : Gap) (c : Char) :
    (gap.addSpace c).isBroken = gap.isBroken := by
  cases gap <;> rfl

/-- A line is broken in the gap once a line break is added to it. -/
theorem Gap.isBroken_addBreak (gap : Gap) (c : Char) : (gap.addBreak c).isBroken = true := by
  cases gap <;> rfl

/-- A line break other than a line feed is kept if no blank is in front of it. -/
theorem Gap.Keeps.value_addBreak {gap : Gap} {c : Char} {cs : List Char}
    (h : gap.Keeps (c :: cs)) (hbreak : isBreak c = true) (hfeed : c ≠ '\n') :
    (gap.addBreak c).value = gap.value ++ [c] := by
  cases gap with
  | none => simp [addBreak, value, hfeed]
  | spaces spaces =>
    have hc : isBreak c = false := h c rfl
    rw [hbreak] at hc
    cases hc
  | broken first more =>
    obtain ⟨⟨first, rfl, hfirst⟩, -⟩ := h
    simp [addBreak, value, hfirst]

/-- A gap within a line takes a space, unless a line break comes next. -/
theorem Gap.Keeps.addSpace {gap : Gap} {cs : List Char} (h : gap.Keeps (' ' :: cs))
    (hnext : ∀ c ∈ cs.head?, isBreak c = false) : (gap.addSpace ' ').Keeps cs := by
  cases gap with
  | none => exact hnext
  | spaces spaces => exact hnext
  | broken first more => exact absurd rfl (h.2 ' ' rfl)

/-- A gap takes a line break other than a line feed, unless a space comes next. -/
theorem Gap.Keeps.addBreak {gap : Gap} {c : Char} {cs : List Char} (h : gap.Keeps (c :: cs))
    (hfeed : c ≠ '\n') (hnext : ∀ d ∈ cs.head?, d ≠ ' ') : (gap.addBreak c).Keeps cs := by
  cases gap with
  | none => exact ⟨⟨c, rfl, hfeed⟩, hnext⟩
  | spaces spaces => exact ⟨⟨c, rfl, hfeed⟩, hnext⟩
  | broken first more => exact ⟨h.1, hnext⟩

/-- In front of a space no line was broken in the gap. -/
theorem Gap.Keeps.isBroken_of_space {gap : Gap} {cs : List Char} (h : gap.Keeps (' ' :: cs)) :
    gap.isBroken = false := by
  cases gap with
  | none => rfl
  | spaces spaces => rfl
  | broken first more => exact absurd rfl (h.2 ' ' rfl)

/-! ### Single quotes -/

section Single

variable {gap : Gap} {c : Char} {cs : List Char}

/-- A line break goes into the gap, unless a document ends there. -/
theorem singleQuoted?_cons_of_isBreak (hbreak : isBreak c = true)
    (hmarker : atDocumentMarker cs = false) :
    singleQuoted? gap (c :: cs) = singleQuoted? (gap.addBreak c) cs := by
  have hquote : c ≠ '\'' := ne_of_isBreak hbreak (by decide)
  rw [singleQuoted?.eq_def]
  simp [hquote, hbreak, hmarker]

/-- A space goes into the gap. -/
theorem singleQuoted?_cons_space :
    singleQuoted? gap (' ' :: cs) = singleQuoted? (gap.addSpace ' ') cs := by
  rw [singleQuoted?.eq_def]
  rfl

/-- A solid character ends the gap and stands for itself. -/
theorem singleQuoted?_cons_of_isSolid (hsolid : isSolid c = true) (hquote : c ≠ '\'') :
    singleQuoted? gap (c :: cs) = pushAll? (gap.value ++ [c]) (singleQuoted? .none cs) := by
  obtain ⟨hspace, hbreak⟩ := isSolid_iff.mp hsolid
  rw [singleQuoted?.eq_def]
  simp [hquote, hbreak, hspace]

/-- Two quotes end the gap and stand for one. -/
theorem singleQuoted?_quotes :
    singleQuoted? gap ('\'' :: '\'' :: cs) =
      pushAll? (gap.value ++ ['\'']) (singleQuoted? .none cs) := by
  rw [singleQuoted?]

/-- A single quote ends the text. -/
theorem singleQuoted?_quote (hrest : cs.head? ≠ some '\'') :
    singleQuoted? gap ('\'' :: cs) = some (gap.value, cs) := by
  rw [singleQuoted?]
  · rfl
  · rintro rest - rfl
    exact hrest rfl

/-- The indentation after a line break does not count. -/
theorem singleQuoted?_indentation_append :
    singleQuoted? gap ((if gap.isBroken then indentation else []) ++ cs) =
      singleQuoted? gap cs := by
  cases gap with
  | none => rfl
  | spaces spaces => rfl
  | broken first more =>
    have hindentation : (if (Gap.broken first more).isBroken then indentation else []) =
        [' ', ' '] := rfl
    rw [hindentation, List.cons_append, singleQuoted?_cons_space, List.cons_append,
      singleQuoted?_cons_space]
    rfl

/-- After a line break a quoted text goes on with a break or with blanks, so no document ends
there. -/
theorem atDocumentMarker_singleBody (cs rest : List Char) :
    atDocumentMarker (singleBody true cs ++ '\'' :: rest) = false := by
  cases cs with
  | nil => exact atDocumentMarker_cons (by decide) (by decide) _
  | cons c cs =>
    cases hbreak : isBreak c with
    | true =>
      rw [singleBody, if_pos hbreak]
      exact atDocumentMarker_cons (ne_of_isBreak hbreak (by decide))
        (ne_of_isBreak hbreak (by decide)) _
    | false =>
      rw [singleBody, hbreak]
      exact atDocumentMarker_cons (by decide) (by decide) _

/-- A character that breaks no line is read after its indentation. -/
theorem singleQuoted?_singleBody_cons (hbreak : isBreak c = false) (rest : List Char) :
    singleQuoted? gap (singleBody gap.isBroken (c :: cs) ++ rest) =
      singleQuoted? gap
        ((if c = '\'' then ['\'', '\''] else [c]) ++ (singleBody false cs ++ rest)) := by
  have hbody : singleBody gap.isBroken (c :: cs) =
      (if gap.isBroken then indentation else []) ++ (if c = '\'' then ['\'', '\''] else [c])
        ++ singleBody false cs := by
    rw [singleBody, hbreak]
    rfl
  rw [hbody, List.append_assoc, List.append_assoc, singleQuoted?_indentation_append]

/-- What is read after a gap that nothing is lost from. -/
theorem singleQuoted?_singleBody_of_keeps {rest : List Char} (hrest : rest.head? ≠ some '\'')
    (hprintable : ∀ c ∈ cs, isPrintable c = true) (hfeed : '\n' ∉ cs)
    (hspaceBreak : hasSpaceBreak cs = false) (hbreakSpace : hasBreakSpace cs = false)
    (hgap : gap.Keeps cs) :
    singleQuoted? gap (singleBody gap.isBroken cs ++ '\'' :: rest) =
      some (gap.value ++ cs, rest) := by
  induction cs generalizing gap with
  | nil => rw [singleBody, singleQuoted?_indentation_append, singleQuoted?_quote hrest,
      List.append_nil]
  | cons c cs ih =>
    rw [List.forall_mem_cons] at hprintable
    rw [List.mem_cons, not_or] at hfeed
    obtain ⟨hspaceNext, hspaceBreak⟩ := anyNeighbours_cons_eq_false.mp hspaceBreak
    obtain ⟨hbreakNext, hbreakSpace⟩ := anyNeighbours_cons_eq_false.mp hbreakSpace
    have hnext := fun {gap : Gap} => @ih gap hprintable.2 hfeed.2 hspaceBreak hbreakSpace
    have hnone : singleQuoted? .none (singleBody false cs ++ '\'' :: rest) = some (cs, rest) :=
      hnext trivial
    cases hbreak : isBreak c with
    | true =>
      have hkeeps : (gap.addBreak c).Keeps cs := hgap.addBreak (Ne.symm hfeed.1) fun d hd => by
        simpa [hbreak] using hbreakNext d hd
      have hread := hnext hkeeps
      rw [Gap.isBroken_addBreak, hgap.value_addBreak hbreak (Ne.symm hfeed.1)] at hread
      rw [singleBody, if_pos hbreak, List.cons_append,
        singleQuoted?_cons_of_isBreak hbreak (atDocumentMarker_singleBody cs rest), hread,
        List.append_assoc, List.singleton_append]
    | false =>
      rw [singleQuoted?_singleBody_cons hbreak]
      by_cases hquote : c = '\''
      · subst hquote
        rw [if_pos rfl, List.cons_append, List.singleton_append, singleQuoted?_quotes, hnone]
        simp [pushAll?]
      by_cases hspace : c = ' '
      · subst hspace
        have hunbroken := hgap.isBroken_of_space
        have hkeeps : (gap.addSpace ' ').Keeps cs := hgap.addSpace fun d hd => by
          simpa using hspaceNext d hd
        have hread := hnext hkeeps
        rw [Gap.isBroken_addSpace, hunbroken, Gap.value_addSpace hunbroken] at hread
        rw [if_neg (by decide), List.singleton_append, singleQuoted?_cons_space, hread,
          List.append_assoc, List.singleton_append]
      · have hsolid : isSolid c = true := isSolid_of_isPrintable hprintable.1 hspace hbreak
        rw [if_neg hquote, List.singleton_append, singleQuoted?_cons_of_isSolid hsolid hquote, hnone]
        simp [pushAll?]

/-- The indentation is printable. -/
theorem isPrintable_of_mem_indentation (afterBreak : Bool) :
    ∀ c ∈ (if afterBreak then indentation else []), isPrintable c = true := by
  cases afterBreak with
  | true => exact List.all_eq_true.mp rfl
  | false => nofun

/-- Between single quotes there are printable characters only. -/
theorem isPrintable_of_mem_singleBody (hprintable : ∀ c ∈ cs, isPrintable c = true)
    (afterBreak : Bool) : ∀ c ∈ singleBody afterBreak cs, isPrintable c = true := by
  induction cs generalizing afterBreak with
  | nil => exact isPrintable_of_mem_indentation afterBreak
  | cons c cs ih =>
    rw [List.forall_mem_cons] at hprintable
    have hquoted : ∀ d ∈ (if c = '\'' then ['\'', '\''] else [c]), isPrintable d = true := by
      split_ifs
      · exact List.all_eq_true.mp rfl
      · exact List.forall_mem_singleton.mpr hprintable.1
    rw [singleBody]
    split
    · exact List.forall_mem_cons.mpr ⟨hprintable.1, ih hprintable.2 true⟩
    · have hfront := List.forall_mem_append.mpr
        ⟨isPrintable_of_mem_indentation afterBreak, hquoted⟩
      exact List.forall_mem_append.mpr ⟨hfront, ih hprintable.2 false⟩

/-- **A text in single quotes is read back.** -/
theorem singleQuoted?_singleBody {rest : List Char} (hrest : rest.head? ≠ some '\'')
    (hallowed : singleAllowed cs = true) (hfeed : '\n' ∉ cs) :
    singleQuoted? .none (singleBody false cs ++ '\'' :: rest) = some (cs, rest) := by
  simp only [singleAllowed, Bool.and_eq_true, List.all_eq_true, Bool.not_eq_true'] at hallowed
  obtain ⟨⟨hprintable, hspaceBreak⟩, hbreakSpace⟩ := hallowed
  exact singleQuoted?_singleBody_of_keeps hrest hprintable hfeed hspaceBreak hbreakSpace trivial

end Single

/-! ### Hexadecimal digits -/

/-- The digits of a number lead from zero to the number. -/
theorem hexNumber?_toDigits (n : Nat) :
    hexNumber? ((Nat.toDigits 16 n).map Char.toUpper) = some n := by
  have hdigit : ∀ d < 16, Json.hexValue? (Nat.digitChar d).toUpper = some d := by decide
  induction n using Nat.strong_induction_on with
  | _ n ih =>
    rcases Nat.lt_or_ge n 16 with hlt | hge
    · rw [Nat.toDigits_of_lt_base hlt]
      simp [hexNumber?, hdigit n hlt]
    · have hfront := ih (n / 16) (Nat.div_lt_self (Nat.lt_of_lt_of_le (by decide) hge) (by decide))
      rw [hexNumber?] at hfront
      rw [Nat.toDigits_of_base_le (by decide) hge, List.map_append, hexNumber?, List.foldlM_append,
        hfront]
      simp [hdigit _ (Nat.mod_lt n (by decide)), Nat.div_add_mod]

/-- Zeros in front of digits count for nothing. -/
theorem hexNumber?_replicate_append (k : Nat) (digits : List Char) :
    hexNumber? (List.replicate k '0' ++ digits) = hexNumber? digits := by
  induction k with
  | zero => rfl
  | succ k ih =>
    rw [List.replicate_succ, List.cons_append, hexNumber?, List.foldlM_cons]
    exact ih

/-- A character is read back from the digits of its code point. -/
theorem hexChar?_hexDigits (width : Nat) (c : Char) :
    hexChar? (hexDigits width c.toNat) = some c := by
  have hvalid : c.toNat.isValidChar := c.valid
  rw [hexChar?, hexDigits, hexNumber?_replicate_append, hexNumber?_toDigits, Option.bind_some,
    codePoint?, if_pos hvalid, Char.ofNat_toNat]

/-- A number is filled up to its width. -/
theorem length_hexDigits {width n : Nat} (hwidth : 0 < width) (h : n < 16 ^ width) :
    (hexDigits width n).length = width := by
  have hle : (Nat.toDigits 16 n).length ≤ width :=
    (Nat.length_toDigits_le_iff (by decide) hwidth).mpr h
  simp only [hexDigits, List.length_append, List.length_replicate, List.length_map]
  omega

/-- Hexadecimal digits are printable. -/
theorem isPrintable_of_mem_hexDigits (width n : Nat) :
    ∀ c ∈ hexDigits width n, isPrintable c = true := by
  have hdigit : ∀ d < 16, isPrintable (Nat.digitChar d).toUpper = true := by decide
  have hdigits : ∀ c ∈ (Nat.toDigits 16 n).map Char.toUpper, isPrintable c = true := by
    induction n using Nat.strong_induction_on with
    | _ n ih =>
      rcases Nat.lt_or_ge n 16 with hlt | hge
      · rw [Nat.toDigits_of_lt_base hlt]
        exact List.forall_mem_singleton.mpr (hdigit n hlt)
      · rw [Nat.toDigits_of_base_le (by decide) hge, List.map_append]
        refine List.forall_mem_append.mpr ⟨ih (n / 16) (Nat.div_lt_self
          (Nat.lt_of_lt_of_le (by decide) hge) (by decide)), ?_⟩
        exact List.forall_mem_singleton.mpr (hdigit _ (Nat.mod_lt n (by decide)))
  refine List.forall_mem_append.mpr ⟨fun c hc => ?_, hdigits⟩
  rw [List.eq_of_mem_replicate hc]
  decide

/-! ### Double quotes -/

/-- The letter after a backslash stands for its character, and is none that introduces a code
point. -/
theorem escaped?_of_escapeLetter? {n : Nat} {letter : Char} (h : escapeLetter? n = some letter) :
    escaped? letter = some (Char.ofNat n) ∧ isPrintable letter = true ∧ isBreak letter = false
      ∧ letter ≠ 'x' ∧ letter ≠ 'u' ∧ letter ≠ 'U' := by
  obtain ⟨before, after, hlist, -⟩ := List.lookup_eq_some_iff.mp h
  have hmem : (n, letter) ∈ before ++ (n, letter) :: after := List.mem_append_cons_self
  rw [← hlist] at hmem
  have htable : ∀ entry ∈ [(0x00, '0'), (0x07, 'a'), (0x08, 'b'), (0x09, 't'), (0x0A, 'n'),
      (0x0B, 'v'), (0x0C, 'f'), (0x0D, 'r'), (0x1B, 'e'), (0x22, '"'), (0x5C, '\\'), (0x85, 'N'),
      (0x2028, 'L'), (0x2029, 'P')], escaped? entry.2 = some (Char.ofNat entry.1)
        ∧ isPrintable entry.2 = true ∧ isBreak entry.2 = false ∧ entry.2 ≠ 'x' ∧ entry.2 ≠ 'u'
        ∧ entry.2 ≠ 'U' := by
    decide
  exact htable _ hmem

section Double

variable {gap : Gap} {c : Char} {cs : List Char}

/-- A letter after a backslash ends the gap and stands for its character. -/
theorem doubleQuoted?_letter {letter : Char} (h : escapeLetter? c.toNat = some letter) :
    doubleQuoted? gap ('\\' :: letter :: cs) =
      pushAll? (gap.value ++ [c]) (doubleQuoted? .none cs) := by
  obtain ⟨hescaped, -, hbreak, hx, hu, hlarge⟩ := escaped?_of_escapeLetter? h
  rw [Char.ofNat_toNat] at hescaped
  rw [doubleQuoted?, hbreak, hescaped]
  · rfl
  · exact fun _ _ _ e _ => hx e
  · exact fun _ _ _ _ _ e _ => hu e
  · exact fun _ _ _ _ _ _ _ _ _ e _ => hlarge e

/-- The digits of a code point after a backslash end the gap and stand for the character. -/
theorem doubleQuoted?_digits {mark : Char} {width : Nat}
    (hmark : (mark, width) ∈ [('x', 2), ('u', 4), ('U', 8)]) (h : c.toNat < 16 ^ width) :
    doubleQuoted? gap ('\\' :: mark :: (hexDigits width c.toNat ++ cs)) =
      pushAll? (gap.value ++ [c]) (doubleQuoted? .none cs) := by
  have hchar := hexChar?_hexDigits width c
  have hlength : 0 < width → (hexDigits width c.toNat).length = width := fun hwidth =>
    length_hexDigits hwidth h
  generalize hexDigits width c.toNat = digits at hchar hlength
  simp only [List.mem_cons, Prod.mk.injEq, List.not_mem_nil, or_false] at hmark
  rcases hmark with ⟨rfl, rfl⟩ | ⟨rfl, rfl⟩ | ⟨rfl, rfl⟩
  · match digits, hlength (by decide) with
    | [_, _], _ => simp [doubleQuoted?, hchar, pushChar?]
  · match digits, hlength (by decide) with
    | [_, _, _, _], _ => simp [doubleQuoted?, hchar, pushChar?]
  · match digits, hlength (by decide) with
    | [_, _, _, _, _, _, _, _], _ => simp [doubleQuoted?, hchar, pushChar?]

/-- What is written after a backslash ends the gap and stands for its character. -/
theorem doubleQuoted?_escape_append :
    doubleQuoted? gap ('\\' :: (escape c ++ cs)) =
      pushAll? (gap.value ++ [c]) (doubleQuoted? .none cs) := by
  rw [escape]
  cases hletter : escapeLetter? c.toNat with
  | some letter => exact doubleQuoted?_letter hletter
  | none =>
    have hbound : c.toNat < 16 ^ 8 := by
      have hvalid := c.valid
      simp [UInt32.isValidChar, Nat.isValidChar] at hvalid
      have : c.toNat = c.val.toNat := rfl
      omega
    split_ifs with hbyte hword
    · exact doubleQuoted?_digits (by decide) (Nat.lt_succ_of_le hbyte)
    · exact doubleQuoted?_digits (by decide) (Nat.lt_succ_of_le hword)
    · exact doubleQuoted?_digits (by decide) hbound

/-- A double quote ends the text. -/
theorem doubleQuoted?_quote : doubleQuoted? gap ('"' :: cs) = some (gap.value, cs) := by
  rw [doubleQuoted?]
  · rfl
  all_goals simp

/-- A space goes into the gap. -/
theorem doubleQuoted?_cons_space :
    doubleQuoted? gap (' ' :: cs) = doubleQuoted? (gap.addSpace ' ') cs := by
  rw [doubleQuoted?]
  · rfl
  all_goals simp

/-- A solid character that needs no escape ends the gap and stands for itself. -/
theorem doubleQuoted?_cons_of_isSolid (hsolid : isSolid c = true) (hquote : c ≠ '"')
    (hbackslash : c ≠ '\\') :
    doubleQuoted? gap (c :: cs) = pushAll? (gap.value ++ [c]) (doubleQuoted? .none cs) := by
  obtain ⟨hspace, hbreak⟩ := isSolid_iff.mp hsolid
  rw [doubleQuoted?]
  · simp [hquote, hbreak, hspace]
  · exact fun _ _ _ e _ => hbackslash e
  · exact fun _ _ _ _ _ e _ => hbackslash e
  · exact fun _ _ _ _ _ _ _ _ _ e _ => hbackslash e
  · exact fun _ _ e _ => hbackslash e

/-- What is read after a gap within the line. -/
theorem doubleQuoted?_flatMap_of_isBroken_eq_false (rest : List Char)
    (hgap : gap.isBroken = false) :
    doubleQuoted? gap (cs.flatMap doubleChar ++ '"' :: rest) = some (gap.value ++ cs, rest) := by
  induction cs generalizing gap with
  | nil => rw [List.flatMap_nil, List.nil_append, doubleQuoted?_quote, List.append_nil]
  | cons c cs ih =>
    have hnone : doubleQuoted? .none (cs.flatMap doubleChar ++ '"' :: rest) = some (cs, rest) :=
      ih rfl
    rw [List.flatMap_cons, List.append_assoc, doubleChar]
    split_ifs with hplain
    · simp only [Bool.and_eq_true, Bool.not_eq_true', decide_eq_true_eq] at hplain
      obtain ⟨⟨⟨hprintable, hbreak⟩, hquote⟩, hbackslash⟩ := hplain
      by_cases hspace : c = ' '
      · subst hspace
        have hread := @ih (gap.addSpace ' ') ((gap.isBroken_addSpace ' ').trans hgap)
        rw [Gap.value_addSpace hgap] at hread
        rw [List.singleton_append, doubleQuoted?_cons_space, hread, List.append_assoc,
          List.singleton_append]
      · have hsolid : isSolid c = true := isSolid_of_isPrintable hprintable hspace hbreak
        rw [List.singleton_append, doubleQuoted?_cons_of_isSolid hsolid hquote hbackslash, hnone]
        simp [pushAll?]
    · rw [List.cons_append, doubleQuoted?_escape_append, hnone]
      simp [pushAll?]

/-- What is written after a backslash is printable. -/
theorem isPrintable_of_mem_escape (c : Char) : ∀ d ∈ escape c, isPrintable d = true := by
  rw [escape]
  cases hletter : escapeLetter? c.toNat with
  | some letter => exact List.forall_mem_singleton.mpr (escaped?_of_escapeLetter? hletter).2.1
  | none =>
    simp only
    split_ifs
    · exact List.forall_mem_cons.mpr ⟨by decide, isPrintable_of_mem_hexDigits 2 c.toNat⟩
    · exact List.forall_mem_cons.mpr ⟨by decide, isPrintable_of_mem_hexDigits 4 c.toNat⟩
    · exact List.forall_mem_cons.mpr ⟨by decide, isPrintable_of_mem_hexDigits 8 c.toNat⟩

/-- Between double quotes there are printable characters only. -/
theorem isPrintable_of_mem_doubleChar (c : Char) : ∀ d ∈ doubleChar c, isPrintable d = true := by
  rw [doubleChar]
  split_ifs with hplain
  · simp only [Bool.and_eq_true] at hplain
    exact List.forall_mem_singleton.mpr hplain.1.1.1
  · exact List.forall_mem_cons.mpr ⟨by decide, isPrintable_of_mem_escape c⟩

/-- **A text in double quotes is read back.** -/
theorem doubleQuoted?_flatMap_doubleChar (cs rest : List Char) :
    doubleQuoted? .none (cs.flatMap doubleChar ++ '"' :: rest) = some (cs, rest) :=
  doubleQuoted?_flatMap_of_isBroken_eq_false rest rfl

end Double

end BenchCompare.Yaml
