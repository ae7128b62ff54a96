import BenchCompare.Text.Basic
import Mathlib.Data.List.DropRight

/-!
# Laws of trimming and cutting

How the operations on blanks act on texts that are put together from parts.  Cutting into pieces
turns the mark into the end of one piece and the beginning of the next (`pieces_append_cons`), so
the words of a text are the words of its parts wherever a blank stands between them
(`words_append_cons`), and blanks in front of a text change neither its words nor its trimmed text
(`words_blanks_append`, `IsTrimmed.trim_blanks_append`).

A *word* is a non-empty text without blanks; a word is its own only word (`IsWord.words_eq`).
-/

namespace BenchCompare.Text

/-- A non-empty text without blanks. -/
structure IsWord (cs : List Char) : Prop where
  ne_nil : cs ≠ []
  blankFree : ∀ c ∈ cs, isBlank c = false

/-- A text is a word if running through its characters finds one, and no blank. -/
theorem isWord_iff {cs : List Char} :
    IsWord cs ↔ cs.isEmpty = false ∧ cs.any isBlank = false := by
  rw [List.isEmpty_eq_false_iff, List.any_eq_false]
  simp only [Bool.not_eq_true]
  exact ⟨fun h => ⟨h.ne_nil, h.blankFree⟩, fun h => ⟨h.1, h.2⟩⟩

instance (cs : List Char) : Decidable (IsWord cs) :=
  decidable_of_iff _ isWord_iff.symm

/-- A text of blanks, possibly empty. -/
def IsBlanks (cs : List Char) : Prop :=
  ∀ c ∈ cs, isBlank c = true

/-! ### Pieces -/

/-- There is always a first piece. -/
theorem pieces_ne_nil (sep : Char → Bool) (cs : List Char) : pieces sep cs ≠ [] := by
  induction cs with
  | nil => simp [pieces]
  | cons c cs ih =>
    rw [pieces]
    split
    · simp
    · split <;> simp

/-- A character that is no mark begins the first piece. -/
theorem pieces_cons_of_not_sep {sep : Char → Bool} {c : Char} (hc : sep c = false)
    {cs first : List Char} {rest : List (List Char)} (h : pieces sep cs = first :: rest) :
    pieces sep (c :: cs) = (c :: first) :: rest := by
  simp [pieces, hc, h]

/-- A mark ends one piece and begins another. -/
theorem pieces_append_cons {sep : Char → Bool} {c : Char} (hc : sep c = true)
    (cs ds : List Char) : pieces sep (cs ++ c :: ds) = pieces sep cs ++ pieces sep ds := by
  induction cs with
  | nil => simp [pieces, hc]
  | cons d cs ih =>
    cases hd : sep d with
    | true => simp [pieces, hd, ih]
    | false =>
      obtain ⟨first, rest, h⟩ := List.exists_cons_of_ne_nil (pieces_ne_nil sep cs)
      have hrest : pieces sep (cs ++ c :: ds) = first :: (rest ++ pieces sep ds) := by
        rw [ih, h, List.cons_append]
      rw [List.cons_append, pieces_cons_of_not_sep hd h, pieces_cons_of_not_sep hd hrest]
      rfl

/-- A text without marks is one piece. -/
theorem pieces_of_forall_not_sep {sep : Char → Bool} {cs : List Char}
    (h : ∀ c ∈ cs, sep c = false) : pieces sep cs = [cs] := by
  induction cs with
  | nil => rfl
  | cons c cs ih =>
    exact pieces_cons_of_not_sep (h c List.mem_cons_self)
      (ih fun d hd => h d (List.mem_cons_of_mem c hd))

/-- A text in which a mark does not occur is one piece. -/
theorem pieces_of_not_mem {mark : Char} {cs : List Char} (h : mark ∉ cs) :
    pieces (· == mark) cs = [cs] := by
  refine pieces_of_forall_not_sep fun c hc => ?_
  have hne : c ≠ mark := fun e => h (e ▸ hc)
  simpa using hne

/-- Pieces with marks between them are read back. -/
theorem pieces_intercalate {mark : Char} {ps : List (List Char)} (h : ∀ p ∈ ps, mark ∉ p)
    (hne : ps ≠ []) : pieces (· == mark) ([mark].intercalate ps) = ps := by
  induction ps with
  | nil => exact absurd rfl hne
  | cons p ps ih =>
    rw [List.forall_mem_cons] at h
    cases ps with
    | nil => rw [List.intercalate_singleton, pieces_of_not_mem h.1]
    | cons q ps =>
      rw [List.intercalate_cons_cons, List.append_assoc, List.singleton_append,
        pieces_append_cons (by simp), pieces_of_not_mem h.1, ih h.2 (by simp)]
      rfl

/-! ### Words -/

@[simp] theorem words_nil : words [] = [] := rfl

/-- A blank separates the words in front of it from the words after it. -/
theorem words_append_cons {c : Char} (hc : isBlank c = true) (cs ds : List Char) :
    words (cs ++ c :: ds) = words cs ++ words ds := by
  rw [words, pieces_append_cons hc, List.filter_append]
  rfl

/-- A leading blank changes no words. -/
theorem words_cons {c : Char} (hc : isBlank c = true) (cs : List Char) :
    words (c :: cs) = words cs := by
  simpa using words_append_cons hc [] cs

/-- Blanks in front of a text change no words. -/
theorem words_blanks_append {bs : List Char} (hbs : IsBlanks bs) (cs : List Char) :
    words (bs ++ cs) = words cs := by
  induction bs with
  | nil => rfl
  | cons b bs ih =>
    rw [List.cons_append, words_cons (hbs b List.mem_cons_self),
      ih fun d hd => hbs d (List.mem_cons_of_mem b hd)]

/-- A word is its own only word. -/
theorem IsWord.words_eq {cs : List Char} (h : IsWord cs) : words cs = [cs] := by
  have hne : cs.isEmpty = false := by simpa using h.ne_nil
  rw [words, pieces_of_forall_not_sep h.blankFree]
  simp [hne]

/-- The words of a word, a blank and a text: the word in front of the words of the text. -/
theorem IsWord.words_append_cons {w : List Char} (h : IsWord w) {c : Char}
    (hc : isBlank c = true) (cs : List Char) : words (w ++ c :: cs) = w :: words cs := by
  rw [Text.words_append_cons hc, h.words_eq]
  rfl

/-- A word between two blanks is among the words of a text. -/
theorem IsWord.mem_words_of_infix {w : List Char} (h : IsWord w) {b c : Char}
    (hb : isBlank b = true) (hc : isBlank c = true) (cs ds : List Char) :
    w ∈ words (cs ++ b :: (w ++ c :: ds)) := by
  rw [Text.words_append_cons hb, h.words_append_cons hc]
  simp

/-- A text that begins with no blank has a first word, which begins like the text. -/
theorem exists_words_cons {c : Char} (hc : isBlank c = false) (cs : List Char) :
    ∃ w ws, words (c :: cs) = (c :: w) :: ws := by
  obtain ⟨first, rest, h⟩ := List.exists_cons_of_ne_nil (pieces_ne_nil isBlank cs)
  refine ⟨first, rest.filter fun word => !word.isEmpty, ?_⟩
  rw [words, pieces_cons_of_not_sep hc h]
  rfl

/-! ### Trimming -/

/-- Trimming at the end drops the blanks from the right. -/
theorem trimEnd_eq_rdropWhile (cs : List Char) : trimEnd cs = cs.rdropWhile isBlank := by
  induction cs with
  | nil => rfl
  | cons c cs ih =>
    rw [trimEnd, ih, List.rdropWhile, List.rdropWhile, List.reverse_cons, List.dropWhile_append]
    cases h : cs.reverse.dropWhile isBlank with
    | nil => cases hc : isBlank c <;> simp [hc]
    | cons d ds => cases hds : ds.reverse <;> simp [hds]

/-- A text that begins and ends with no blank is trimmed. -/
structure IsTrimmed (cs : List Char) : Prop where
  head : ∀ c ∈ cs.head?, isBlank c = false
  last : ∀ c ∈ cs.getLast?, isBlank c = false

/-- A trimmed text is left as it is. -/
theorem IsTrimmed.trim_eq {cs : List Char} (h : IsTrimmed cs) : trim cs = cs := by
  have hstart : trimStart cs = cs := by
    cases cs with
    | nil => rfl
    | cons c cs => simp [trimStart, h.head c rfl]
  rw [trim, hstart, trimEnd_eq_rdropWhile, List.rdropWhile_eq_self_iff]
  intro hne
  simpa using h.last _ (List.getLast?_eq_some_getLast hne)

/-- Blanks in front of a text are trimmed away. -/
theorem trim_blanks_append {bs : List Char} (hbs : IsBlanks bs) (cs : List Char) :
    trim (bs ++ cs) = trim cs := by
  have hstart : trimStart (bs ++ cs) = trimStart cs := by
    rw [trimStart, List.dropWhile_append, List.dropWhile_eq_nil_iff.mpr hbs]
    rfl
  rw [trim, hstart]
  rfl

/-- Trimming takes away the blanks in front of a trimmed text, and nothing else. -/
theorem IsTrimmed.trim_blanks_append {cs : List Char} (h : IsTrimmed cs) {bs : List Char}
    (hbs : IsBlanks bs) : trim (bs ++ cs) = cs :=
  (Text.trim_blanks_append hbs cs).trans h.trim_eq

/-- A word is trimmed. -/
theorem IsWord.isTrimmed {cs : List Char} (h : IsWord cs) : IsTrimmed cs where
  head c hc := h.blankFree c (List.mem_of_mem_head? hc)
  last c hc := h.blankFree c (List.mem_of_mem_getLast? hc)

/-- A text that begins and ends with trimmed texts is trimmed. -/
theorem IsTrimmed.append {cs ds : List Char} (hcs : IsTrimmed cs) (hcsne : cs ≠ [])
    (hds : IsTrimmed ds) (hdsne : ds ≠ []) (between : List Char) :
    IsTrimmed (cs ++ (between ++ ds)) where
  head c hc := by
    rw [List.head?_append_of_ne_nil _ hcsne] at hc
    exact hcs.head c hc
  last c hc := by
    rw [List.getLast?_append_of_ne_nil _ (by simp [hdsne]),
      List.getLast?_append_of_ne_nil _ hdsne] at hc
    exact hds.last c hc

/-- A text that begins with no blank begins in the same way when it is trimmed. -/
theorem exists_trim_cons {c : Char} (hc : isBlank c = false) (cs : List Char) :
    ∃ ds, trim (c :: cs) = c :: ds := by
  rw [trim, trimStart, List.dropWhile_cons_of_neg (by simp [hc]), trimEnd]
  split
  · exact ⟨[], by simp [hc]⟩
  · exact ⟨_, rfl⟩

/-- A text without its blanks in front begins with no blank. -/
theorem isBlank_of_mem_head?_trimStart {cs : List Char} {c : Char} (hc : c ∈ (trimStart cs).head?) :
    isBlank c = false := by
  have hhead := List.head?_dropWhile_not isBlank cs
  rw [← trimStart, Option.mem_def.mp hc] at hhead
  exact hhead

/-- A text without the blanks at its two ends is trimmed. -/
theorem isTrimmed_trim (cs : List Char) : IsTrimmed (trim cs) where
  head := by
    intro c hc
    unfold trim at hc
    cases hstart : trimStart cs with
    | nil =>
      rw [hstart] at hc
      cases hc
    | cons d ds =>
      have hd : isBlank d = false := isBlank_of_mem_head?_trimStart (by rw [hstart]; rfl)
      have htrim : trim (d :: ds) = trimEnd (d :: ds) := by
        rw [trim, trimStart, List.dropWhile_cons_of_neg (by simp [hd])]
      obtain ⟨es, hes⟩ := exists_trim_cons hd ds
      rw [hstart, ← htrim, hes] at hc
      cases hc
      exact hd
  last := by
    intro c hc
    rw [trim, trimEnd_eq_rdropWhile] at hc
    obtain ⟨hne, rfl⟩ := List.mem_getLast?_eq_getLast hc
    simpa using List.rdropWhile_last_not isBlank (trimStart cs) hne

/-- A trimmed text that is not empty is more than blanks. -/
theorem IsTrimmed.isBlankText_eq_false {cs : List Char} (h : IsTrimmed cs) (hne : cs ≠ []) :
    isBlankText cs = false := by
  obtain ⟨c, ds, rfl⟩ := List.exists_cons_of_ne_nil hne
  rw [isBlankText, List.all_cons, h.head c rfl, Bool.false_and]

/-! ### Cutting once -/

/-- A text is cut at a mark that does not occur in front of it. -/
theorem cutAtChar?_append_cons {mark : Char} {cs : List Char} (h : mark ∉ cs) (ds : List Char) :
    cutAtChar? mark (cs ++ mark :: ds) = some (cs, ds) := by
  induction cs with
  | nil => simp [cutAtChar?]
  | cons c cs ih =>
    have hc : c ≠ mark := fun e => h (e ▸ List.mem_cons_self)
    rw [List.cons_append, cutAtChar?, if_neg hc, ih fun hm => h (List.mem_cons_of_mem c hm)]
    rfl

/-- A text without a mark is not cut at it. -/
theorem cutAtChar?_of_not_mem {mark : Char} {cs : List Char} (h : mark ∉ cs) :
    cutAtChar? mark cs = none := by
  induction cs with
  | nil => rfl
  | cons c cs ih =>
    have hc : c ≠ mark := fun e => h (e ▸ List.mem_cons_self)
    rw [cutAtChar?, if_neg hc, ih fun hm => h (List.mem_cons_of_mem c hm)]
    rfl

/-- A text is cut at a mark whose first character does not occur in front of it. -/
theorem cutAt?_append_cons {m : Char} {cs : List Char} (h : m ∉ cs) (mark ds : List Char) :
    cutAt? (m :: mark) (cs ++ m :: (mark ++ ds)) = some (cs, ds) := by
  induction cs with
  | nil =>
    have hprefix : (m :: mark).isPrefixOf? (m :: (mark ++ ds)) = some ds := by simp
    rw [List.nil_append, cutAt?, hprefix]
  | cons c cs ih =>
    have hprefix : (m :: mark).isPrefixOf? (c :: (cs ++ m :: (mark ++ ds))) = none := by
      have hc : m ≠ c := fun e => h (e ▸ List.mem_cons_self)
      simp [List.isPrefixOf?, hc]
    rw [List.cons_append, cutAt?, hprefix, ih fun hm => h (List.mem_cons_of_mem c hm)]
    rfl

/-- The two parts of a cut and the mark between them are the text. -/
theorem append_of_cutAt?_eq_some {mark cs before after : List Char}
    (h : cutAt? mark cs = some (before, after)) : before ++ (mark ++ after) = cs := by
  induction cs generalizing before with
  | nil =>
    cases mark with
    | nil => simp_all [cutAt?]
    | cons m mark => simp [cutAt?] at h
  | cons c cs ih =>
    rw [cutAt?] at h
    split at h
    · next hprefix =>
      cases h
      simpa using hprefix
    · obtain ⟨⟨before', after'⟩, hcut, heq⟩ := Option.map_eq_some_iff.mp h
      cases heq
      rw [List.cons_append, ih hcut]

/-- A text contains a mark exactly if it is in the midst of it. -/
theorem contains_iff_isInfix {mark cs : List Char} : contains mark cs = true ↔ mark <:+: cs := by
  rw [contains, Option.isSome_iff_exists]
  constructor
  · rintro ⟨⟨before, after⟩, h⟩
    exact ⟨before, after, by rw [List.append_assoc, append_of_cutAt?_eq_some h]⟩
  · rintro ⟨before, after, rfl⟩
    induction before with
    | nil =>
      cases hcs : mark ++ after with
      | nil => simp_all [cutAt?]
      | cons c cs =>
        have hprefix : mark.isPrefixOf? (c :: cs) = some after := by simp [← hcs]
        exact ⟨([], after), by simp only [List.nil_append, hcs, cutAt?, hprefix]⟩
    | cons c before ih =>
      obtain ⟨⟨before', after'⟩, h⟩ := ih
      simp only [List.cons_append, cutAt?]
      split
      · exact ⟨_, rfl⟩
      · exact ⟨(c :: before', after'), by rw [h]; rfl⟩

/-- A word that a text contains between blanks is among its words. -/
theorem IsWord.mem_words_of_contains {w : List Char} (h : IsWord w) {b c : Char}
    (hb : isBlank b = true) (hc : isBlank c = true) {cs : List Char} (mark : List Char)
    (hcs : contains (b :: (w ++ c :: mark)) cs = true) : w ∈ words cs := by
  obtain ⟨before, after, rfl⟩ := contains_iff_isInfix.mp hcs
  have := h.mem_words_of_infix hb hc before (mark ++ after)
  simpa using this

/-! ### Lines -/

/-- Lines that end with line feeds are read back. -/
theorem lines_flatMap_append_newline {ls : List (List Char)} (h : ∀ l ∈ ls, '\n' ∉ l) :
    lines (ls.flatMap (· ++ ['\n'])) = ls := by
  have hpieces : pieces (· == '\n') (ls.flatMap (· ++ ['\n'])) = ls ++ [[]] := by
    induction ls with
    | nil => rfl
    | cons l ls ih =>
      rw [List.flatMap_cons, List.append_assoc, List.singleton_append, pieces_append_cons (by simp),
        pieces_of_not_mem (h l List.mem_cons_self),
        ih fun l' hl' => h l' (List.mem_cons_of_mem l hl')]
      rfl
  have hdrop : ∀ ls : List (List Char), dropFinalEmpty (ls ++ [[]]) = ls := by
    intro ls
    induction ls with
    | nil => rfl
    | cons l ls ih =>
      cases hls : ls ++ [[]] with
      | nil => simp at hls
      | cons first rest => rw [List.cons_append, hls, dropFinalEmpty, ← hls, ih]
  rw [lines, hpieces, hdrop]

end BenchCompare.Text
