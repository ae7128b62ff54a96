import BenchCompare.Proofs.Yaml.Block
import BenchCompare.Proofs.Yaml.Scanning

/-!
# Tokens of written entries

A mapping is written entry by entry, and scanned entry by entry: the name, the colon, and the text,
which is written in one of four ways (`IsWritten`).  One entry takes three steps and adds its tokens
(`Scan.exists_run?_entry`); the first one also begins the mapping.  So the tokens of entries are those
of a mapping (`ofText?_entries`).
-/

namespace BenchCompare.Yaml

/-! ### Written texts -/

/-- A text and how it is written behind the name of an entry, up to the end of the last line. -/
inductive IsWritten (cs : List Char) : ScalarStyle → List Char → Prop
  | plain (hne : cs ≠ []) (hallowed : plainAllowed cs = true) :
    IsWritten cs .plain (cs ++ ['\n'])
  | singleQuoted (hfeed : '\n' ∉ cs) (hallowed : singleAllowed cs = true) :
    IsWritten cs .singleQuoted ('\'' :: (singleBody false cs ++ ['\'', '\n']))
  | literal (hne : cs ≠ []) (hprintable : ∀ c ∈ cs, isPrintable c = true) :
    IsWritten cs .literal ('|' :: (blockSigns cs ++ '\n' :: (blockBody true cs ++ lineEnd cs)))
  | doubleQuoted : IsWritten cs .doubleQuoted ('"' :: (cs.flatMap doubleChar ++ ['"', '\n']))

/-- Every text is written in one of the four ways. -/
theorem isWritten_writtenText (cs : List Char) : IsWritten cs (styleOf cs) (writtenText cs) := by
  rw [writtenText, styleOf]
  split_ifs with hfeed hblock hplain hsingle
  · simp only [blockAllowed, Bool.and_eq_true, List.all_eq_true] at hblock
    refine .literal ?_ hblock.1.1
    rintro rfl
    cases hfeed
  · exact .doubleQuoted
  · rw [Bool.and_eq_true, Bool.not_eq_true'] at hplain
    refine .plain ?_ hplain.2
    rintro rfl
    exact absurd hplain.1 (by decide)
  · exact .singleQuoted (mt List.contains_iff_mem.mpr hfeed) hsingle
  · exact .doubleQuoted

/-- A written text is printable. -/
theorem IsWritten.isPrintable {cs written : List Char} {style : ScalarStyle}
    (h : IsWritten cs style written) : ∀ c ∈ written, isPrintable c = true := by
  cases h with
  | plain hne hallowed =>
    simp only [plainAllowed, Bool.and_eq_true, List.all_eq_true] at hallowed
    exact List.forall_mem_append.mpr ⟨fun c hc => (hallowed.1.1.1.1 c hc).1, List.all_eq_true.mp rfl⟩
  | singleQuoted hfeed hallowed =>
    simp only [singleAllowed, Bool.and_eq_true, List.all_eq_true] at hallowed
    exact List.forall_mem_cons.mpr ⟨by decide, List.forall_mem_append.mpr
      ⟨isPrintable_of_mem_singleBody hallowed.1.1 false, List.all_eq_true.mp rfl⟩⟩
  | literal hne hprintable =>
    have hend : ∀ c ∈ lineEnd cs, Yaml.isPrintable c = true := by
      rw [lineEnd]
      split
      · intro c hc
        cases hc
      · exact List.all_eq_true.mp rfl
    exact List.forall_mem_cons.mpr ⟨by decide, List.forall_mem_append.mpr
      ⟨isPrintable_of_mem_blockSigns cs, List.forall_mem_cons.mpr ⟨by decide,
        List.forall_mem_append.mpr ⟨isPrintable_of_mem_blockBody hprintable true, hend⟩⟩⟩⟩
  | doubleQuoted =>
    refine List.forall_mem_cons.mpr ⟨by decide, List.forall_mem_append.mpr
      ⟨fun c hc => ?_, List.all_eq_true.mp rfl⟩⟩
    obtain ⟨d, -, hd⟩ := List.mem_flatMap.mp hc
    exact isPrintable_of_mem_doubleChar d c hd

/-- A name of small letters, which is not too long for a key. -/
structure IsName (name : List Char) : Prop where
  ne_nil : name ≠ []
  isLower : ∀ c ∈ name, c.isLower = true
  length_le : name.length ≤ Scan.keyLimit

namespace Scan

/-! ### One entry -/

section Entry

variable {opened : Bool} {here : Cursor} {tokens : List Token} {name rest : List Char}

/-- The candidate that a name at the margin becomes. -/
def nameCandidate (opened : Bool) (here : Cursor) (tokens : List Token) : KeyCandidate where
  position := tokens.length
  index := here.index
  line := here.line
  column := 0
  required := opened

/-- The margin is not to the right of any column. -/
theorem margin_indent_le (opened : Bool) (column : Nat) :
    (if opened then 0 else -1 : Int) ≤ column := by
  cases opened with
  | true => exact Int.natCast_nonneg column
  | false => exact Int.le_trans (Int.neg_nonpos_of_nonneg Int.one_nonneg) (Int.natCast_nonneg column)

/-- What comes at the margin may be a key. -/
theorem saveCandidate?_margin (hcolumn : here.column = 0) :
    (margin opened here tokens).saveCandidate? = some
      { margin opened here tokens with candidates := [some (nameCandidate opened here tokens)] } := by
  cases opened with
  | true => simp [saveCandidate?, dropCandidate?, setCandidate, candidate?, margin, nameCandidate,
      hcolumn, inFlow]
  | false => simp [saveCandidate?, dropCandidate?, setCandidate, candidate?, margin, nameCandidate,
      hcolumn, inFlow]

/-- The name of an entry is read. -/
theorem run?_name {s : Scan} (hs : s.settled = margin opened here tokens) (hname : IsName name)
    (hrest : here.rest = name ++ ':' :: ' ' :: rest) (hcolumn : here.column = 0) (fuel : Nat) :
    run? (fuel + 1) s = run? fuel (afterName opened (nameCandidate opened here tokens)
      (here.skip name.length) (tokens ++ [.scalar name .plain])) := by
  have hsolid : ∀ c ∈ name, isSolid c = true ∧ c ≠ ':' := by
    intro c hc
    have hletter := isOrdinary_of_isLower (hname.isLower c hc)
    exact ⟨hletter.isSolid, hletter.ne ':' (by decide)⟩
  have hread : (margin opened here tokens).plain? = some (afterName opened
      (nameCandidate opened here tokens) (here.skip name.length)
      (tokens ++ [.scalar name .plain])) := by
    have htext : ∀ indent, Yaml.plain? false indent .none 0 (name ++ ':' :: ' ' :: rest) =
        some ⟨name, ':' :: ' ' :: rest, false⟩ := fun indent => plain?_append_colon hsolid rfl
    have hmove : here.skipTo (':' :: ' ' :: rest) = here.skip name.length := Cursor.skipTo_eq hrest
    rw [plain?, saveCandidate?_margin hcolumn]
    simp [margin, afterName, inFlow, hcolumn, hrest, htext, moveTo, push, hmove]
  obtain ⟨c, cs, rfl⟩ := List.exists_cons_of_ne_nil hname.ne_nil
  have hletter := isOrdinary_of_isLower (hname.isLower c List.mem_cons_self)
  refine run?_succ hs hrest (unindent_of_le (margin_indent_le opened _)) ?_
  have hstart : c ≠ '-' ∧ c ≠ '.' := ⟨hletter.ne '-' (by decide), hletter.ne '.' (by decide)⟩
  have hgap : c ∉ ['?', ':', '-'] := hletter.not_mem (by decide)
  rw [token?_eq_plain? rfl (fun _ => hstart) hletter.isSolid (hletter.not_mem (by decide))
    hletter.isFlowMark fun h => absurd h hgap, hread]

/-- A colon in front of a space comes before a value. -/
theorem token?_colon {s : Scan} (hcolumn : s.here.column ≠ 0) :
    s.token? ':' (' ' :: rest) = s.value? := by
  simp [token?, hcolumn, atGap, isSolid, isSpace]

/-- The token of a key goes in front of its name. -/
theorem insertIdx_length_append {α : Type} (before : List α) (a : α) (after : List α) :
    (before ++ after).insertIdx before.length a = before ++ a :: after := by
  induction before with
  | nil => rfl
  | cons b before ih => simp [ih]

/-- A candidate for a key at the margin becomes a key, the first one of the mapping if need be. -/
theorem value?_afterName {candidate : KeyCandidate} (hposition : candidate.position = tokens.length)
    (hmargin : candidate.column = 0) (hline : candidate.line = here.line)
    (hindex : here.index ≤ candidate.index + keyLimit) :
    (afterName opened candidate here (tokens ++ [.scalar name .plain])).value? =
      some (beforeText (here.skip 1)
        (tokens ++ (if opened then [] else [.mappingStart])
          ++ [.key, .scalar name .plain, .value])) := by
  have hfresh : (afterName opened candidate here (tokens ++ [.scalar name .plain])).isFresh candidate
      = true := by
    simp [isFresh, afterName, margin, hline, hindex]
  have hcandidate : (afterName opened candidate here (tokens ++ [.scalar name .plain])).candidate?
      = some candidate := rfl
  rw [value?, hcandidate]
  simp only [hfresh, if_true]
  cases opened with
  | true => simp [confirm, afterName, margin, beforeText, indentTo, setCandidate, skip, push, inFlow,
      hposition, hmargin, insertIdx_length_append]
  | false => simp [confirm, afterName, margin, beforeText, indentTo, setCandidate, skip, push, inFlow,
      hposition, hmargin, insertIdx_length_append]

/-- The colon behind the name of an entry makes it a key, and begins the mapping if need be. -/
theorem run?_colon (hname : IsName name)
    (hrest : here.rest = name ++ ':' :: ' ' :: rest) (hcolumn : here.column = 0) (fuel : Nat) :
    run? (fuel + 1) (afterName opened (nameCandidate opened here tokens)
      (here.skip name.length) (tokens ++ [.scalar name .plain])) =
    run? fuel (beforeText ((here.skip name.length).skip 1)
      (tokens ++ (if opened then [] else [.mappingStart])
        ++ [.key, .scalar name .plain, .value])) := by
  have hbreak : ∀ c ∈ name, isBreak c = false := fun c hc =>
    (isSolid_iff.mp (isOrdinary_of_isLower (hname.isLower c hc)).isSolid).2
  have hskip := Cursor.skip_of_line hrest hbreak
  have hcolon : (here.skip name.length).rest = ':' :: ' ' :: rest := by rw [hskip]
  have hinside : (here.skip name.length).column ≠ 0 := by
    rw [hskip, hcolumn]
    simpa using hname.ne_nil
  refine run?_succ (settled_of_isSolid hcolon (by decide) (by decide)) hcolon
    (unindent_of_le (margin_indent_le opened _)) ?_
  rw [token?_colon hinside, value?_afterName rfl rfl]
  · rw [hskip]
    rfl
  · rw [hskip]
    exact Nat.add_le_add_left hname.length_le _

/-! ### The four ways to write a text -/

section Texts

variable {cs : List Char}

/-- After a text the scanner is at the margin, once blanks have been passed over. -/
def Follows (s : Scan) (tokens : List Token) (rest : List Char) : Prop :=
  ∃ here, s.settled = margin true here tokens ∧ here.rest = rest ∧ here.column = 0

/-- At the margin nothing has to be passed over. -/
theorem follows_margin (hend : BeginsEntry rest) (hhere : here.rest = rest ∧ here.column = 0) :
    (margin true here tokens).Follows tokens rest := by
  obtain ⟨rfl, hcolumn⟩ := hhere
  exact ⟨here, settled_of_beginsEntry hend, rfl, hcolumn⟩

/-- In front of a text no key may begin. -/
theorem saveCandidate?_beforeText :
    (beforeText here tokens).saveCandidate? = some (beforeText here tokens) := by
  rfl

/-- A plain text is read to the end of its line. -/
theorem exists_plain?_beforeText (tokens : List Token) (hrest : here.rest = cs ++ '\n' :: rest)
    (hcolumn : 1 ≤ here.column) (hallowed : plainAllowed cs = true) (hend : BeginsEntry rest) :
    ∃ s', (beforeText here tokens).plain? = some s'
      ∧ s'.Follows (tokens ++ [.scalar cs .plain]) rest := by
  have hread := plain?_append_newline Nat.one_pos hcolumn hallowed hend
  refine ⟨margin true (here.skipTo rest) (tokens ++ [.scalar cs .plain]), ?_,
    follows_margin hend (Cursor.skipTo_of_isBreak hrest rfl)⟩
  rw [plain?, saveCandidate?_beforeText]
  simp [beforeText, margin, inFlow, hrest, hread, moveTo, push]

/-- A quoted text is read up to the quote at its end; the line ends behind that. -/
theorem exists_quoted?_beforeText (tokens : List Token) (style : ScalarStyle) {quote : Char}
    {body : List Char}
    (hrest : here.rest = quote :: (body ++ '\n' :: rest))
    (hread : (if style = .singleQuoted then singleQuoted? .none (body ++ '\n' :: rest)
      else doubleQuoted? .none (body ++ '\n' :: rest)) = some (cs, '\n' :: rest))
    (hend : BeginsEntry rest) :
    ∃ s', (beforeText here tokens).quoted? style = some s'
      ∧ s'.Follows (tokens ++ [.scalar cs style]) rest := by
  have hbody : (beforeText here tokens).here.rest.drop 1 = body ++ '\n' :: rest := by
    simp [beforeText, margin, hrest]
  have hsplit : here.rest = (quote :: body) ++ '\n' :: rest := hrest
  have hquote : (here.skipTo ('\n' :: rest)).rest = [] ++ '\n' :: rest := by
    rw [Cursor.skipTo_eq hsplit]
    exact Cursor.rest_skip hsplit
  have hnext : ((here.skipTo ('\n' :: rest)).skip 1).rest = rest
      ∧ ((here.skipTo ('\n' :: rest)).skip 1).column = 0 :=
    ⟨Cursor.rest_next hquote, Cursor.column_skip hquote rfl⟩
  have hfollows : (margin true ((here.skipTo ('\n' :: rest)).skip 1)
      (tokens ++ [.scalar cs style])).Follows (tokens ++ [.scalar cs style]) rest :=
    follows_margin hend hnext
  obtain ⟨here', hsettled, hmargin⟩ := hfollows
  refine ⟨beforeText (here.skipTo ('\n' :: rest)) (tokens ++ [.scalar cs style]), ?_, here', ?_,
    hmargin⟩
  · rw [quoted?, saveCandidate?_beforeText]
    simp only [Option.bind_eq_bind, Option.bind_some, hbody]
    split_ifs at hread ⊢
    · rw [hread]
      rfl
    · rw [hread]
      rfl
  · rw [settled_of_newline hquote rfl]
    exact hsettled

/-- A block is read up to the next line at the margin. -/
theorem exists_block?_beforeText (tokens : List Token) {body : List Char} {e : Char}
    (hrest : here.rest = '|' :: (body ++ e :: rest)) (he : isBreak e = true)
    (hread : Yaml.block? false 0 (body ++ e :: rest) = some (cs, rest))
    (hend : BeginsEntry rest) :
    ∃ s', (beforeText here tokens).block? .literal = some s'
      ∧ s'.Follows (tokens ++ [.scalar cs .literal]) rest := by
  have hbody : (beforeText here tokens).here.rest.drop 1 = body ++ e :: rest := by
    simp [beforeText, margin, hrest]
  have hdrop : (beforeText here tokens).dropCandidate? = some (beforeText here tokens) := rfl
  have hsplit : here.rest = ('|' :: body) ++ e :: rest := hrest
  refine ⟨margin true (here.skipTo rest) (tokens ++ [.scalar cs .literal]), ?_,
    follows_margin hend (Cursor.skipTo_of_isBreak hsplit he)⟩
  have hread' : Yaml.block? (ScalarStyle.literal == .folded) (beforeText here tokens).indent
      (body ++ e :: rest) = some (cs, rest) := hread
  rw [block?, hdrop]
  simp only [Option.bind_eq_bind, Option.bind_some, hbody, hread']
  rfl

/-- The characters with which a text in quotes or in a block begins. -/
theorem token?_mark (hinside : here.column ≠ 0) (after : List Char) :
    (beforeText here tokens).token? '\'' after = (beforeText here tokens).quoted? .singleQuoted
      ∧ (beforeText here tokens).token? '"' after = (beforeText here tokens).quoted? .doubleQuoted
      ∧ (beforeText here tokens).token? '|' after = (beforeText here tokens).block? .literal := by
  have hcolumn : (beforeText here tokens).here.column ≠ 0 := hinside
  have hflow : (beforeText here tokens).inFlow = false := rfl
  refine ⟨?_, ?_, ?_⟩ <;> simp [token?, hcolumn, hflow]

/-- A plain text begins with a solid character that is no mark, and that comes before something
solid if it needs to. -/
theorem spec_of_plainAllowed {c : Char} (h : plainAllowed (c :: cs) = true) :
    isSolid c = true ∧ c ∉ leadingMarks ∧ isFlowMark c = false
      ∧ (c ∈ ['?', ':', '-'] → atGap cs = false) := by
  simp only [plainAllowed, beginsOther, isEdge, Bool.and_eq_true, Bool.not_eq_true', List.all_eq_true,
    Bool.or_eq_false_iff, List.head?_cons, Option.any_some, beq_eq_false_iff_ne] at h
  obtain ⟨⟨⟨⟨hprintable, ⟨⟨⟨⟨hmark, hflowMark⟩, hgap⟩, -⟩, -⟩⟩, -⟩, hspace, hbreak⟩, -⟩ := h
  refine ⟨isSolid_of_isPrintable (hprintable c List.mem_cons_self).1 hspace hbreak,
    fun hmem => ?_, hflowMark, fun hmem => ?_⟩
  · rw [List.contains_iff_mem.mpr hmem] at hmark
    cases hmark
  · rwa [List.contains_iff_mem.mpr hmem, Bool.true_and] at hgap

/-- The token of a text is read. -/
theorem exists_token?_beforeText (tokens : List Token) {written : List Char} {style : ScalarStyle}
    (hrest : here.rest = written ++ rest) (hcolumn : 1 ≤ here.column)
    (hwritten : IsWritten cs style written) (hend : BeginsEntry rest) :
    ∃ c after s', here.rest = c :: after ∧ isSolid c = true ∧ c ≠ '#'
      ∧ (beforeText here tokens).token? c after = some s'
      ∧ s'.Follows (tokens ++ [.scalar cs style]) rest := by
  have hinside : here.column ≠ 0 := Nat.ne_of_gt hcolumn
  cases hwritten with
  | plain hne hallowed =>
    obtain ⟨c, cs, rfl⟩ := List.exists_cons_of_ne_nil hne
    obtain ⟨hsolid, hmark, hflowMark, hgap⟩ := spec_of_plainAllowed hallowed
    have hline : here.rest = (c :: cs) ++ '\n' :: rest := by simp [hrest]
    have hcomment : c ≠ '#' := by
      rintro rfl
      exact hmark (by decide)
    have hgap' : c ∈ ['?', ':', '-'] → atGap (cs ++ '\n' :: rest) = false := by
      intro hc
      have hbefore := hgap hc
      cases cs with
      | nil => cases hbefore
      | cons d cs => exact hbefore
    obtain ⟨s', hread, hfollows⟩ :=
      exists_plain?_beforeText tokens hline hcolumn hallowed hend
    refine ⟨c, cs ++ '\n' :: rest, s', hline, hsolid, hcomment, ?_, hfollows⟩
    rw [token?_eq_plain? rfl (fun h => absurd h hinside) hsolid hmark hflowMark hgap', hread]
  | singleQuoted hfeed hallowed =>
    have hline : here.rest = '\'' :: ((singleBody false cs ++ ['\'']) ++ '\n' :: rest) := by
      simp [hrest]
    have hread : singleQuoted? .none ((singleBody false cs ++ ['\'']) ++ '\n' :: rest) =
        some (cs, '\n' :: rest) := by
      rw [List.append_assoc, List.singleton_append, singleQuoted?_singleBody (by simp) hallowed hfeed]
    obtain ⟨s', hquoted, hfollows⟩ := exists_quoted?_beforeText tokens .singleQuoted
      hline hread hend
    refine ⟨'\'', _, s', hline, by decide, by decide, ?_, hfollows⟩
    rw [(token?_mark hinside _).1, hquoted]
  | literal hne hprintable =>
    obtain ⟨before, e, hbody, he⟩ := exists_blockBody_eq_concat hne
    have hline : here.rest = '|' :: ((blockSigns cs ++ '\n' :: before) ++ e :: rest) := by
      simp [hrest, hbody]
    have hread := block?_blockSigns hne hprintable hend
    rw [hbody] at hread
    obtain ⟨s', hblock, hfollows⟩ := exists_block?_beforeText tokens hline he
      (by simpa using hread) hend
    refine ⟨'|', _, s', hline, by decide, by decide, ?_, hfollows⟩
    rw [(token?_mark hinside _).2.2, hblock]
  | doubleQuoted =>
    have hline : here.rest = '"' :: ((cs.flatMap doubleChar ++ ['"']) ++ '\n' :: rest) := by
      simp [hrest]
    have hread : doubleQuoted? .none ((cs.flatMap doubleChar ++ ['"']) ++ '\n' :: rest) =
        some (cs, '\n' :: rest) := by
      rw [List.append_assoc, List.singleton_append, doubleQuoted?_flatMap_doubleChar]
    obtain ⟨s', hquoted, hfollows⟩ := exists_quoted?_beforeText tokens .doubleQuoted
      hline hread hend
    refine ⟨'"', _, s', hline, by decide, by decide, ?_, hfollows⟩
    rw [(token?_mark hinside _).2.1, hquoted]

end Texts

/-- The text of an entry is read. -/
theorem exists_run?_text (tokens : List Token) {cs written : List Char} {style : ScalarStyle}
    (hrest : here.rest = ' ' :: (written ++ rest)) (hwritten : IsWritten cs style written)
    (hend : BeginsEntry rest) :
    ∃ s', (∀ fuel, run? (fuel + 1) (beforeText here tokens) = run? fuel s')
      ∧ s'.Follows (tokens ++ [.scalar cs style]) rest := by
  have hsplit : here.rest = [' '] ++ (written ++ rest) := hrest
  have hskip : here.skip 1 =
      { here with
        rest := written ++ rest
        index := here.index + 1
        column := here.column + 1 } :=
    Cursor.skip_of_line hsplit (List.forall_mem_singleton.mpr rfl)
  have hbegins : (here.skip 1).rest = written ++ rest := by rw [hskip]
  have hcolumn : 1 ≤ (here.skip 1).column := by
    rw [hskip]
    exact Nat.le_add_left 1 _
  obtain ⟨c, after, s', hfirst, hsolid, hcomment, htoken, hfollows⟩ :=
    exists_token?_beforeText tokens hbegins hcolumn hwritten hend
  have hsettled : (beforeText here tokens).settled = beforeText (here.skip 1) tokens :=
    (settled_of_space hrest).trans
      (settled_of_isSolid (s := beforeText (here.skip 1) tokens) hfirst hsolid hcomment)
  exact ⟨s', fun fuel => run?_succ hsettled hfirst (unindent_of_le (margin_indent_le true _)) htoken,
    hfollows⟩

end Entry

end Scan

/-! ### All entries -/

/-- An entry of a mapping: a name, and a text with the way it is written. -/
structure WrittenEntry where
  name : List Char
  text : List Char
  style : ScalarStyle
  /-- The text as it is written, up to the end of its last line. -/
  written : List Char
  isName : IsName name
  isWritten : IsWritten text style written

namespace WrittenEntry

/-- An entry as it is written. -/
def chars (entry : WrittenEntry) : List Char :=
  entry.name ++ ':' :: ' ' :: entry.written

/-- The tokens of an entry. -/
def tokens (entry : WrittenEntry) : List Token :=
  [.key, .scalar entry.name .plain, .value, .scalar entry.text entry.style]

/-- An entry begins with a small letter. -/
theorem exists_chars_eq_cons (entry : WrittenEntry) :
    ∃ c cs, entry.chars = c :: cs ∧ c.isLower = true := by
  obtain ⟨c, cs, hname⟩ := List.exists_cons_of_ne_nil entry.isName.ne_nil
  refine ⟨c, cs ++ ':' :: ' ' :: entry.written, by rw [chars, hname]; rfl, ?_⟩
  exact entry.isName.isLower c (hname ▸ List.mem_cons_self)

/-- Entries begin at the margin. -/
theorem beginsEntry_flatMap (entries : List WrittenEntry) : BeginsEntry (entries.flatMap chars) := by
  cases entries with
  | nil => nofun
  | cons entry entries =>
    obtain ⟨c, cs, hchars, hlower⟩ := entry.exists_chars_eq_cons
    have hletter := isOrdinary_of_isLower hlower
    rw [List.flatMap_cons, hchars]
    rintro d ⟨⟩
    exact ⟨hletter.isSolid, hletter.ne '#' (by decide)⟩

/-- An entry has more characters than the scanner needs steps for it. -/
theorem three_le_length_chars (entry : WrittenEntry) : 3 ≤ entry.chars.length := by
  have hname := List.length_pos_iff.mpr entry.isName.ne_nil
  simp only [chars, List.length_append, List.length_cons]
  omega

/-- An entry is printable. -/
theorem isPrintable_of_mem_chars (entry : WrittenEntry) :
    ∀ c ∈ entry.chars, isPrintable c = true := by
  refine List.forall_mem_append.mpr ⟨fun c hc => ?_, ?_⟩
  · exact (isOrdinary_of_isLower (entry.isName.isLower c hc)).isPrintable
  · exact List.forall_mem_cons.mpr
      ⟨by decide, List.forall_mem_cons.mpr ⟨by decide, entry.isWritten.isPrintable⟩⟩

end WrittenEntry

namespace Scan

variable {tokens : List Token}

/-- An entry is scanned in three steps. -/
theorem exists_run?_entry (entry : WrittenEntry) {opened : Bool} {here : Cursor} {rest : List Char}
    {s : Scan} (hs : s.settled = margin opened here tokens)
    (hrest : here.rest = entry.chars ++ rest) (hcolumn : here.column = 0) (hend : BeginsEntry rest) :
    ∃ s', (∀ fuel, run? (fuel + 3) s = run? fuel s')
      ∧ s'.Follows (tokens ++ (if opened then [] else [.mappingStart]) ++ entry.tokens) rest := by
  have hline : here.rest = entry.name ++ ':' :: ' ' :: (entry.written ++ rest) := by
    simp [hrest, WrittenEntry.chars]
  have hcolon : (here.skip entry.name.length).rest = ':' :: ' ' :: (entry.written ++ rest) :=
    Cursor.rest_skip hline
  obtain ⟨s', hrun, hfollows⟩ := exists_run?_text (tokens
      ++ (if opened then [] else [.mappingStart]) ++ [.key, .scalar entry.name .plain, .value])
    (Cursor.rest_next hcolon) entry.isWritten hend
  refine ⟨s', fun fuel => ?_, ?_⟩
  · rw [run?_name hs entry.isName hline hcolumn, run?_colon entry.isName hline hcolumn]
    exact hrun fuel
  · simpa [WrittenEntry.tokens] using hfollows

/-- At the end of the text the mapping ends. -/
theorem run?_end {s : Scan} (hs : s.Follows tokens []) (fuel : Nat) :
    ∃ s', run? (fuel + 1) s = some s' ∧ s'.tokens = tokens ++ [.blockEnd] := by
  obtain ⟨here, hsettled, hrest, -⟩ := hs
  rw [settled] at hsettled
  have hhere : (margin true here tokens).here.rest = [] := hrest
  rw [run?, hsettled]
  simp only [hhere]
  exact ⟨_, rfl, rfl⟩

/-- Entries within the mapping are scanned one by one, and the end of the text ends the mapping. -/
theorem exists_run?_entries (entries : List WrittenEntry) {s : Scan}
    (hs : s.Follows tokens (entries.flatMap WrittenEntry.chars)) (fuel : Nat) :
    ∃ s', run? (fuel + 3 * entries.length + 1) s = some s'
      ∧ s'.tokens = tokens ++ entries.flatMap WrittenEntry.tokens ++ [.blockEnd] := by
  induction entries generalizing s tokens with
  | nil => simpa using run?_end hs fuel
  | cons entry entries ih =>
    obtain ⟨here, hsettled, hrest, hcolumn⟩ := hs
    obtain ⟨next, hrun, hfollows⟩ := exists_run?_entry entry hsettled hrest hcolumn
      (WrittenEntry.beginsEntry_flatMap entries)
    obtain ⟨s', hs', htokens⟩ := ih hfollows
    refine ⟨s', ?_, ?_⟩
    · rw [← hs', ← hrun]
      rfl
    · simpa using htokens

end Scan

/-- Entries have more characters than the scanner needs steps for them. -/
theorem WrittenEntry.three_mul_length_le (entries : List WrittenEntry) :
    3 * entries.length ≤ (entries.flatMap chars).length := by
  induction entries with
  | nil => exact Nat.le_refl 0
  | cons entry entries ih =>
    have hentry := entry.three_le_length_chars
    rw [List.flatMap_cons, List.length_append, List.length_cons]
    omega

/-- **Written entries are scanned.**  The tokens of one or more entries are those of a mapping. -/
theorem ofText?_entries {entries : List WrittenEntry} (hne : entries ≠ []) :
    Token.ofText? (entries.flatMap WrittenEntry.chars) =
      some (.mappingStart :: (entries.flatMap WrittenEntry.tokens ++ [.blockEnd])) := by
  have hprintable : ∀ c ∈ entries.flatMap WrittenEntry.chars, isPrintable c = true := by
    intro c hc
    obtain ⟨entry, -, hmem⟩ := List.mem_flatMap.mp hc
    exact entry.isPrintable_of_mem_chars c hmem
  have hallowed : (entries.flatMap WrittenEntry.chars).all isAllowed = true :=
    List.all_eq_true.mpr fun c hc => isAllowed_of_isPrintable (hprintable c hc)
  have hbegins := WrittenEntry.beginsEntry_flatMap entries
  have hlength := WrittenEntry.three_mul_length_le entries
  obtain ⟨entry, entries, rfl⟩ := List.exists_cons_of_ne_nil hne
  have hstart : Cursor.start ((entry :: entries).flatMap WrittenEntry.chars) =
      { rest := (entry :: entries).flatMap WrittenEntry.chars } := by
    obtain ⟨c, cs, hchars, hlower⟩ := entry.exists_chars_eq_cons
    have hmark : c ≠ byteOrderMark := by
      rintro rfl
      exact absurd hlower (by decide)
    rw [Cursor.start, List.flatMap_cons, hchars]
    simp [hmark]
  have hsettled : Scan.settled { here := .start ((entry :: entries).flatMap WrittenEntry.chars) } =
      Scan.margin false (.start ((entry :: entries).flatMap WrittenEntry.chars)) [] := by
    refine Scan.settled_of_beginsEntry ?_
    rw [hstart]
    exact hbegins
  obtain ⟨next, hrun, hfollows⟩ := Scan.exists_run?_entry entry hsettled
    (by rw [hstart]; exact List.flatMap_cons) (by rw [hstart])
    (WrittenEntry.beginsEntry_flatMap entries)
  obtain ⟨extra, hextra⟩ := Nat.exists_eq_add_of_le' hlength
  obtain ⟨s', hs', htokens⟩ := Scan.exists_run?_entries entries hfollows extra
  have hsteps : ((entry :: entries).flatMap WrittenEntry.chars).length + 1 =
      extra + 3 * entries.length + 1 + 3 := by
    rw [hextra, List.length_cons]
    rfl
  rw [Token.ofText?, if_pos hallowed, unifyBreaks_eq_self hprintable]
  simp only [hsteps, hrun, hs', Option.map_some, htokens]
  simp

end BenchCompare.Yaml
