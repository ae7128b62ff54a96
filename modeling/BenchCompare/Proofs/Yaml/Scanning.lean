import BenchCompare.Proofs.Yaml.Plain

/-!
# States of the scanner

A mapping is scanned line by line.  In front of an entry the scanner is at the margin of the mapping,
with nothing else in its state than the tokens so far (`Scan.margin`); within an entry it is between
the name and the colon (`Scan.afterName`), or in front of the text (`Scan.beforeText`).

A step of the scanner passes over blanks, comments and line breaks, and reads the token at which it
is then (`Scan.run?_succ`).  Where no mark and no marker stands, that is a plain text
(`Scan.token?_eq_plain?`).
-/

namespace BenchCompare.Yaml

/-! ### Positions -/

namespace Cursor

variable {cursor : Cursor} {xs ys : List Char} {b : Char}

/-- What is left after the next character. -/
theorem rest_next {x : Char} (h : cursor.rest = x :: xs) : cursor.next.rest = xs := by
  rw [next, h]
  simp only
  split <;> rfl

/-- What is left after some characters. -/
theorem rest_skip (h : cursor.rest = xs ++ ys) : (cursor.skip xs.length).rest = ys := by
  induction xs generalizing cursor with
  | nil => exact h
  | cons x xs ih => exact ih (rest_next h)

/-- The position after some characters of a line. -/
theorem skip_of_line (h : cursor.rest = xs ++ ys) (hxs : ∀ c ∈ xs, isBreak c = false) :
    cursor.skip xs.length =
      { cursor with
        rest := ys
        index := cursor.index + xs.length
        column := cursor.column + xs.length } := by
  induction xs generalizing cursor with
  | nil =>
    obtain ⟨rest, index, line, column⟩ := cursor
    obtain rfl : rest = ys := h
    rfl
  | cons x xs ih =>
    rw [List.forall_mem_cons] at hxs
    have hnext : cursor.next =
        { cursor with
          rest := xs ++ ys
          index := cursor.index + 1
          column := cursor.column + 1 } := by
      rw [next, h, List.cons_append]
      simp [hxs.1]
    rw [List.length_cons, skip, ih (by rw [hnext]) hxs.2, hnext]
    simp [Nat.add_assoc, Nat.add_comm 1]

/-- After a line break a position is at the margin. -/
theorem column_skip (h : cursor.rest = xs ++ b :: ys) (hb : isBreak b = true) :
    (cursor.skip (xs.length + 1)).column = 0 := by
  induction xs generalizing cursor with
  | nil =>
    rw [List.length_nil, skip, skip, next, h, List.nil_append]
    simp [hb]
  | cons x xs ih => exact ih (rest_next h)

/-- The position at which a text is left is the one after what is in front of it. -/
theorem skipTo_eq (h : cursor.rest = xs ++ ys) : cursor.skipTo ys = cursor.skip xs.length := by
  rw [skipTo, h, List.length_append, Nat.add_sub_cancel]

/-- The position after a line break is at the margin. -/
theorem skipTo_of_isBreak (h : cursor.rest = xs ++ b :: ys) (hb : isBreak b = true) :
    (cursor.skipTo ys).rest = ys ∧ (cursor.skipTo ys).column = 0 := by
  have hsplit : cursor.rest = (xs ++ [b]) ++ ys := by simp [h]
  have hlength : (xs ++ [b]).length = xs.length + 1 := by simp
  constructor
  · rw [skipTo_eq hsplit]
    exact rest_skip hsplit
  · rw [skipTo_eq hsplit, hlength]
    exact column_skip h hb

end Cursor

/-! ### States -/

namespace Scan

/-- The state in front of an entry: at the beginning of the text, or within the mapping. -/
def margin (opened : Bool) (here : Cursor) (tokens : List Token) : Scan where
  here
  tokens
  indent := if opened then 0 else -1
  outer := if opened then [-1] else []

/-- The state between a name and its colon. -/
def afterName (opened : Bool) (candidate : KeyCandidate) (here : Cursor) (tokens : List Token) :
    Scan :=
  { margin opened here tokens with keyAllowed := false, candidates := [some candidate] }

/-- The state in front of a text, in the middle of a line. -/
def beforeText (here : Cursor) (tokens : List Token) : Scan :=
  { margin true here tokens with keyAllowed := false }

/-- The state at the next token. -/
def settled (s : Scan) : Scan :=
  toToken (s.here.rest.length + 1) s

section States

variable {s : Scan} {c : Char} {rest : List Char}

/-- At a solid character that begins no comment there is a token. -/
theorem settled_of_isSolid (hrest : s.here.rest = c :: rest) (hc : isSolid c = true)
    (hcomment : c ≠ '#') : s.settled = s := by
  obtain ⟨hspace, hbreak⟩ := isSolid_iff.mp hc
  simp only [isSpace, Bool.or_eq_false_iff, beq_eq_false_iff_ne] at hspace
  rw [settled, toToken, hrest]
  simp [hspace, hcomment, hbreak]

/-- At the end of the text there is nothing to pass over. -/
theorem settled_of_nil (hrest : s.here.rest = []) : s.settled = s := by
  rw [settled, toToken, hrest]

/-- A text that goes on with an entry has nothing to pass over. -/
theorem settled_of_beginsEntry (hrest : BeginsEntry s.here.rest) : s.settled = s := by
  cases hcs : s.here.rest with
  | nil => exact settled_of_nil hcs
  | cons c rest =>
    obtain ⟨hsolid, hcomment⟩ := hrest c (by rw [hcs]; rfl)
    exact settled_of_isSolid hcs hsolid hcomment

/-- A space is passed over. -/
theorem settled_of_space (hrest : s.here.rest = ' ' :: rest) : s.settled = (s.skip 1).settled := by
  have hskip : (s.skip 1).here.rest = rest := Cursor.rest_next hrest
  rw [settled, settled, hskip, hrest, List.length_cons, toToken, hrest]
  rfl

/-- A line feed is passed over; a key may begin after it. -/
theorem settled_of_newline (hrest : s.here.rest = '\n' :: rest) (hflow : s.inFlow = false) :
    s.settled = { s.skip 1 with keyAllowed := true }.settled := by
  have hskip : (s.skip 1).here.rest = rest := Cursor.rest_next hrest
  rw [settled, settled, hskip, hrest, List.length_cons, toToken, hrest]
  simp [isBreak, hflow]

/-- One step of the scanner. -/
theorem run?_succ {fuel : Nat} {t t' : Scan} (hsettled : s.settled = t)
    (hrest : t.here.rest = c :: rest) (hindent : t.unindent t.here.column = t)
    (htoken : t.token? c rest = some t') :
    run? (fuel + 1) s = run? fuel t' := by
  rw [settled] at hsettled
  rw [run?, hsettled]
  simp only [hrest, hindent, htoken, Option.bind_some]

/-- No collection ends at a column that is not to the left of it. -/
theorem unindent_of_le {column : Int} (h : s.indent ≤ column) : s.unindent column = s := by
  have hnot : ¬ column < s.indent := Int.not_lt.mpr h
  rw [unindent]
  cases s.inFlow with
  | true => rfl
  | false =>
    cases houter : s.outer with
    | nil => simp [endDeeper, ← houter]
    | cons around outer => simp [endDeeper, hnot, ← houter]

/-- A plain text begins with a solid character that is no mark, or with a dash, a question mark or a
colon in front of something solid. -/
theorem beginsPlain_eq_true {after : List Char} (hsolid : isSolid c = true) (hmark : c ∉ leadingMarks)
    (hflowMark : isFlowMark c = false) (hgap : c ∈ ['?', ':', '-'] → atGap after = false) :
    beginsPlain false c after = true := by
  rw [beginsPlain]
  split_ifs with hdash hquestion
  · have hafter := hgap (by simp [hdash])
    cases after with
    | nil => cases hafter
    | cons d after =>
      rw [atGap, Bool.not_eq_false'] at hafter
      simp [(isSolid_iff.mp hafter).1]
  · rw [Bool.or_eq_true, decide_eq_true_eq, decide_eq_true_eq] at hquestion
    have hafter := hgap (by rcases hquestion with h | h <;> simp [h])
    simp [hafter]
  · simp [hsolid, hmark, hflowMark]

/-- Where no marker of a document can stand, a plain text is read as one. -/
theorem token?_eq_plain? {after : List Char} (hflow : s.inFlow = false)
    (hstart : s.here.column = 0 → c ≠ '-' ∧ c ≠ '.') (hsolid : isSolid c = true)
    (hmark : c ∉ leadingMarks) (hflowMark : isFlowMark c = false)
    (hgap : c ∈ ['?', ':', '-'] → atGap after = false) : s.token? c after = s.plain? := by
  have hbegins := beginsPlain_eq_true hsolid hmark hflowMark hgap
  have hstartMarker : (decide (s.here.column = 0) && atMarker '-' (c :: after)) = false
      ∧ (decide (s.here.column = 0) && atMarker '.' (c :: after)) = false := by
    by_cases hcolumn : s.here.column = 0
    · simp [atMarker_cons (hstart hcolumn).1, atMarker_cons (hstart hcolumn).2]
    · simp [hcolumn]
  have hnotBeforeGap : ∀ d ∈ ['?', ':', '-'], (decide (c = d) && atGap after) = false := by
    intro d hd
    by_cases hc : c = d
    · rw [hgap (hc ▸ hd), Bool.and_false]
    · rw [decide_eq_false hc, Bool.false_and]
  have hquestion := hnotBeforeGap '?' (by decide)
  have hcolon := hnotBeforeGap ':' (by decide)
  have hdash := hnotBeforeGap '-' (by decide)
  simp only [leadingMarks, List.mem_cons, List.not_mem_nil, or_false, not_or] at hmark
  obtain ⟨-, hanchor, halias, htag, hliteral, hfolded, hsingle, hdouble, hpercent, -⟩ := hmark
  simp only [isFlowMark, Bool.or_eq_false_iff, beq_eq_false_iff_ne] at hflowMark
  obtain ⟨⟨⟨⟨hcomma, hopen⟩, hclose⟩, hopenBrace⟩, hcloseBrace⟩ := hflowMark
  simp only [token?, hflow, hpercent, hstartMarker.1, hstartMarker.2, hopen, hclose, hopenBrace,
    hcloseBrace, hcomma, hdash, hquestion, hcolon, hanchor, halias, htag, hliteral, hfolded, hsingle,
    hdouble, hbegins, decide_false, Bool.and_false, Bool.false_and, Bool.false_or,
    Bool.false_eq_true, if_false, if_true]

end States

end Scan

end BenchCompare.Yaml
