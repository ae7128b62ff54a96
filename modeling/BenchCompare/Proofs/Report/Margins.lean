import BenchCompare.Proofs.Text.Trimming
import BenchCompare.Report.Basic
import Mathlib.Logic.Relation

/-!
# The layout of a report

A text is laid out differently if the blanks at the ends of its lines are changed, if carriage returns
are put in front of its line feeds, or if a final line feed is added (`Report.Relaid`), and if any of
this is undone.  The outcome of reading a report is the same in each layout (`Report.parse_of_relaid`).

Reading looks at trimmed lines only.  Carriage returns are blanks, so they are at the ends of lines like
any others (`Text.forall₂_withCarriageReturns`).  A final line feed adds an empty line at the most, and
an empty line at the end can only end a block of the latency distribution, of which nothing is left in
the outcome (`Report.Progress.map_draft_steps_concat`).
-/

namespace BenchCompare

/-! ### Lines -/

namespace Text

/-- The pieces between the line feeds of a text; they are its lines, and an empty one behind a final
line feed. -/
def piecesOfLines (cs : List Char) : List (List Char) :=
  pieces (· == '\n') cs

/-- A text with a carriage return in front of every line feed. -/
def withCarriageReturns (cs : List Char) : List Char :=
  cs.flatMap fun c => if c = '\n' then ['\r', '\n'] else [c]

/-- The last piece is no line if it is empty, and that is the only difference between pieces and
lines. -/
theorem piecesOfLines_eq (cs : List Char) :
    piecesOfLines cs = lines cs ∨ piecesOfLines cs = lines cs ++ [[]] := by
  have hdrop : ∀ ps : List (List Char), ps = dropFinalEmpty ps ∨ ps = dropFinalEmpty ps ++ [[]] := by
    intro ps
    induction ps with
    | nil => exact .inl rfl
    | cons first rest ih =>
      cases rest with
      | nil =>
        cases first with
        | nil => exact .inr rfl
        | cons c cs => exact .inl rfl
      | cons second rest =>
        rw [dropFinalEmpty, List.cons_append]
        exact ih.imp (congrArg (first :: ·)) (congrArg (first :: ·))
  exact hdrop (piecesOfLines cs)

/-- A character that is no line feed begins the first piece. -/
theorem piecesOfLines_cons {c : Char} (hc : c ≠ '\n') {cs first : List Char}
    {rest : List (List Char)} (h : piecesOfLines cs = first :: rest) :
    piecesOfLines (c :: cs) = (c :: first) :: rest :=
  pieces_cons_of_not_sep (by simpa using hc) h

/-- A final line feed adds an empty piece. -/
theorem piecesOfLines_append_newline (cs : List Char) :
    piecesOfLines (cs ++ ['\n']) = piecesOfLines cs ++ [[]] :=
  pieces_append_cons rfl cs []

/-- Carriage returns in front of line feeds are at the ends of the pieces. -/
theorem forall₂_withCarriageReturns (cs : List Char) :
    List.Forall₂ (fun piece longer => longer = piece ∨ longer = piece ++ ['\r'])
      (piecesOfLines cs) (piecesOfLines (withCarriageReturns cs)) := by
  unfold withCarriageReturns
  induction cs with
  | nil => exact .cons (.inl rfl) .nil
  | cons c cs ih =>
    rw [List.flatMap_cons]
    by_cases hc : c = '\n'
    · subst hc
      rw [if_pos rfl]
      exact .cons (.inr rfl) ih
    · obtain ⟨first, rest, hpieces⟩ :=
        List.exists_cons_of_ne_nil (pieces_ne_nil (· == '\n') cs)
      have hshort : piecesOfLines cs = first :: rest := hpieces
      rw [hshort] at ih
      obtain ⟨longer, others, hlonger, hothers, hlong⟩ := List.forall₂_cons_left_iff.mp ih
      rw [if_neg hc, List.singleton_append, piecesOfLines_cons hc hshort,
        piecesOfLines_cons hc hlong]
      exact .cons (hlonger.imp (congrArg (c :: ·)) (congrArg (c :: ·))) hothers

/-- Carriage returns in front of line feeds are taken away when the pieces are trimmed. -/
theorem map_trim_withCarriageReturns (cs : List Char) :
    (piecesOfLines (withCarriageReturns cs)).map trim = (piecesOfLines cs).map trim := by
  have hreturn : IsBlanks ['\r'] := by
    intro c hc
    rw [List.mem_singleton.mp hc]
    decide
  symm
  rw [← forall₂_sameButMargins_iff]
  refine (forall₂_withCarriageReturns cs).imp fun piece longer h => ?_
  rw [sameButMargins_iff]
  rcases h with rfl | rfl
  · rfl
  · exact (trim_append_blanks hreturn piece).symm

end Text

namespace Report

/-! ### What matters of the lines -/

/-- An empty line at the end adds nothing to the draft, and no fault. -/
theorem Progress.map_draft_steps_concat (progress : Progress) (number : Nat)
    (lines : List (List Char)) :
    (progress.steps number (lines ++ [[]])).map Progress.draft =
      (progress.steps number lines).map Progress.draft := by
  induction lines generalizing progress number with
  | nil => rfl
  | cons line lines ih =>
    rw [List.cons_append, steps, steps]
    cases progress.step? line with
    | none => rfl
    | some next => exact ih next (number + 1)

/-- The draft in the end, or the fault, of the trimmed pieces of a text. -/
def draftOf (text : String) : Except Fault Draft :=
  (Progress.steps {} 1 ((Text.piecesOfLines text.toList).map Text.trim)).map Progress.draft

/-- Reading a report depends on the draft in the end only, or on the fault. -/
theorem parse_eq_bind_draftOf (text label : String) :
    parse text label = (draftOf text).bind fun draft => draft.toRun label := by
  have hdraft : draftOf text = (Progress.steps {} 1 (trimmedLines text)).map Progress.draft := by
    unfold draftOf trimmedLines
    rcases Text.piecesOfLines_eq text.toList with hpieces | hpieces
    · rw [hpieces]
    · rw [hpieces, List.map_append]
      exact Progress.map_draft_steps_concat {} 1 _
  rw [hdraft, parse]
  cases Progress.steps {} 1 (trimmedLines text) with
  | ok progress => rfl
  | error fault => rfl

/-! ### Layouts -/

/-- A text is laid out differently in one of three ways. -/
inductive Relaid : String → String → Prop
  /-- Blanks at the two ends of any lines are added, taken away or replaced. -/
  | margins {text other : String}
    (h : List.Forall₂ Text.SameButMargins (Text.piecesOfLines text.toList)
      (Text.piecesOfLines other.toList)) : Relaid text other
  /-- A carriage return is put in front of every line feed. -/
  | lineEnds (text : String) : Relaid text (String.ofList (Text.withCarriageReturns text.toList))
  /-- A line feed is added at the end. -/
  | finalBreak (text : String) : Relaid text (text ++ "\n")

/-- A text that is laid out differently has the same draft in the end, or the same fault. -/
theorem Relaid.draftOf_eq {text other : String} (h : Relaid text other) :
    draftOf text = draftOf other := by
  unfold draftOf
  cases h with
  | margins h => rw [Text.forall₂_sameButMargins_iff.mp h]
  | lineEnds => rw [String.toList_ofList, Text.map_trim_withCarriageReturns]
  | finalBreak =>
    have hpieces : Text.piecesOfLines (text ++ "\n").toList =
        Text.piecesOfLines text.toList ++ [[]] := by
      rw [String.toList_append]
      exact Text.piecesOfLines_append_newline text.toList
    rw [hpieces, List.map_append]
    exact (Progress.map_draft_steps_concat {} 1 _).symm

/-- **The layout of a report makes no difference.**  However often the blanks at the ends of lines are
changed, carriage returns are put in front of line feeds or taken away from them, and a final line feed
is added or taken away, the outcome of reading stays the same: the run, or the fault with the number of
the line and its trimmed text. -/
theorem parse_of_relaid {text other : String} (h : Relation.EqvGen Relaid text other)
    (label : String) : parse text label = parse other label := by
  have hdraft : draftOf text = draftOf other := by
    induction h with
    | rel _ _ h => exact h.draftOf_eq
    | refl _ => rfl
    | symm _ _ _ ih => exact ih.symm
    | trans _ _ _ _ _ first second => exact first.trans second
  rw [parse_eq_bind_draftOf, parse_eq_bind_draftOf, hdraft]

/-- A malformed line is reported in the same way if its report is indented, has carriage returns and
ends without a line feed. -/
theorem parse_relaid_malformed :
    parse "\tLatency 1ms 1ms 1ms 50%  \r\n  Requests/sec: lots\r" "slow" =
      .error (.invalidValue 2 "Requests/sec: lots") := by
  have hmargins : Relaid "Latency 1ms 1ms 1ms 50%\nRequests/sec: lots\n"
      "\tLatency 1ms 1ms 1ms 50%  \n  Requests/sec: lots\n" :=
    .margins (Text.forall₂_sameButMargins_iff.mpr (by decide +kernel))
  have hlineEnds : Relaid "\tLatency 1ms 1ms 1ms 50%  \n  Requests/sec: lots\n"
      "\tLatency 1ms 1ms 1ms 50%  \r\n  Requests/sec: lots\r\n" := by
    have h := Relaid.lineEnds "\tLatency 1ms 1ms 1ms 50%  \n  Requests/sec: lots\n"
    have htext : String.ofList (Text.withCarriageReturns
        "\tLatency 1ms 1ms 1ms 50%  \n  Requests/sec: lots\n".toList) =
          "\tLatency 1ms 1ms 1ms 50%  \r\n  Requests/sec: lots\r\n" := by
      decide +kernel
    rwa [htext] at h
  have hfinalBreak : Relaid "\tLatency 1ms 1ms 1ms 50%  \r\n  Requests/sec: lots\r"
      "\tLatency 1ms 1ms 1ms 50%  \r\n  Requests/sec: lots\r\n" :=
    .finalBreak _
  have hplain : parse "Latency 1ms 1ms 1ms 50%\nRequests/sec: lots\n" "slow" =
      .error (.invalidValue 2 "Requests/sec: lots") := by
    decide +kernel
  rw [← hplain]
  refine (parse_of_relaid ?_ "slow").symm
  exact .trans _ _ _ (.rel _ _ hmargins)
    (.trans _ _ _ (.rel _ _ hlineEnds) (.symm _ _ (.rel _ _ hfinalBreak)))

end Report

end BenchCompare
