import BenchCompare.Proofs.Report.Meaning

/-!
# Lines between the lines of a report

A report may be interleaved with other output.  A *bystander* is a trimmed line that no part of the
reader has any use for: a blank line, or one without the beginnings and marks of the lines with facts
(`IsBystander`).  Bystanders state nothing and are never malformed, so all they can do is to end a
block of the latency distribution.  Where the next line is no row of such a block, the block ends
there anyway, and after that line the two readings have made the same progress
(`draft_afterAll_insert`).

So bystanders change nothing about the outcome of reading but the numbers of later lines
(`parse_insert`).
-/

namespace BenchCompare.Report

/-- A trimmed line that may stand between the lines of a report: it is neither the heading nor a row
of the latency distribution, and of no kind that states a fact of it. -/
structure IsBystander (line : List Char) : Prop where
  heading : Kind.heading.claims line = false
  rate : Kind.rate.claims line = false
  transferRate : Kind.transferRate.claims line = false
  socketErrors : Kind.socketErrors.claims line = false
  failedResponses : Kind.failedResponses.claims line = false
  plan : Kind.plan.claims line = true → Text.contains " test @ ".toList line = false
  latency : Kind.latency.claims line = true → latencyRow? line = none
  threadRate : Kind.threadRate.claims line = true → threadRow? line = none
  row : percentileRow? line = none
  totals : Kind.totals.claims line = false
  load : Kind.load.claims line = false

/-- A line is a bystander if it is one by each of the conditions. -/
theorem isBystander_iff {line : List Char} :
    IsBystander line ↔
      (∀ kind ∈ [Kind.heading, .rate, .transferRate, .socketErrors, .failedResponses, .totals,
          .load], kind.claims line = false)
        ∧ (Kind.plan.claims line = true → Text.contains " test @ ".toList line = false)
        ∧ (Kind.latency.claims line = true → latencyRow? line = none)
        ∧ (Kind.threadRate.claims line = true → threadRow? line = none)
        ∧ percentileRow? line = none := by
  simp only [List.forall_mem_cons, List.not_mem_nil, false_implies, implies_true, and_true]
  constructor
  · intro h
    exact ⟨⟨h.heading, h.rate, h.transferRate, h.socketErrors, h.failedResponses, h.totals, h.load⟩,
      h.plan, h.latency, h.threadRate, h.row⟩
  · rintro ⟨⟨hheading, hrate, htransfer, herrors, hfailed, htotals, hload⟩, hplan, hlatency, hthread,
      hrow⟩
    exact ⟨hheading, hrate, htransfer, herrors, hfailed, hplan, hlatency, hthread, hrow, htotals,
      hload⟩

instance (line : List Char) : Decidable (IsBystander line) :=
  decidable_of_iff _ isBystander_iff.symm

namespace IsBystander

/-- What follows the beginning of a line contains no mark that the line does not contain. -/
theorem contains_value_eq_false {mark line : List Char} (kind : Kind)
    (h : Text.contains mark line = false) : Text.contains mark (kind.value line) = false := by
  rw [Bool.eq_false_iff] at h ⊢
  intro hvalue
  have hinfix := (Text.contains_iff_isInfix.mp hvalue).trans (List.drop_suffix _ _).isInfix
  exact h (Text.contains_iff_isInfix.mpr hinfix)

/-- No kind that claims a bystander has a use for it. -/
theorem fact?_and_demands {line : List Char} (h : IsBystander line) {kind : Kind}
    (hclaims : kind.claims line = true) :
    kind.fact? line = none ∧ kind.demands line = false := by
  have hexcluded : ∀ {p : Prop} {k : Kind}, k.claims line = false → k.claims line = true → p := by
    intro p k hfalse htrue
    rw [hfalse] at htrue
    cases htrue
  cases kind with
  | heading => exact hexcluded h.heading hclaims
  | rate => exact hexcluded h.rate hclaims
  | transferRate => exact hexcluded h.transferRate hclaims
  | socketErrors => exact hexcluded h.socketErrors hclaims
  | failedResponses => exact hexcluded h.failedResponses hclaims
  | plan =>
    have hmark := contains_value_eq_false .plan (h.plan hclaims)
    have hcut : Text.cutAt? " test @ ".toList (Kind.plan.value line) = none := by
      rwa [Text.contains, Option.isSome_eq_false_iff, Option.isNone_iff_eq_none] at hmark
    exact ⟨by simp only [Kind.fact?, hcut], hmark⟩
  | latency => exact ⟨by rw [Kind.fact?, h.latency hclaims]; rfl, rfl⟩
  | threadRate => exact ⟨by rw [Kind.fact?, h.threadRate hclaims]; rfl, rfl⟩
  | load => exact hexcluded h.load hclaims
  | totals => exact hexcluded h.totals hclaims

/-- A bystander states nothing. -/
theorem stated?_eq_none {line : List Char} (h : IsBystander line) : stated? line = none := by
  rw [stated?, Option.bind_eq_none_iff]
  intro kind hkind
  exact (h.fact?_and_demands (claims_of_kind?_eq_some hkind)).1

/-- A bystander is not malformed. -/
theorem isMalformed_eq_false {line : List Char} (h : IsBystander line) :
    isMalformed line = false := by
  rw [isMalformed]
  cases hkind : kind? line with
  | none => rfl
  | some kind =>
    rw [Option.any_some, Kind.rejects, (h.fact?_and_demands (claims_of_kind?_eq_some hkind)).2,
      Bool.false_and]

/-- A bystander ends a block of the latency distribution and does nothing else. -/
theorem after_eq {line : List Char} (h : IsBystander line) (progress : Progress) :
    progress.after line = { draft := progress.draft } := by
  have hrow : progress.row? line = none := by
    rw [Progress.row?, h.row, ite_self]
  have hheading : isDistributionHeading line = false := h.heading
  rw [Progress.after, Progress.draftAfter, hrow, h.stated?_eq_none, hheading]
  rfl

end IsBystander

/-! ### Two readings -/

namespace Progress

/-- Bystanders leave the draft as it is, and no row of the latency distribution comes after the last
of them. -/
theorem afterAll_bystanders {lines : List (List Char)} (h : ∀ line ∈ lines, IsBystander line)
    (progress : Progress) :
    progress.afterAll lines = if lines.isEmpty then progress else { draft := progress.draft } := by
  induction lines generalizing progress with
  | nil => rfl
  | cons line lines ih =>
    rw [List.forall_mem_cons] at h
    rw [afterAll, List.foldl_cons, ← afterAll, h.1.after_eq, ih h.2, List.isEmpty_cons]
    simp only [ite_self, Bool.false_eq_true, if_false]

/-- Where a row of the latency distribution comes next only if the line is none, whether one may come
next makes no difference. -/
theorem after_eq_of_row?_eq_none {progress : Progress} {line : List Char}
    (h : progress.row? line = none) : progress.after line = after { draft := progress.draft } line := by
  have hclosed : row? { draft := progress.draft } line = none := rfl
  rw [after, after, draftAfter, draftAfter, h, hclosed]

/-- Whether a row of the latency distribution may come next makes no difference to the draft in the
end, if the first line is none. -/
theorem draft_afterAll_eq {progress : Progress} {lines : List (List Char)}
    (h : ∀ line ∈ lines.head?, progress.row? line = none) :
    (progress.afterAll lines).draft = (afterAll { draft := progress.draft } lines).draft := by
  cases lines with
  | nil => rfl
  | cons line lines =>
    rw [afterAll, afterAll, List.foldl_cons, List.foldl_cons, after_eq_of_row?_eq_none (h line rfl)]

end Progress

section Insert

variable {before inserted after : List (List Char)}

/-- After lines that are followed by no row of a block, no row comes next. -/
theorem row?_afterAll_eq_none (h : ¬ IsBlockRow (before ++ after) before.length) :
    ∀ line ∈ after.head?, (Progress.afterAll {} before).row? line = none := by
  cases after with
  | nil => nofun
  | cons line after =>
    rintro _ ⟨⟩
    have hlength : before.length < (before ++ [line]).length := by
      rw [List.length_append, List.length_singleton]
      exact Nat.lt_succ_self _
    rw [List.append_cons, isBlockRow_append_of_lt after hlength, isBlockRow_concat_length,
      ← (distribution_afterAll before).2, isRow] at h
    rw [Progress.row?]
    split
    · next hopen => simpa [hopen] using h
    · rfl

/-- Inserted bystanders change nothing about the draft in the end, unless they cut a block in two. -/
theorem draft_afterAll_insert (hinserted : ∀ line ∈ inserted, IsBystander line)
    (hnext : ¬ IsBlockRow (before ++ after) before.length) :
    (Progress.afterAll {} (before ++ (inserted ++ after))).draft =
      (Progress.afterAll {} (before ++ after)).draft := by
  have hclosed := Progress.draft_afterAll_eq (row?_afterAll_eq_none hnext)
  have hskipped := Progress.afterAll_bystanders hinserted (Progress.afterAll {} before)
  simp only [Progress.afterAll, List.foldl_append] at hclosed hskipped ⊢
  rw [hskipped]
  split
  · rfl
  · exact hclosed.symm

/-- Inserted bystanders are not malformed. -/
theorem areSound_insert_iff (hinserted : ∀ line ∈ inserted, IsBystander line) :
    AreSound (before ++ (inserted ++ after)) ↔ AreSound (before ++ after) := by
  have hsound : ∀ line ∈ inserted, isMalformed line = false :=
    fun line hline => (hinserted line hline).isMalformed_eq_false
  simp only [AreSound, List.forall_mem_append]
  exact and_congr_right fun _ => and_iff_right hsound

end Insert

/-- A fault after some lines were inserted behind the line with a number. -/
def Fault.shifted (position count : Nat) : Fault → Fault
  | .invalidValue line content =>
    .invalidValue (if position < line then line + count else line) content
  | fault => fault

/-- The first malformed line stays the first one, with a greater number if it is behind the inserted
bystanders. -/
theorem IsFirstMalformed.insert {before inserted after : List (List Char)}
    (hinserted : ∀ line ∈ inserted, IsBystander line) {number : Nat} {content : String}
    (h : IsFirstMalformed (before ++ after) number content) :
    IsFirstMalformed (before ++ (inserted ++ after))
      (if before.length < number then number + inserted.length else number) content := by
  obtain ⟨front, line, back, hlines, hfront, hline, rfl, rfl⟩ := h
  have hsound : AreSound inserted := fun line hline => (hinserted line hline).isMalformed_eq_false
  rcases List.append_eq_append_iff.mp hlines with ⟨middle, rfl, rfl⟩ | ⟨middle, rfl, hback⟩
  · -- The malformed line is behind the insertion.
    have hlt : before.length < (before ++ middle).length + 1 := by
      rw [List.length_append]
      omega
    refine ⟨before ++ (inserted ++ middle), line, back, by simp, ?_, hline, ?_, rfl⟩
    · simp only [AreSound, List.forall_mem_append] at hfront ⊢
      exact ⟨hfront.1, hsound, hfront.2⟩
    · rw [if_pos hlt]
      simp only [List.length_append]
      omega
  · cases middle with
    | nil =>
      -- The malformed line is the first one behind the insertion.
      rw [List.nil_append] at hback
      subst hback
      rw [List.append_nil]
      refine ⟨front ++ inserted, line, back, by simp, ?_, hline, ?_, rfl⟩
      · simp only [AreSound, List.forall_mem_append]
        exact ⟨hfront, hsound⟩
      · rw [if_pos (Nat.lt_succ_self _), List.length_append]
        omega
    | cons first middle =>
      -- The malformed line is in front of the insertion.
      obtain ⟨rfl, rfl⟩ := List.cons.inj hback
      have hlt : ¬ (front ++ line :: middle).length < front.length + 1 := by
        rw [List.length_append, List.length_cons]
        omega
      refine ⟨front, line, middle ++ (inserted ++ after), by simp, hfront, hline, ?_, rfl⟩
      rw [if_neg hlt]

/-- What is missing in a report has no line number. -/
theorem Draft.mapError_shifted_toRun (draft : Draft) (label : String) (position count : Nat) :
    (draft.toRun label).mapError (Fault.shifted position count) = draft.toRun label := by
  rw [toRun]
  split <;> rfl

/-- **Interleaved output is harmless.**  Lines that are bystanders when trimmed can be inserted
anywhere between the lines of a text, except in front of a row that is read in a block of the latency
distribution: the outcome of reading stays the same, but for the number of a malformed line behind
the insertion. -/
theorem parse_insert {text longer : String} {before inserted after : List (List Char)}
    (htext : Text.lines text.toList = before ++ after)
    (hlonger : Text.lines longer.toList = before ++ (inserted ++ after))
    (hinserted : ∀ line ∈ inserted, IsBystander (Text.trim line))
    (hnext : ¬ IsBlockRow (trimmedLines text) before.length) (label : String) :
    parse longer label =
      (parse text label).mapError (Fault.shifted before.length inserted.length) := by
  have hlines : trimmedLines text = before.map Text.trim ++ after.map Text.trim := by
    rw [trimmedLines, htext, List.map_append]
  have hlongerLines : trimmedLines longer =
      before.map Text.trim ++ (inserted.map Text.trim ++ after.map Text.trim) := by
    rw [trimmedLines, hlonger, List.map_append, List.map_append]
  have hbystanders : ∀ line ∈ inserted.map Text.trim, IsBystander line :=
    List.forall_mem_map.mpr hinserted
  rw [hlines, ← List.length_map Text.trim] at hnext
  by_cases hsound : AreSound (trimmedLines text)
  · have hlongerSound : AreSound (trimmedLines longer) := by
      rw [hlongerLines, areSound_insert_iff hbystanders, ← hlines]
      exact hsound
    rw [parse_eq_toRun label hsound, parse_eq_toRun label hlongerSound,
      Draft.mapError_shifted_toRun, hlongerLines, hlines, draft_afterAll_insert hbystanders hnext]
  · obtain ⟨number, content, hfirst⟩ := exists_isFirstMalformed_iff.mpr hsound
    have hlongerFirst := hlines ▸ hfirst
    have hshifted := IsFirstMalformed.insert hbystanders hlongerFirst
    rw [← hlongerLines, List.length_map, List.length_map] at hshifted
    rw [parse_of_isFirstMalformed label hfirst, parse_of_isFirstMalformed label hshifted]
    rfl

/-- Two bystanders, one of them blank, behind an open block and in front of a malformed line: the
number of that line grows by two. -/
theorem parse_insert_malformed :
    parse "Latency Distribution\n 50% 1.00ms\nhello\n\nRequests/sec: lots\n" "noisy" =
      (parse "Latency Distribution\n 50% 1.00ms\nRequests/sec: lots\n" "noisy").mapError
        (Fault.shifted 2 2) := by
  have hlines : Text.lines "Latency Distribution\n 50% 1.00ms\nRequests/sec: lots\n".toList =
      ["Latency Distribution".toList, " 50% 1.00ms".toList] ++ ["Requests/sec: lots".toList] := by
    decide
  have hlonger :
      Text.lines "Latency Distribution\n 50% 1.00ms\nhello\n\nRequests/sec: lots\n".toList =
        ["Latency Distribution".toList, " 50% 1.00ms".toList]
          ++ (["hello".toList, []] ++ ["Requests/sec: lots".toList]) := by
    decide
  exact parse_insert hlines hlonger (by decide) (by decide +kernel) "noisy"

end BenchCompare.Report
