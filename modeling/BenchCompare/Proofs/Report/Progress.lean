import BenchCompare.Proofs.Report.Kind

/-!
# Progress through a report

One line takes the progress to `Progress.after`, unless the line is malformed
(`Progress.step?_eq`).  Whether it is malformed does not depend on the progress, so reading lines
either goes through all of them (`Progress.steps_eq_ok_iff`) or ends at the first malformed one
(`Progress.steps_eq_error_iff`).

A field of the draft that is set by the facts of one sort holds the last of these facts in the end
(`Progress.get_draft_afterAll`).
-/

namespace BenchCompare.Report

namespace Progress

/-- The row of the latency distribution on a line, if a row may come next. -/
def row? (progress : Progress) (line : List Char) : Option Percentile :=
  if progress.inDistribution then percentileRow? line else none

/-- The draft after a line, whose row or fact is added to it. -/
def draftAfter (progress : Progress) (line : List Char) : Draft :=
  match progress.row? line with
  | some entry => progress.draft.addPercentile entry
  | none => (stated? line).elim progress.draft progress.draft.add

/-- The progress after a line that is not malformed. -/
def after (progress : Progress) (line : List Char) : Progress where
  draft := progress.draftAfter line
  inDistribution := isDistributionHeading line || (progress.row? line).isSome

/-- The row of the latency distribution on a line is read off the line. -/
theorem percentileRow?_of_row? {progress : Progress} {line : List Char} {entry : Percentile}
    (h : progress.row? line = some entry) : percentileRow? line = some entry := by
  rw [row?] at h
  split at h
  · exact h
  · cases h

/-- A heading is no row of the latency distribution. -/
theorem row?_of_isDistributionHeading (progress : Progress) {line : List Char}
    (h : isDistributionHeading line = true) : progress.row? line = none := by
  rw [Option.eq_none_iff_forall_ne_some]
  intro entry hrow
  have hkind := kind?_eq_none_of_percentileRow (percentileRow?_of_row? hrow)
  rw [kind?_of_isDistributionHeading h] at hkind
  cases hkind

/-- What a line that is neither a heading nor a row does, by its kind. -/
theorem afterStatement?_statement (draft : Draft) {line : List Char}
    (h : isDistributionHeading line = false) :
    afterStatement? draft (statement line) =
      if isMalformed line then none
      else some { draft := (stated? line).elim draft draft.add } := by
  rw [statement_eq h, isMalformed, stated?]
  cases kind? line with
  | none => rfl
  | some kind =>
    simp only [Option.elim_some, Option.any_some, Option.bind_some, Kind.statement]
    cases kind.rejects line with
    | true => rfl
    | false => cases kind.fact? line <;> rfl

/-- One line takes the progress further, unless the line is malformed. -/
theorem step?_eq (progress : Progress) (line : List Char) :
    progress.step? line = if isMalformed line then none else some (progress.after line) := by
  rw [step?]
  cases line with
  | nil =>
    have hrow : progress.row? [] = none := by
      rw [row?]
      split
      · decide
      · rfl
    rw [isMalformed_of_kind?_eq_none kind?_nil, after, draftAfter, hrow,
      stated?_of_kind?_eq_none kind?_nil]
    rfl
  | cons c cs =>
    rw [List.isEmpty_cons, if_neg Bool.false_ne_true]
    cases hheading : isDistributionHeading (c :: cs) with
    | true =>
      have hkind := kind?_of_isDistributionHeading hheading
      rw [after, draftAfter, row?_of_isDistributionHeading progress hheading, hheading]
      simp [isMalformed, stated?, hkind, Kind.rejects, Kind.demands, Kind.fact?]
    | false =>
      rw [if_neg Bool.false_ne_true]
      change (match progress.row? (c :: cs) with | some entry => _ | none => _) = _
      cases hrow : progress.row? (c :: cs) with
      | some entry =>
        have hkind := kind?_eq_none_of_percentileRow (percentileRow?_of_row? hrow)
        rw [isMalformed_of_kind?_eq_none hkind, after, draftAfter, hrow, hheading]
        rfl
      | none =>
        simp only [afterStatement?_statement _ hheading, after, draftAfter, hrow, hheading]
        rfl

/-- The progress after lines that are not malformed. -/
def afterAll (progress : Progress) (lines : List (List Char)) : Progress :=
  lines.foldl after progress

/-- Reading goes through all lines exactly if none of them is malformed. -/
theorem steps_eq_ok_iff {progress next : Progress} {number : Nat} {lines : List (List Char)} :
    progress.steps number lines = .ok next ↔
      (∀ line ∈ lines, isMalformed line = false) ∧ next = progress.afterAll lines := by
  induction lines generalizing progress number with
  | nil =>
    rw [steps, afterAll, List.foldl_nil]
    constructor
    · rintro ⟨⟩
      exact ⟨by simp, rfl⟩
    · rintro ⟨-, rfl⟩
      rfl
  | cons line lines ih =>
    rw [steps, step?_eq]
    cases hline : isMalformed line with
    | true =>
      simp only [if_true]
      constructor
      · intro h
        cases h
      · rintro ⟨h, -⟩
        rw [h line List.mem_cons_self] at hline
        cases hline
    | false =>
      simp only [Bool.false_eq_true, if_false]
      rw [ih, List.forall_mem_cons, afterAll, afterAll, List.foldl_cons]
      simp [hline]

/-- Reading ends at a line exactly if it is the first malformed one. -/
theorem steps_eq_error_iff {progress : Progress} {number : Nat} {lines : List (List Char)}
    {fault : Fault} :
    progress.steps number lines = .error fault ↔
      ∃ before line after, lines = before ++ line :: after
        ∧ (∀ l ∈ before, isMalformed l = false) ∧ isMalformed line = true
        ∧ fault = .invalidValue (number + before.length) (String.ofList line) := by
  induction lines generalizing progress number with
  | nil =>
    rw [steps]
    constructor
    · intro h
      cases h
    · rintro ⟨before, line, after, h, -⟩
      simp at h
  | cons line lines ih =>
    rw [steps, step?_eq]
    cases hline : isMalformed line with
    | true =>
      simp only [if_true]
      constructor
      · rintro ⟨⟩
        exact ⟨[], line, lines, rfl, by simp, hline, rfl⟩
      · rintro ⟨before, line', after, hlines, hbefore, -, rfl⟩
        cases before with
        | nil =>
          obtain ⟨rfl, -⟩ := List.cons.inj hlines
          rfl
        | cons l before =>
          obtain ⟨rfl, -⟩ := List.cons.inj hlines
          rw [hbefore line List.mem_cons_self] at hline
          cases hline
    | false =>
      simp only [Bool.false_eq_true, if_false]
      rw [ih]
      constructor
      · rintro ⟨before, line', after, rfl, hbefore, hline', rfl⟩
        refine ⟨line :: before, line', after, rfl, ?_, hline', ?_⟩
        · rw [List.forall_mem_cons]
          exact ⟨hline, hbefore⟩
        · rw [List.length_cons, Nat.add_right_comm, Nat.add_assoc]
      · rintro ⟨before, line', after, hlines, hbefore, hline', rfl⟩
        cases before with
        | nil =>
          obtain ⟨rfl, -⟩ := List.cons.inj hlines
          rw [hline'] at hline
          cases hline
        | cons l before =>
          obtain ⟨rfl, rfl⟩ := List.cons.inj hlines
          refine ⟨before, line', after, rfl, fun l hl => hbefore l (List.mem_cons_of_mem _ hl),
            hline', ?_⟩
          rw [List.length_cons, Nat.add_right_comm, Nat.add_assoc]

end Progress

/-! ### Facts by their kind -/

namespace Fact

/-- The kind of the lines that state a fact. -/
def kind : Fact → Kind
  | .rate _ => .rate
  | .transferRate _ => .transferRate
  | .socketErrors _ => .socketErrors
  | .failedResponses _ => .failedResponses
  | .plan _ _ => .plan
  | .latency _ => .latency
  | .threadRate _ => .threadRate
  | .load _ _ => .load
  | .totals _ _ _ => .totals

/-- The rate that a fact states. -/
def rate? : Fact → Option Binary64
  | .rate perSecond => some perSecond
  | _ => none

/-- The latency that a fact states. -/
def latency? : Fact → Option LatencyStats
  | .latency stats => some stats
  | _ => none

end Fact

/-- A line of a kind states a fact of that kind. -/
theorem Kind.kind_of_fact? {kind : Kind} {line : List Char} {fact : Fact}
    (h : kind.fact? line = some fact) : fact.kind = kind := by
  cases kind with
  | heading => cases h
  | plan =>
    rw [fact?] at h
    split at h
    · cases h
    · obtain ⟨_, -, rfl⟩ := Option.map_eq_some_iff.mp h
      rfl
  | _ =>
    obtain ⟨_, -, rfl⟩ := Option.map_eq_some_iff.mp h
    rfl

/-- A line that states a fact is of its kind. -/
theorem kind?_of_stated? {line : List Char} {fact : Fact} (h : stated? line = some fact) :
    kind? line = some fact.kind ∧ fact.kind.fact? line = some fact := by
  obtain ⟨kind, hkind, hfact⟩ := Option.bind_eq_some_iff.mp h
  rw [Kind.kind_of_fact? hfact]
  exact ⟨hkind, hfact⟩

/-- A line of a kind states what the kind says. -/
theorem stated?_of_kind? {line : List Char} {kind : Kind} (h : kind? line = some kind) :
    stated? line = kind.fact? line := by
  rw [stated?, h]
  rfl

/-- A line of a kind is malformed if the kind rejects it. -/
theorem isMalformed_of_kind? {line : List Char} {kind : Kind} (h : kind? line = some kind) :
    isMalformed line = kind.rejects line := by
  rw [isMalformed, h]
  rfl

/-- A line that is not malformed states a rate exactly if it begins like a line with a rate. -/
theorem stated_rate_iff {line : List Char} (hline : isMalformed line = false) :
    (∃ perSecond, stated? line = some (.rate perSecond)) ↔ Kind.rate.claims line = true := by
  constructor
  · rintro ⟨perSecond, h⟩
    exact claims_of_kind?_eq_some (kind?_of_stated? h).1
  · intro hclaims
    have hheading : isDistributionHeading line = false := by
      obtain ⟨rest, rfl⟩ := (Kind.claims_iff_beginning (by decide)).mp hclaims
      rfl
    have hkind := kind?_eq_some_of_claims (by decide) hclaims hheading
    have hdemands : Kind.rate.demands line = true := rfl
    rw [isMalformed_of_kind? hkind, Kind.rejects, hdemands, Bool.true_and,
      Option.isNone_eq_false_iff, Option.isSome_iff_exists] at hline
    obtain ⟨fact, hfact⟩ := hline
    obtain ⟨perSecond, -, rfl⟩ := Option.map_eq_some_iff.mp hfact
    exact ⟨perSecond, by rw [stated?_of_kind? hkind, hfact]⟩

/-- Whether a line is a row of the table with the latency. -/
def isLatencyRow (line : List Char) : Bool :=
  Kind.latency.claims line && (latencyRow? line).isSome

/-- The heading of the latency distribution is no row of the table. -/
theorem latencyRow?_of_isDistributionHeading {line : List Char}
    (h : isDistributionHeading line = true) : latencyRow? line = none := by
  obtain ⟨rest, rfl⟩ := List.isPrefixOf_iff_prefix.mp h
  have hword : Text.IsWord "Latency".toList := by decide
  obtain ⟨w, ws, hws⟩ := Text.exists_words_cons (show Text.isBlank 'D' = false by decide)
    ("istribution".toList ++ rest)
  have hwords : Text.words ("Latency Distribution".toList ++ rest) =
      "Latency".toList :: ('D' :: w) :: ws := by
    rw [← hws]
    exact hword.words_append_cons (by decide) _
  have hduration : duration? ('D' :: w) = none :=
    duration?_cons_eq_none (by decide) (by decide) w
  rw [latencyRow?, hwords]
  cases ws with
  | nil => rfl
  | cons w₁ ws =>
  cases ws with
  | nil => rfl
  | cons w₂ ws =>
  cases ws with
  | nil => rfl
  | cons w₃ ws => simp [hduration]

/-- A line states a latency exactly if it is a row of the table with the latency. -/
theorem stated_latency_iff {line : List Char} :
    (∃ stats, stated? line = some (.latency stats)) ↔ isLatencyRow line = true := by
  rw [isLatencyRow, Bool.and_eq_true, Option.isSome_iff_exists]
  constructor
  · rintro ⟨stats, h⟩
    obtain ⟨hkind, hfact⟩ := kind?_of_stated? h
    obtain ⟨stats', hrow, -⟩ := Option.map_eq_some_iff.mp hfact
    exact ⟨claims_of_kind?_eq_some hkind, stats', hrow⟩
  · rintro ⟨hclaims, stats, hrow⟩
    have hheading : isDistributionHeading line = false := by
      rw [Bool.eq_false_iff]
      intro h
      rw [latencyRow?_of_isDistributionHeading h] at hrow
      cases hrow
    have hkind := kind?_eq_some_of_claims (by decide) hclaims hheading
    refine ⟨stats, ?_⟩
    rw [stated?_of_kind? hkind, Kind.fact?, hrow]
    rfl

/-! ### The last fact of a sort -/

/-- The last fact that lines state among the facts that `pick?` takes. -/
def lastStated? {α : Type} (pick? : Fact → Option α) (lines : List (List Char)) : Option α :=
  (lines.filterMap fun line => (stated? line).bind pick?).getLast?

/-- There is no last fact exactly if there is no fact that `pick?` takes. -/
theorem lastStated?_eq_none_iff {α : Type} {pick? : Fact → Option α} {lines : List (List Char)} :
    lastStated? pick? lines = none ↔ ∀ line ∈ lines, (stated? line).bind pick? = none := by
  rw [lastStated?, List.getLast?_eq_none_iff, List.filterMap_eq_nil_iff]

namespace Progress

/-- A field that one sort of facts sets holds the last of these facts, or what it held before. -/
theorem get_draft_afterAll {α β : Type} (get : Draft → β) (pick? : Fact → Option α) (set : α → β)
    (hadd : ∀ draft fact, get (draft.add fact) = (pick? fact).elim (get draft) set)
    (hrow : ∀ draft entry, get (draft.addPercentile entry) = get draft)
    (progress : Progress) (lines : List (List Char)) :
    get (progress.afterAll lines).draft =
      (lastStated? pick? lines).elim (get progress.draft) set := by
  have hafter : ∀ (progress : Progress) (line : List Char), get (progress.after line).draft =
      ((stated? line).bind pick?).elim (get progress.draft) set := by
    intro progress line
    rw [after, draftAfter]
    cases hentry : progress.row? line with
    | some entry =>
      have hkind := kind?_eq_none_of_percentileRow (percentileRow?_of_row? hentry)
      rw [stated?_of_kind?_eq_none hkind]
      exact hrow progress.draft entry
    | none =>
      cases hfact : stated? line with
      | none => rfl
      | some fact => exact hadd progress.draft fact
  induction lines using List.reverseRecOn with
  | nil => rfl
  | append_singleton lines line ih =>
    rw [afterAll, List.foldl_append, List.foldl_cons, List.foldl_nil, hafter, ← afterAll, ih,
      lastStated?, lastStated?, List.filterMap_append]
    cases hpick : (stated? line).bind pick? with
    | none => simp [hpick]
    | some a => simp [hpick]

/-- A field that is empty at first and that one sort of facts fills, each with a part of it, holds
that part of the last of these facts. -/
theorem get_draft_afterAll_eq_map {α β : Type} (get : Draft → Option β) (pick? : Fact → Option α)
    (part : α → β) (hnone : get {} = none)
    (hadd : ∀ draft fact,
      get (draft.add fact) = (pick? fact).elim (get draft) fun a => some (part a))
    (hrow : ∀ draft entry, get (draft.addPercentile entry) = get draft)
    (lines : List (List Char)) :
    get (afterAll {} lines).draft = (lastStated? pick? lines).map part := by
  rw [get_draft_afterAll get pick? (fun a => some (part a)) hadd hrow, hnone]
  cases lastStated? pick? lines <;> rfl

/-- The rate in the end is the last one that a line states. -/
theorem rate_afterAll (lines : List (List Char)) :
    (afterAll {} lines).draft.rate = lastStated? Fact.rate? lines := by
  rw [get_draft_afterAll_eq_map Draft.rate Fact.rate? id rfl
    (fun _ fact => by cases fact <;> rfl) (fun _ _ => rfl), Option.map_id, id_eq]

/-- The latency in the end is the last one that a line states. -/
theorem latency_afterAll (lines : List (List Char)) :
    (afterAll {} lines).draft.latency = lastStated? Fact.latency? lines := by
  rw [get_draft_afterAll_eq_map Draft.latency Fact.latency? id rfl
    (fun _ fact => by cases fact <;> rfl) (fun _ _ => rfl), Option.map_id, id_eq]

end Progress

end BenchCompare.Report
