import BenchCompare.Proofs.Report.Faults

/-!
# The meaning of a report

The run that a report describes, read off all its lines at once and not line by line.  Every fact is
the last one of its sort; the rows of the latency distribution are the lines of blocks, a block
being a heading and the rows right after it (`IsBlockRow`).  A report is read exactly if none of its
lines is malformed and the run satisfies this description (`parse_eq_ok_iff`).
-/

namespace BenchCompare.Report

namespace Fact

/-- The transfer rate that a fact states. -/
def transferRate? : Fact → Option UInt64
  | .transferRate perSecond => some perSecond
  | _ => none

/-- The socket errors that a fact states. -/
def socketErrors? : Fact → Option SocketErrors
  | .socketErrors counts => some counts
  | _ => none

/-- The number of failed responses that a fact states. -/
def failedResponses? : Fact → Option UInt64
  | .failedResponses count => some count
  | _ => none

/-- The configured duration and the target that a fact states. -/
def plan? : Fact → Option (Duration × String)
  | .plan duration target => some (duration, target)
  | _ => none

/-- The rates of the threads that a fact states. -/
def threadRate? : Fact → Option ThreadStats
  | .threadRate stats => some stats
  | _ => none

/-- The numbers of threads and connections that a fact states. -/
def load? : Fact → Option (UInt32 × UInt32)
  | .load threads connections => some (threads, connections)
  | _ => none

/-- The number of requests, the measured duration and the bytes read that a fact states. -/
def totals? : Fact → Option (UInt64 × Duration × UInt64)
  | .totals requests elapsed bytes => some (requests, elapsed, bytes)
  | _ => none

end Fact

/-! ### Blocks of the latency distribution -/

/-- Whether a line is a row of the latency distribution, wherever it stands. -/
def isRow (line : List Char) : Bool :=
  (percentileRow? line).isSome

/-- The line at an index is in a block of the latency distribution: there is an earlier heading, and
all lines after the heading up to this line are rows. -/
def IsBlockRow (lines : List (List Char)) (i : Nat) : Prop :=
  ∃ j < i, lines[j]?.any isDistributionHeading = true
    ∧ ∀ k ≤ i, j < k → lines[k]?.any isRow = true

instance (lines : List (List Char)) (i : Nat) : Decidable (IsBlockRow lines i) :=
  inferInstanceAs (Decidable (∃ j < i, _ ∧ ∀ k ≤ i, j < k → _))

/-- The rows of the blocks of the latency distribution, in the order of the lines. -/
def blockRows (lines : List (List Char)) : List Percentile :=
  (List.range lines.length).filterMap fun i =>
    if IsBlockRow lines i then lines[i]?.bind percentileRow? else none

/-- A block of the latency distribution reaches to the end of the lines. -/
def IsOpen (lines : List (List Char)) : Prop :=
  ∃ j < lines.length, lines[j]?.any isDistributionHeading = true
    ∧ ∀ k < lines.length, j < k → lines[k]?.any isRow = true

/-- After one more line a block is open if the line is a heading, or if a block was open and the
line is a row. -/
theorem isOpen_concat_iff {lines : List (List Char)} {line : List Char} :
    IsOpen (lines ++ [line]) ↔
      isDistributionHeading line = true ∨ IsOpen lines ∧ isRow line = true := by
  have hold : ∀ {i : Nat}, i < lines.length → (lines ++ [line])[i]? = lines[i]? :=
    fun hi => List.getElem?_append_left hi
  have hnew : (lines ++ [line])[lines.length]? = some line := List.getElem?_concat_length
  simp only [IsOpen, List.length_append, List.length_singleton]
  constructor
  · rintro ⟨j, hj, hheading, hrows⟩
    rcases Nat.lt_succ_iff_lt_or_eq.mp hj with hj | rfl
    · right
      rw [hold hj] at hheading
      refine ⟨⟨j, hj, hheading, fun k hk hjk => ?_⟩, ?_⟩
      · rw [← hold hk]
        exact hrows k (Nat.lt_succ_of_lt hk) hjk
      · have := hrows lines.length (Nat.lt_succ_self _) hj
        rwa [hnew] at this
    · left
      rwa [hnew] at hheading
  · rintro (hheading | ⟨⟨j, hj, hheading, hrows⟩, hrow⟩)
    · refine ⟨lines.length, Nat.lt_succ_self _, by rwa [hnew], fun k hk hjk => ?_⟩
      omega
    · refine ⟨j, Nat.lt_succ_of_lt hj, by rwa [hold hj], fun k hk hjk => ?_⟩
      rcases Nat.lt_succ_iff_lt_or_eq.mp hk with hk | rfl
      · rw [hold hk]
        exact hrows k hk hjk
      · rwa [hnew]

/-- More lines change nothing for the lines in front of them. -/
theorem isBlockRow_append_of_lt {lines : List (List Char)} (more : List (List Char)) {i : Nat}
    (hi : i < lines.length) : IsBlockRow (lines ++ more) i ↔ IsBlockRow lines i := by
  have hold : ∀ {k : Nat}, k ≤ i → (lines ++ more)[k]? = lines[k]? :=
    fun hk => List.getElem?_append_left (Nat.lt_of_le_of_lt hk hi)
  refine exists_congr fun j => and_congr_right fun hj => ?_
  rw [hold (Nat.le_of_lt hj)]
  refine and_congr_right fun _ => forall₂_congr fun k hk => ?_
  rw [hold hk]

/-- A line at the end is in a block if a block was open and the line is a row. -/
theorem isBlockRow_concat_length {lines : List (List Char)} {line : List Char} :
    IsBlockRow (lines ++ [line]) lines.length ↔ IsOpen lines ∧ isRow line = true := by
  have hold : ∀ {i : Nat}, i < lines.length → (lines ++ [line])[i]? = lines[i]? :=
    fun hi => List.getElem?_append_left hi
  have hnew : (lines ++ [line])[lines.length]? = some line := List.getElem?_concat_length
  constructor
  · rintro ⟨j, hj, hheading, hrows⟩
    rw [hold hj] at hheading
    refine ⟨⟨j, hj, hheading, fun k hk hjk => ?_⟩, ?_⟩
    · rw [← hold hk]
      exact hrows k (Nat.le_of_lt hk) hjk
    · have := hrows lines.length (Nat.le_refl _) hj
      rwa [hnew] at this
  · rintro ⟨⟨j, hj, hheading, hrows⟩, hrow⟩
    refine ⟨j, hj, by rwa [hold hj], fun k hk hjk => ?_⟩
    rcases Nat.lt_or_eq_of_le hk with hk | rfl
    · rw [hold hk]
      exact hrows k hk hjk
    · rwa [hnew]

/-- One more line adds its row if a block was open. -/
theorem blockRows_concat {lines : List (List Char)} {line : List Char} {isOpen : Bool}
    (h : isOpen = true ↔ IsOpen lines) :
    blockRows (lines ++ [line]) =
      blockRows lines ++ (if isOpen then percentileRow? line else none).toList := by
  have hnew : (lines ++ [line])[lines.length]? = some line := List.getElem?_concat_length
  rw [blockRows, List.length_append, List.length_singleton, List.range_succ,
    List.filterMap_append]
  congr 1
  · refine List.filterMap_congr fun i hi => ?_
    have hi : i < lines.length := List.mem_range.mp hi
    simp only [isBlockRow_append_of_lt [line] hi, List.getElem?_append_left hi]
  · rw [List.filterMap_cons, List.filterMap_nil, hnew, Option.bind_some]
    simp only [isBlockRow_concat_length, ← h]
    cases hrow : percentileRow? line <;> cases isOpen <;> simp [isRow, hrow]

/-- One line adds its row to the distribution, if a row may come next. -/
theorem Progress.distribution_after (progress : Progress) (line : List Char) :
    (progress.after line).draft.distribution =
      progress.draft.distribution ++ (progress.row? line).toList := by
  rw [after, draftAfter]
  cases progress.row? line with
  | some entry => rfl
  | none =>
    have hadd : ∀ (draft : Draft) (fact : Fact),
        (draft.add fact).distribution = draft.distribution := by
      rintro draft ⟨⟩ <;> rfl
    rw [Option.toList_none, List.append_nil]
    cases stated? line with
    | none => rfl
    | some fact => exact hadd progress.draft fact

/-- Reading lines one by one finds the rows of the blocks, and knows whether a block is open. -/
theorem distribution_afterAll (lines : List (List Char)) :
    (Progress.afterAll {} lines).draft.distribution = blockRows lines
      ∧ ((Progress.afterAll {} lines).inDistribution = true ↔ IsOpen lines) := by
  induction lines using List.reverseRecOn with
  | nil => exact ⟨rfl, by simp [Progress.afterAll, IsOpen]⟩
  | append_singleton lines line ih =>
    obtain ⟨hrows, hopen⟩ := ih
    rw [Progress.afterAll, List.foldl_append, List.foldl_cons, List.foldl_nil, ← Progress.afterAll]
    generalize Progress.afterAll {} lines = progress at hrows hopen
    rw [blockRows_concat hopen, isOpen_concat_iff, ← hopen, ← hrows]
    constructor
    · exact Progress.distribution_after progress line
    · rw [Progress.after, Bool.or_eq_true, Progress.row?, isRow]
      cases progress.inDistribution <;> simp

/-! ### The run -/

/-- The run that trimmed lines describe, with a label. -/
structure Describes (lines : List (List Char)) (label : String) (run : Run) : Prop where
  label_eq : run.label = label
  rate : lastStated? Fact.rate? lines = some run.rate
  latency : lastStated? Fact.latency? lines = some run.latency
  planned : run.planned = (lastStated? Fact.plan? lines).map Prod.fst
  target : run.target = (lastStated? Fact.plan? lines).map Prod.snd
  threads : run.threads = (lastStated? Fact.load? lines).map Prod.fst
  connections : run.connections = (lastStated? Fact.load? lines).map Prod.snd
  threadRate : run.threadRate = lastStated? Fact.threadRate? lines
  distribution : run.distribution = blockRows lines
  requests : run.requests = (lastStated? Fact.totals? lines).map fun totals => totals.1
  elapsed : run.elapsed = (lastStated? Fact.totals? lines).map fun totals => totals.2.1
  bytesRead : run.bytesRead = (lastStated? Fact.totals? lines).map fun totals => totals.2.2
  transferRate : run.transferRate = lastStated? Fact.transferRate? lines
  socketErrors : run.socketErrors = (lastStated? Fact.socketErrors? lines).getD {}
  failedResponses : run.failedResponses = (lastStated? Fact.failedResponses? lines).getD 0

/-- A draft describes a run exactly if the run has its rate, its latency and its other fields. -/
theorem Draft.toRun_eq_ok_iff {draft : Draft} {label : String} {run : Run} :
    draft.toRun label = .ok run ↔
      draft.rate = some run.rate ∧ draft.latency = some run.latency
        ∧ run = { draft with label, rate := run.rate, latency := run.latency } := by
  rw [toRun]
  cases draft.rate with
  | none => simp
  | some rate =>
    cases draft.latency with
    | none => simp
    | some latency =>
      simp only [Except.ok.injEq, Option.some.injEq]
      constructor
      · rintro rfl
        exact ⟨rfl, rfl, rfl⟩
      · rintro ⟨rfl, rfl, h⟩
        exact h.symm

/-- The draft after all lines describes the run that the lines describe. -/
theorem toRun_afterAll_eq_ok_iff {lines : List (List Char)} {label : String} {run : Run} :
    (Progress.afterAll {} lines).draft.toRun label = .ok run ↔ Describes lines label run := by
  have hplanned := Progress.get_draft_afterAll_eq_map Draft.planned Fact.plan? Prod.fst rfl
    (fun _ fact => by cases fact <;> rfl) (fun _ _ => rfl) lines
  have htarget := Progress.get_draft_afterAll_eq_map Draft.target Fact.plan? Prod.snd rfl
    (fun _ fact => by cases fact <;> rfl) (fun _ _ => rfl) lines
  have hthreads := Progress.get_draft_afterAll_eq_map Draft.threads Fact.load? Prod.fst rfl
    (fun _ fact => by cases fact <;> rfl) (fun _ _ => rfl) lines
  have hconnections := Progress.get_draft_afterAll_eq_map Draft.connections Fact.load? Prod.snd rfl
    (fun _ fact => by cases fact <;> rfl) (fun _ _ => rfl) lines
  have hthreadRate := Progress.get_draft_afterAll_eq_map Draft.threadRate Fact.threadRate? id rfl
    (fun _ fact => by cases fact <;> rfl) (fun _ _ => rfl) lines
  have hrequests := Progress.get_draft_afterAll_eq_map Draft.requests Fact.totals?
    (fun totals => totals.1) rfl (fun _ fact => by cases fact <;> rfl) (fun _ _ => rfl) lines
  have helapsed := Progress.get_draft_afterAll_eq_map Draft.elapsed Fact.totals?
    (fun totals => totals.2.1) rfl (fun _ fact => by cases fact <;> rfl) (fun _ _ => rfl) lines
  have hbytesRead := Progress.get_draft_afterAll_eq_map Draft.bytesRead Fact.totals?
    (fun totals => totals.2.2) rfl (fun _ fact => by cases fact <;> rfl) (fun _ _ => rfl) lines
  have htransferRate := Progress.get_draft_afterAll_eq_map Draft.transferRate Fact.transferRate? id
    rfl (fun _ fact => by cases fact <;> rfl) (fun _ _ => rfl) lines
  have hsocketErrors := Progress.get_draft_afterAll Draft.socketErrors Fact.socketErrors? id
    (fun _ fact => by cases fact <;> rfl) (fun _ _ => rfl) {} lines
  have hfailed := Progress.get_draft_afterAll Draft.failedResponses Fact.failedResponses? id
    (fun _ fact => by cases fact <;> rfl) (fun _ _ => rfl) {} lines
  have helim : ∀ {α : Type} (value : Option α) (default : α),
      value.elim default id = value.getD default := by
    rintro α ⟨⟩ default <;> rfl
  rw [helim] at hsocketErrors hfailed
  have hdistribution := (distribution_afterAll lines).1
  rw [Option.map_id, id_eq] at hthreadRate htransferRate
  rw [Draft.toRun_eq_ok_iff, Progress.rate_afterAll, Progress.latency_afterAll]
  constructor
  · rintro ⟨hrate, hlatency, hrun⟩
    rw [hrun]
    exact ⟨rfl, hrate, hlatency, hplanned, htarget, hthreads, hconnections, hthreadRate,
      hdistribution, hrequests, helapsed, hbytesRead, htransferRate, hsocketErrors, hfailed⟩
  · intro h
    refine ⟨h.rate, h.latency, ?_⟩
    rw [hplanned, htarget, hthreads, hconnections, hthreadRate, hdistribution, hrequests, helapsed,
      hbytesRead, htransferRate, hsocketErrors, hfailed, ← h.label_eq, ← h.planned, ← h.target,
      ← h.threads, ← h.connections, ← h.threadRate, ← h.distribution, ← h.requests, ← h.elapsed,
      ← h.bytesRead, ← h.transferRate, ← h.socketErrors, ← h.failedResponses]

/-- Lines describe some run exactly if one of them has a rate and one of them is a row of the table
with the latency. -/
theorem exists_describes_iff {lines : List (List Char)} {label : String} (h : AreSound lines) :
    (∃ run, Describes lines label run) ↔
      (∃ line ∈ lines, Kind.rate.claims line = true)
        ∧ ∃ line ∈ lines, isLatencyRow line = true := by
  have hrate := rate_afterAll_eq_none_iff h
  have hlatency := @latency_afterAll_eq_none_iff lines
  simp only [← toRun_afterAll_eq_ok_iff, Draft.toRun]
  cases hr : (Progress.afterAll {} lines).draft.rate with
  | none =>
    have hnone := hrate.mp hr
    simp only [reduceCtorEq, exists_false, false_iff]
    rintro ⟨⟨line, hline, hclaims⟩, -⟩
    rw [hnone line hline] at hclaims
    cases hclaims
  | some rate =>
    have hsome : ∃ line ∈ lines, Kind.rate.claims line = true := by
      by_contra hno
      rw [hrate.mpr (by simpa using hno)] at hr
      cases hr
    cases hl : (Progress.afterAll {} lines).draft.latency with
    | none =>
      have hnone := hlatency.mp hl
      simp only [reduceCtorEq, exists_false, false_iff]
      rintro ⟨-, line, hline, hrow⟩
      rw [hnone line hline] at hrow
      cases hrow
    | some latency =>
      refine ⟨fun _ => ⟨hsome, ?_⟩, fun _ => ⟨_, rfl⟩⟩
      by_contra hno
      rw [hlatency.mpr (by simpa using hno)] at hl
      cases hl

/-- **The meaning of a report.**  Reading a report gives a run exactly if no line is malformed and
the lines describe the run; and it gives one exactly if no line is malformed, some line has a rate
and some line is a row of the table with the latency. -/
theorem parse_eq_ok_iff (text label : String) :
    (∀ run, parse text label = .ok run ↔
      AreSound (trimmedLines text) ∧ Describes (trimmedLines text) label run)
      ∧ ((∃ run, parse text label = .ok run) ↔
        AreSound (trimmedLines text) ∧ (∃ line ∈ trimmedLines text, Kind.rate.claims line = true)
          ∧ ∃ line ∈ trimmedLines text, isLatencyRow line = true) := by
  have hiff : ∀ run, parse text label = .ok run ↔
      AreSound (trimmedLines text) ∧ Describes (trimmedLines text) label run := by
    intro run
    by_cases hsound : AreSound (trimmedLines text)
    · rw [parse_eq_toRun label hsound, toRun_afterAll_eq_ok_iff]
      exact ⟨fun h => ⟨hsound, h⟩, fun h => h.2⟩
    · obtain ⟨number, content, hfirst⟩ := exists_isFirstMalformed_iff.mpr hsound
      rw [parse_of_isFirstMalformed label hfirst]
      exact ⟨nofun, fun h => absurd h.1 hsound⟩
  refine ⟨hiff, ?_⟩
  simp only [hiff, exists_and_left]
  exact and_congr_right exists_describes_iff

end BenchCompare.Report
