import BenchCompare.Proofs.Report.Layout
import BenchCompare.Proofs.Report.Meaning

/-!
# Printed reports are read back

Every line of a printed report states the fact that its tokens mean (`PrintedLine.stated?_text`),
whatever the tokens and the free text in it are.  The lines that begin with a heading are told apart
by it; the two lines that begin with a number are told apart by their words.

A report is a choice of lines in a fixed order, with an indentation in front of each
(`PrintedReport`).  Reading its text gives the run with the values of its tokens.
-/

namespace BenchCompare.Report

/-! ### Lines with a heading -/

namespace Kind

/-- What follows the beginning of a line, when the line is put together. -/
theorem value_append (kind : Kind) (value : List Char) :
    kind.value (kind.beginning.toList ++ value) = value := by
  rw [Kind.value, ← String.length_toList, List.drop_left]

/-- A kind that goes by the beginning of a line claims what is put together with it. -/
theorem claims_append {kind : Kind} (h : kind ∈ withBeginning) (value : List Char) :
    kind.claims (kind.beginning.toList ++ value) = true :=
  (claims_iff_beginning h).mpr ⟨value, rfl⟩

end Kind

/-- A line that begins like a kind, but not like the heading of the latency distribution, states
what the kind reads from it. -/
theorem stated?_append {kind : Kind} (h : kind ∈ Kind.withBeginning) {value : List Char}
    (hheading : isDistributionHeading (kind.beginning.toList ++ value) = false) :
    stated? (kind.beginning.toList ++ value) = kind.fact? (kind.beginning.toList ++ value) :=
  stated?_of_kind? (kind?_eq_some_of_claims h (Kind.claims_append h value) hheading)

/-! ### Lines with a number in front -/

/-- A kind that goes by the beginning of a line claims no line that begins with a digit. -/
theorem Kind.claims_cons_of_isDigit {kind : Kind} (h : kind ∈ withBeginning) {c : Char}
    (hc : c.isDigit = true) (cs : List Char) : kind.claims (c :: cs) = false := by
  have htable : ∀ kind ∈ withBeginning, ∃ first rest,
      kind.beginning.toList = first :: rest ∧ first.isDigit = false := by
    intro kind hkind
    cases kind with
    | load | totals => exact absurd hkind (by decide)
    | _ => exact ⟨_, _, rfl, by decide⟩
  obtain ⟨first, rest, hbeginning, hfirst⟩ := htable kind h
  rw [Bool.eq_false_iff]
  intro hclaims
  obtain ⟨more, hmore⟩ := (claims_iff_beginning h).mp hclaims
  rw [hbeginning] at hmore
  obtain ⟨rfl, -⟩ := List.cons.inj hmore
  rw [hc] at hfirst
  cases hfirst

/-- A line that begins with a number is a line with the load, a line with the totals, or of no
kind. -/
theorem kind?_digits_append (n : Nat) (cs : List Char) :
    kind? (Numeral.digits n ++ cs) =
      [Kind.load, Kind.totals].find? fun kind => kind.claims (Numeral.digits n ++ cs) := by
  obtain ⟨c, ds, hdigits, hc⟩ := Numeral.exists_digits_cons n
  rw [kind?, Kind.all, List.find?_append, Option.or_eq_right_of_none]
  rw [List.find?_eq_none, hdigits]
  intro kind hkind
  simp [Kind.claims_cons_of_isDigit hkind hc]

/-! ### Words of a time -/

/-- A number in front of a unit has no comma. -/
theorem comma_not_mem_takeWhile (cs : List Char) : ',' ∉ cs.takeWhile isNumberChar := by
  intro h
  have := List.mem_takeWhile_imp h
  revert this
  decide

/-- A unit of time has no comma. -/
theorem comma_not_mem_of_timeUnit? {unit : List Char} {scale : Nat}
    (h : timeUnit? unit = some scale) : ',' ∉ unit := by
  obtain ⟨before, after, htable, -⟩ := List.lookup_eq_some_iff.mp h
  have hmem : (String.ofList unit, scale) ∈ before ++ (String.ofList unit, scale) :: after := by
    simp
  rw [← htable] at hmem
  have hnone : ∀ entry ∈ [("ns", 1), ("us", 1000), ("µs", 1000), ("μs", 1000), ("ms", 1000000),
      ("s", 1000000000), ("m", 60 * 1000000000), ("h", 3600 * 1000000000)],
      ',' ∉ entry.1.toList := by decide
  simpa using hnone _ hmem

/-- A word that is a time has no comma. -/
theorem comma_not_mem_duration (token : Token duration?) : ',' ∉ token.text := by
  have hread := token.read?_text
  rw [duration?, quantity?, amount?, (token.isWord duration?_nil).isTrimmed.trim_eq] at hread
  cases hnumber : (token.text.takeWhile isNumberChar).isEmpty with
  | true => simp [hnumber] at hread
  | false =>
    cases hparse : Binary64.parse? (token.text.takeWhile isNumberChar) with
    | none => simp [hnumber, hparse] at hread
    | some x =>
      cases hunit : timeUnit? (token.text.dropWhile isNumberChar) with
      | none => simp [hnumber, hparse, hunit] at hread
      | some scale =>
        rw [← List.takeWhile_append_dropWhile (l := token.text) (p := isNumberChar),
          List.mem_append, not_or]
        exact ⟨comma_not_mem_takeWhile _, comma_not_mem_of_timeUnit? hunit⟩

/-! ### What a line states -/

namespace PrintedLine

/-- A line with the load is of that kind, and states it. -/
theorem stated?_load (threads connections : UInt32) :
    stated? (load threads connections).text = some (.load threads connections) := by
  have hcolumns : (load threads connections).text = columns (Numeral.digits threads.toNat)
      [(0, "threads".toList), (0, "and".toList), (0, Numeral.digits connections.toNat),
        (0, "connections".toList)] := rfl
  have hwords : Text.words (load threads connections).text =
      [Numeral.digits threads.toNat, "threads".toList, "and".toList,
        Numeral.digits connections.toNat, "connections".toList] := by
    rw [hcolumns, words_columns (Numeral.isWord_digits _)]
    · rfl
    · simp only [List.forall_mem_cons, List.not_mem_nil, false_implies, implies_true, and_true]
      exact ⟨by decide, by decide, Numeral.isWord_digits _, by decide⟩
  have hclaims : Kind.load.claims (load threads connections).text = true := by
    rw [Kind.claims, Bool.and_eq_true, Text.contains_iff_isInfix, List.isSuffixOf_iff_suffix,
      text_load]
    exact ⟨⟨_, _, List.append_assoc _ _ _⟩,
      ⟨Numeral.digits threads.toNat ++ (" threads and ".toList
        ++ (Numeral.digits connections.toNat ++ [' '])), by simp⟩⟩
  have hkind : kind? (load threads connections).text = some .load := by
    rw [text_load, kind?_digits_append, ← text_load, List.find?, hclaims]
  rw [stated?_of_kind? hkind, Kind.fact?, loadLine?, hwords]
  simp [Numeral.word32_digits, Except.toOption]

/-- A line with the totals is of that kind, and states them. -/
theorem stated?_totals (requests : UInt64) (elapsed : Token duration?) (bytes : Token size?) :
    stated? (totals requests elapsed bytes).text =
      some (.totals requests elapsed.value bytes.value) := by
  let before := columns (Numeral.digits requests.toNat)
    [(0, "requests".toList), (0, "in".toList), (0, elapsed.text)]
  let after := columns bytes.text [(0, "read".toList)]
  have hcut : Text.cutAtChar? ',' (totals requests elapsed bytes).text =
      some (before, ' ' :: after) := by
    have htext : (totals requests elapsed bytes).text = before ++ ',' :: ' ' :: after := by
      simp [text_totals, before, after, columns, spaces]
    have hcomma : ',' ∉ before := by
      simp [before, columns, spaces, comma_not_mem_duration,
        Numeral.not_mem_digits (show Char.isDigit ',' = false by decide)]
    rw [htext, Text.cutAtChar?_append_cons hcomma]
  have hbefore : Text.words before =
      [Numeral.digits requests.toNat, "requests".toList, "in".toList, elapsed.text] := by
    rw [words_columns (Numeral.isWord_digits _)]
    · rfl
    · simp only [List.forall_mem_cons, List.not_mem_nil, false_implies, implies_true, and_true]
      exact ⟨by decide, by decide, elapsed.isWord duration?_nil⟩
  have hafter : Text.words (' ' :: after) = [bytes.text, "read".toList] := by
    rw [Text.words_cons (by decide), words_columns (bytes.isWord size?_nil)]
    · rfl
    · simp only [List.forall_mem_cons, List.not_mem_nil, false_implies, implies_true, and_true]
      decide
  have hload : Kind.load.claims (totals requests elapsed bytes).text = false := by
    have hsuffix :
        "connections".toList.isSuffixOf (totals requests elapsed bytes).text = false := by
      rw [Bool.eq_false_iff, ne_eq, List.isSuffixOf_iff_suffix]
      rintro ⟨front, hfront⟩
      have hlast := congrArg List.getLast? hfront
      simp [text_totals, List.getLast?_cons] at hlast
    rw [Kind.claims, hsuffix, Bool.and_false]
  have htotals : Kind.totals.claims (totals requests elapsed bytes).text = true := by
    rw [Kind.claims, Text.contains_iff_isInfix, text_totals]
    exact ⟨_, _, List.append_assoc _ _ _⟩
  have hkind : kind? (totals requests elapsed bytes).text = some .totals := by
    rw [text_totals, kind?_digits_append, ← text_totals, List.find?, hload, List.find?, htotals]
  rw [stated?_of_kind? hkind, Kind.fact?, totalsLine?, hcut]
  simp [hbefore, hafter, Numeral.word64_digits, Except.toOption, elapsed.read?_text,
    bytes.read?_text]

/-- Counters in any order are read back one by one, whatever was set before. -/
theorem foldlM_addSocketError? (counts : SocketErrors) (counters : List Counter)
    (errors : SocketErrors) :
    (counters.map fun counter => ' ' :: counter.text counts).foldlM addSocketError? errors =
      some (counters.foldl (fun errors counter => counter.set (counter.get counts) errors)
        errors) := by
  have hadd : ∀ (counter : Counter) (errors : SocketErrors),
      addSocketError? errors (' ' :: counter.text counts) =
        some (counter.set (counter.get counts) errors) := by
    intro counter errors
    have hspace : ' ' ∉ counter.name.toList := by cases counter <;> decide
    have htrim : Text.trim (' ' :: counter.text counts) = counter.text counts :=
      (counter.isTrimmed_text counts).trim_blanks_append (isBlanks_replicate 1)
    have hset : ∀ count, setSocketError? errors counter.name count =
        some (counter.set count errors) := by
      intro count
      cases counter <;> rfl
    rw [addSocketError?, htrim, Counter.text, Text.cutAtChar?_append_cons hspace]
    simp only [(Numeral.isWord_digits _).isTrimmed.trim_eq, Numeral.word64_digits, Except.toOption,
      String.ofList_toList, Option.bind_eq_bind, Option.bind_some, hset]
  induction counters generalizing errors with
  | nil => rfl
  | cons counter counters ih =>
    rw [List.map_cons, List.foldlM_cons, hadd, Option.bind_eq_bind, Option.bind_some, ih,
      List.foldl_cons]

/-- Setting counters to the numbers that they have in given errors leaves the other counters as they
are. -/
theorem get_foldl_set (counts : SocketErrors) (counters : List Counter) (errors : SocketErrors)
    (counter : Counter) :
    counter.get (counters.foldl (fun errors counter => counter.set (counter.get counts) errors)
      errors) = if counter ∈ counters then counter.get counts else counter.get errors := by
  have hset : ∀ (other : Counter) (count : UInt64) (errors : SocketErrors),
      counter.get (other.set count errors) =
        if counter = other then count else counter.get errors := by
    intro other count errors
    cases counter <;> cases other <;> rfl
  induction counters using List.reverseRecOn with
  | nil => rfl
  | append_singleton counters last ih =>
    rw [List.foldl_append, List.foldl_cons, List.foldl_nil, hset, ih]
    by_cases hlast : counter = last
    · subst hlast
      simp
    · simp [hlast]

/-- The four counters are read back in any order. -/
theorem socketErrors?_text (counts : SocketErrors) (order : CounterOrder) :
    Report.socketErrors? (order.text counts) = some counts := by
  have hcomma : ∀ counter : Counter, ',' ∉ counter.text counts :=
    fun counter => counter.not_mem_text (by rintro ⟨⟩ <;> decide) (by decide) (by decide) counts
  have hpieces : Text.pieces (· == ',') (order.text counts) =
      order.counters.map fun counter => ' ' :: counter.text counts := by
    have hmem : ∀ piece ∈ order.counters.map fun counter => ' ' :: counter.text counts,
        ',' ∉ piece := by simp [hcomma]
    exact Text.pieces_intercalate hmem (by simp [order.counters_ne_nil])
  have heq : order.counters.foldl (fun errors counter => counter.set (counter.get counts) errors)
      {} = counts := by
    have hget : ∀ counter : Counter, counter.get (order.counters.foldl
        (fun errors counter => counter.set (counter.get counts) errors) {}) =
          counter.get counts := by
      intro counter
      rw [get_foldl_set, if_pos (order.mem_counters counter)]
    generalize order.counters.foldl _ _ = errors at hget
    cases errors
    cases counts
    simp only [SocketErrors.mk.injEq]
    exact ⟨hget .connect, hget .read, hget .write, hget .timeout⟩
  rw [Report.socketErrors?, hpieces, foldlM_addSocketError?, heq]

/-- The heads of the columns are of no kind. -/
theorem kind?_columnHeads (more : Fin 6 → Nat) : kind? (columnHeads more).text = none := by
  have hwords : Text.words (columnHeads more).text =
      "Thread".toList :: (Report.columnHeads more).map Prod.snd :=
    words_columns (by decide) (isWord_columnHeads more)
  have hmark : ∀ {w mark : List Char}, Text.IsWord w →
      w ∉ ["Thread", "Stats", "Avg", "Stdev", "Max", "+/-", "Stdev"].map String.toList →
      Text.contains (' ' :: (w ++ ' ' :: mark)) (columnHeads more).text = false := by
    intro w mark hw hmem
    rw [Bool.eq_false_iff]
    intro hcontains
    have := hw.mem_words_of_contains (by decide) (by decide) mark hcontains
    rw [hwords] at this
    exact hmem this
  rw [kind?, List.find?_eq_none]
  intro kind _
  rw [Bool.not_eq_true]
  cases kind with
  | load =>
    have hthreads : Text.contains " threads and ".toList (columnHeads more).text = false :=
      hmark (w := "threads".toList) (by decide) (by decide)
    rw [Kind.claims, hthreads, Bool.false_and]
  | totals => exact hmark (w := "requests".toList) (by decide) (by decide)
  | _ => rfl

/-- A row of the latency distribution has its two tokens as columns. -/
theorem percentileRow?_distributionRow (row : DistributionRow) :
    percentileRow? (distributionRow row).text = some row.entry := by
  have hcolumns : (distributionRow row).text =
      columns row.percent.text [(row.more, row.latency.text)] := rfl
  have hwords : Text.words (distributionRow row).text = [row.percent.text, row.latency.text] := by
    rw [hcolumns, words_columns (row.percent.isWord percent?_nil)]
    · rfl
    · simpa using row.latency.isWord duration?_nil
  rw [percentileRow?, hwords]
  simp [row.percent.read?_text, row.latency.read?_text, DistributionRow.entry]

/-- A row of the thread table begins with its name and a space. -/
theorem columns_cons_eq (first : List Char) (more : Nat) (word : List Char)
    (rest : List (Nat × List Char)) : columns first ((more, word) :: rest) =
      (first ++ [' ']) ++ (List.replicate more ' ' ++ columns word rest) := by
  simp [columns, spaces, List.replicate_succ]

/-- A row of the thread table with the latency states it. -/
theorem stated?_latency (row : TableRow duration?) :
    stated? (latency row).text = (latency row).fact? := by
  have hwords : Text.words (latency row).text = _ :=
    words_columns (by decide) (row.isWord_columns duration?_nil)
  have hrow : latencyRow? (latency row).text = some
      ⟨row.average.value, row.deviation.value, row.maximum.value, row.within.value⟩ := by
    rw [latencyRow?, hwords]
    simp [TableRow.columns, Token.read?_text]
  have hheading : isDistributionHeading (latency row).text = false := by
    rw [Bool.eq_false_iff]
    intro h
    rw [latencyRow?_of_isDistributionHeading h] at hrow
    cases hrow
  have hbeginning : (latency row).text = Kind.latency.beginning.toList ++ _ :=
    columns_cons_eq _ _ _ _
  have hfact : Kind.latency.fact? (latency row).text = (latency row).fact? := by
    rw [Kind.fact?, hrow]
    rfl
  rw [← hfact, hbeginning, stated?_append (by decide)]
  rwa [← hbeginning]

/-- A row of the thread table with the rates of the threads states them. -/
theorem stated?_threadRate (row : TableRow count?) :
    stated? (threadRate row).text = (threadRate row).fact? := by
  have hwords : Text.words (threadRate row).text = _ :=
    words_columns (by decide) (row.isWord_columns count?_nil)
  have hrow : threadRow? (threadRate row).text = some
      ⟨row.average.value, row.deviation.value, row.maximum.value, row.within.value⟩ := by
    rw [threadRow?, hwords]
    simp [TableRow.columns, Token.read?_text]
  have hbeginning : (threadRate row).text = Kind.threadRate.beginning.toList ++ _ :=
    columns_cons_eq _ _ _ _
  have hfact : Kind.threadRate.fact? (threadRate row).text = (threadRate row).fact? := by
    rw [Kind.fact?, hrow]
    rfl
  rw [← hfact, hbeginning, stated?_append (by decide)]
  rfl

/-- A line states the fact that its tokens mean. -/
theorem stated?_text (line : PrintedLine) : stated? line.text = line.fact? := by
  cases line with
  | plan duration target =>
    have hspace : ' ' ∉ duration.text := fun h => by cases duration.blankFree _ h
    have hcut : Text.cutAt? " test @ ".toList
        (duration.text ++ (" test @ ".toList ++ target.text.toList)) =
          some (duration.text, target.text.toList) :=
      Text.cutAt?_append_cons hspace "test @ ".toList _
    have htext : (plan duration target).text = Kind.plan.beginning.toList ++ _ :=
      text_plan duration target
    rw [htext, stated?_append (by decide) rfl, Kind.fact?, Kind.value_append]
    simp only [hcut, (duration.isWord duration?_nil).isTrimmed.trim_eq, target.isTrimmed.trim_eq,
      duration.read?_text, Option.map_some, String.ofList_toList, fact?]
  | load threads connections => exact stated?_load threads connections
  | columnHeads more => exact stated?_of_kind?_eq_none (kind?_columnHeads more)
  | latency row => exact stated?_latency row
  | threadRate row => exact stated?_threadRate row
  | heading => decide
  | distributionRow row =>
    exact stated?_of_kind?_eq_none
      (kind?_eq_none_of_percentileRow (percentileRow?_distributionRow row))
  | totals requests elapsed bytes => exact stated?_totals requests elapsed bytes
  | socketErrors counts order =>
    have htext : (socketErrors counts order).text = Kind.socketErrors.beginning.toList ++ _ :=
      text_socketErrors counts order
    rw [htext, stated?_append (by decide) rfl, Kind.fact?, Kind.value_append, socketErrors?_text]
    rfl
  | failedResponses count =>
    have htext : (failedResponses count).text = Kind.failedResponses.beginning.toList ++ _ :=
      text_failedResponses count
    have hspace : Text.IsBlanks (spaces 0) := isBlanks_replicate 1
    have htrim : Text.trim (spaces 0 ++ Numeral.digits count.toNat) = Numeral.digits count.toNat :=
      (Numeral.isWord_digits _).isTrimmed.trim_blanks_append hspace
    rw [htext, stated?_append (by decide) rfl, Kind.fact?, Kind.value_append, htrim,
      Numeral.word64_digits]
    rfl
  | rate more perSecond =>
    have htext : (rate more perSecond).text = Kind.rate.beginning.toList ++ _ :=
      text_rate more perSecond
    have hwords : Text.words (spaces more ++ perSecond.text) = [perSecond.text] := by
      rw [spaces, Text.words_blanks_append (isBlanks_replicate _),
        (perSecond.isWord rate?_nil).words_eq]
    rw [htext, stated?_append (by decide) rfl, Kind.fact?, Kind.value_append, rateValue?, hwords]
    change (rate? perSecond.text).map Fact.rate = _
    rw [perSecond.read?_text]
    rfl
  | transferRate more perSecond =>
    have htext : (transferRate more perSecond).text = Kind.transferRate.beginning.toList ++ _ :=
      text_transferRate more perSecond
    have hwords : Text.words (spaces more ++ perSecond.text) = [perSecond.text] := by
      rw [spaces, Text.words_blanks_append (isBlanks_replicate _),
        (perSecond.isWord size?_nil).words_eq]
    rw [htext, stated?_append (by decide) rfl, Kind.fact?, Kind.value_append, sizeValue?, hwords]
    change (size? perSecond.text).map Fact.transferRate = _
    rw [perSecond.read?_text]
    rfl

/-- A line is not malformed. -/
theorem isMalformed_text (line : PrintedLine) : isMalformed line.text = false := by
  cases hfact : line.fact? with
  | some fact =>
    obtain ⟨hkind, hread⟩ := kind?_of_stated? ((stated?_text line).trans hfact)
    rw [isMalformed_of_kind? hkind, Kind.rejects, hread, Option.isNone_some, Bool.and_false]
  | none =>
    cases line with
    | columnHeads more => exact isMalformed_of_kind?_eq_none (kind?_columnHeads more)
    | heading => decide
    | distributionRow row =>
      exact isMalformed_of_kind?_eq_none
        (kind?_eq_none_of_percentileRow (percentileRow?_distributionRow row))
    | _ => cases hfact

/-- The entry of the latency distribution on a line. -/
def entry? : PrintedLine → Option Percentile
  | .distributionRow row => some row.entry
  | _ => none

/-- The rows of the latency distribution are the lines with an entry, and no others. -/
theorem percentileRow?_text (line : PrintedLine) : percentileRow? line.text = line.entry? := by
  cases line with
  | distributionRow row => exact percentileRow?_distributionRow row
  | columnHeads more =>
    have hwords : Text.words (columnHeads more).text =
        "Thread".toList :: (Report.columnHeads more).map Prod.snd :=
      words_columns (by decide) (isWord_columnHeads more)
    rw [percentileRow?, hwords]
    rfl
  | heading => decide
  | _ =>
    -- A line that states a fact is of a kind, and a row is of no kind.
    refine Option.eq_none_iff_forall_ne_some.mpr fun entry hrow => ?_
    have hstated := stated?_of_kind?_eq_none (kind?_eq_none_of_percentileRow hrow)
    rw [stated?_text] at hstated
    cases hstated

end PrintedLine

/-! ### Reports -/

/-- Blanks in front of a line. -/
structure Indent where
  text : List Char
  isBlanks : Text.IsBlanks text
  oneLine : '\n' ∉ text

/-- A report as it is printed: the lines in their order, most of which may be left out, and the
indentation of each line. -/
structure PrintedReport where
  plan : Option (Token duration? × Target)
  load : Option (UInt32 × UInt32)
  columnHeads : Option (Fin 6 → Nat)
  latency : TableRow duration?
  threadRate : Option (TableRow count?)
  distribution : Option (List DistributionRow)
  totals : Option (UInt64 × Token duration? × Token size?)
  socketErrors : Option (SocketErrors × CounterOrder)
  failedResponses : Option UInt64
  rate : Nat × Token rate?
  transferRate : Option (Nat × Token size?)
  indent : Nat → Indent

namespace PrintedReport

/-- The lines in front of the latency distribution. -/
def opening (report : PrintedReport) : List PrintedLine :=
  (report.plan.map fun plan => .plan plan.1 plan.2).toList
    ++ ((report.load.map fun load => .load load.1 load.2).toList
    ++ ((report.columnHeads.map .columnHeads).toList
    ++ (.latency report.latency :: (report.threadRate.map .threadRate).toList)))

/-- The block of the latency distribution. -/
def block (report : PrintedReport) : List PrintedLine :=
  report.distribution.elim [] fun rows => .heading :: rows.map .distributionRow

/-- The lines after the latency distribution. -/
def closing (report : PrintedReport) : List PrintedLine :=
  (report.totals.map fun totals => .totals totals.1 totals.2.1 totals.2.2).toList
    ++ ((report.socketErrors.map fun errors => .socketErrors errors.1 errors.2).toList
    ++ ((report.failedResponses.map .failedResponses).toList
    ++ (.rate report.rate.1 report.rate.2
      :: (report.transferRate.map fun rate => .transferRate rate.1 rate.2).toList)))

/-- The lines of a report. -/
def lines (report : PrintedReport) : List PrintedLine :=
  report.opening ++ (report.block ++ report.closing)

/-- The text of a report: every line after its indentation, with a line feed at its end. -/
def text (report : PrintedReport) : String :=
  .ofList ((report.lines.zipIdx.map fun line => (report.indent line.2).text ++ line.1.text).flatMap
    (· ++ ['\n']))

/-- The run that a report means, by the values of its tokens. -/
def run (report : PrintedReport) (label : String) : Run where
  label
  target := report.plan.map fun plan => plan.2.text
  planned := report.plan.map fun plan => plan.1.value
  threads := report.load.map Prod.fst
  connections := report.load.map Prod.snd
  rate := report.rate.2.value
  latency :=
    { average := report.latency.average.value
      deviation := report.latency.deviation.value
      maximum := report.latency.maximum.value
      withinDeviation := report.latency.within.value }
  threadRate := report.threadRate.map fun row =>
    { average := row.average.value
      deviation := row.deviation.value
      maximum := row.maximum.value
      withinDeviation := row.within.value }
  distribution := (report.distribution.getD []).map DistributionRow.entry
  requests := report.totals.map fun totals => totals.1
  elapsed := report.totals.map fun totals => totals.2.1.value
  bytesRead := report.totals.map fun totals => totals.2.2.value
  transferRate := report.transferRate.map fun rate => rate.2.value
  socketErrors := (report.socketErrors.map Prod.fst).getD {}
  failedResponses := report.failedResponses.getD 0

/-- The trimmed lines of a report are the texts of its lines. -/
theorem trimmedLines_text (report : PrintedReport) :
    trimmedLines report.text = report.lines.map PrintedLine.text := by
  have hlines : ∀ line ∈ report.lines.zipIdx.map
      fun line => (report.indent line.2).text ++ line.1.text, '\n' ∉ line := by
    intro line hline
    obtain ⟨⟨printed, i⟩, -, rfl⟩ := List.mem_map.mp hline
    rw [List.mem_append, not_or]
    exact ⟨(report.indent i).oneLine, printed.newline_not_mem_text⟩
  have htrim : ∀ line : PrintedLine × Nat,
      Text.trim ((report.indent line.2).text ++ line.1.text) = line.1.text :=
    fun line => line.1.isTrimmed_text.trim_blanks_append (report.indent line.2).isBlanks
  rw [trimmedLines, text, String.toList_ofList, Text.lines_flatMap_append_newline hlines,
    List.map_map]
  calc report.lines.zipIdx.map (Text.trim ∘ fun line =>
        (report.indent line.2).text ++ line.1.text)
      = report.lines.zipIdx.map (PrintedLine.text ∘ Prod.fst) :=
        List.map_congr_left fun line _ => htrim line
    _ = report.lines.map PrintedLine.text := by
        rw [← List.map_map, List.zipIdx_map_fst]

/-- Lines that are no rows leave the distribution as it is. -/
theorem distribution_afterAll_of_forall_entry?_eq_none {lines : List PrintedLine}
    (h : ∀ line ∈ lines, line.entry? = none) (progress : Progress) :
    (progress.afterAll (lines.map PrintedLine.text)).draft.distribution =
      progress.draft.distribution := by
  induction lines generalizing progress with
  | nil => rfl
  | cons line lines ih =>
    rw [List.forall_mem_cons] at h
    have hrow : progress.row? line.text = none := by
      rw [Progress.row?, PrintedLine.percentileRow?_text, h.1, ite_self]
    rw [List.map_cons, Progress.afterAll, List.foldl_cons, ← Progress.afterAll, ih h.2,
      Progress.distribution_after, hrow, Option.toList_none, List.append_nil]

/-- In a block of the distribution the entries of the rows are added in their order. -/
theorem distribution_afterAll_rows (rows : List DistributionRow) {progress : Progress}
    (h : progress.inDistribution = true) :
    (progress.afterAll ((rows.map PrintedLine.distributionRow).map
      PrintedLine.text)).draft.distribution =
        progress.draft.distribution ++ rows.map DistributionRow.entry := by
  induction rows generalizing progress with
  | nil => simp [Progress.afterAll]
  | cons row rows ih =>
    have hrow : progress.row? (PrintedLine.distributionRow row).text = some row.entry := by
      rw [Progress.row?, h, if_pos rfl, PrintedLine.percentileRow?_distributionRow]
    have hopen : (progress.after (PrintedLine.distributionRow row).text).inDistribution = true := by
      rw [Progress.after, hrow, Option.isSome_some, Bool.or_true]
    rw [List.map_cons, List.map_cons, Progress.afterAll, List.foldl_cons, ← Progress.afterAll,
      ih hopen, Progress.distribution_after, hrow, Option.toList_some, List.append_assoc]
    rfl

/-- The rows of the blocks in a report are the entries of its distribution. -/
theorem blockRows_lines (report : PrintedReport) :
    blockRows (report.lines.map PrintedLine.text) =
      (report.distribution.getD []).map DistributionRow.entry := by
  have hopening : ∀ line ∈ report.opening, line.entry? = none := by
    intro line hline
    simp only [opening, List.mem_append, List.mem_cons, Option.mem_toList, Option.map_eq_some_iff]
      at hline
    rcases hline with ⟨_, -, rfl⟩ | ⟨_, -, rfl⟩ | ⟨_, -, rfl⟩ | rfl | ⟨_, -, rfl⟩ <;> rfl
  have hclosing : ∀ line ∈ report.closing, line.entry? = none := by
    intro line hline
    simp only [closing, List.mem_append, List.mem_cons, Option.mem_toList, Option.map_eq_some_iff]
      at hline
    rcases hline with ⟨_, -, rfl⟩ | ⟨_, -, rfl⟩ | ⟨_, -, rfl⟩ | rfl | ⟨_, -, rfl⟩ <;> rfl
  have hblock : ∀ progress : Progress,
      (progress.afterAll (report.block.map PrintedLine.text)).draft.distribution =
        progress.draft.distribution
          ++ (report.distribution.getD []).map DistributionRow.entry := by
    intro progress
    rw [block]
    cases report.distribution with
    | none => simp [Progress.afterAll]
    | some rows =>
      have hheading : isDistributionHeading PrintedLine.heading.text = true := by decide
      have hrow := Progress.row?_of_isDistributionHeading progress hheading
      have hopen : (progress.after PrintedLine.heading.text).inDistribution = true := by
        rw [Progress.after, hheading, Bool.true_or]
      rw [Option.elim_some, Option.getD_some, List.map_cons, Progress.afterAll, List.foldl_cons,
        ← Progress.afterAll, distribution_afterAll_rows rows hopen, Progress.distribution_after,
        hrow, Option.toList_none, List.append_nil]
  have happend : ∀ (progress : Progress) (xs ys : List PrintedLine),
      progress.afterAll ((xs ++ ys).map PrintedLine.text) =
        (progress.afterAll (xs.map PrintedLine.text)).afterAll (ys.map PrintedLine.text) := by
    intro progress xs ys
    rw [Progress.afterAll, List.map_append, List.foldl_append]
    rfl
  rw [← (distribution_afterAll _).1, lines, happend, happend,
    distribution_afterAll_of_forall_entry?_eq_none hclosing, hblock,
    distribution_afterAll_of_forall_entry?_eq_none hopening]
  rfl

/-- The last fact of a sort in a report, from its last line to its first. -/
theorem lastStated?_lines {α : Type} (pick? : Fact → Option α) (report : PrintedReport) :
    lastStated? pick? (report.lines.map PrintedLine.text) =
      ((report.transferRate.bind fun rate => pick? (.transferRate rate.2.value)).or
        <| (pick? (.rate report.rate.2.value)).or
        <| (report.failedResponses.bind fun count => pick? (.failedResponses count)).or
        <| (report.socketErrors.bind fun errors => pick? (.socketErrors errors.1)).or
        <| (report.totals.bind fun totals =>
          pick? (.totals totals.1 totals.2.1.value totals.2.2.value)).or
        <| (report.threadRate.bind fun row => pick? (.threadRate
          ⟨row.average.value, row.deviation.value, row.maximum.value, row.within.value⟩)).or
        <| (pick? (.latency ⟨report.latency.average.value, report.latency.deviation.value,
          report.latency.maximum.value, report.latency.within.value⟩)).or
        <| (report.load.bind fun load => pick? (.load load.1 load.2)).or
        <| report.plan.bind fun plan => pick? (.plan plan.1.value plan.2.text)) := by
  let picked? (line : PrintedLine) : Option α := line.fact?.bind pick?
  have hstated : lastStated? pick? (report.lines.map PrintedLine.text) =
      (report.lines.filterMap picked?).getLast? := by
    rw [lastStated?, List.filterMap_map]
    simp only [Function.comp_def, PrintedLine.stated?_text, picked?]
  have hcons : ∀ (line : PrintedLine) (lines : List PrintedLine),
      (line :: lines).filterMap picked? = (picked? line).toList ++ lines.filterMap picked? := by
    intro line lines
    cases h : picked? line <;> simp [h]
  have hoption : ∀ {β : Type} (part : Option β) (line : β → PrintedLine),
      (part.map line).toList.filterMap picked? = (part.bind fun b => picked? (line b)).toList := by
    rintro β ⟨⟩ line
    · rfl
    · rw [Option.map_some, Option.toList_some, hcons, List.filterMap_nil, List.append_nil]
      rfl
  have hblock : report.block.filterMap picked? = [] := by
    rw [List.filterMap_eq_nil_iff, block]
    cases report.distribution with
    | none => simp
    | some rows => simp [picked?, PrintedLine.fact?]
  have hlast : ∀ part : Option α, part.toList.getLast? = part := by
    rintro ⟨⟩ <;> rfl
  rw [hstated, lines, opening, closing]
  simp only [List.filterMap_append, hcons, hoption, hblock, List.getLast?_append, hlast,
    List.nil_append, Option.or_assoc]
  simp only [picked?, PrintedLine.fact?, Option.bind_some, Option.bind_none, Option.bind_fun_none,
    Option.none_or]

/-- **A printed report is read back.**  Reading the text of a report gives the run that the report
means: every field has the value of its token, and the fields of the lines that are left out are
empty. -/
theorem parse_text (report : PrintedReport) (label : String) :
    parse report.text label = .ok (report.run label) := by
  have hsound : AreSound (trimmedLines report.text) := by
    intro line hline
    rw [trimmedLines_text] at hline
    obtain ⟨printed, -, rfl⟩ := List.mem_map.mp hline
    exact printed.isMalformed_text
  have hmap : ∀ {α β : Type} (part : Option α) (value : α → β),
      (part.bind fun a => some (value a)) = part.map value := by
    rintro α β ⟨⟩ value <;> rfl
  rw [parse_eq_toRun label hsound, toRun_afterAll_eq_ok_iff, trimmedLines_text]
  exact
    { label_eq := rfl
      rate := by simp [lastStated?_lines, Fact.rate?, run]
      latency := by simp [lastStated?_lines, Fact.latency?, run]
      planned := by simp [lastStated?_lines, Fact.plan?, run, hmap, Function.comp_def]
      target := by simp [lastStated?_lines, Fact.plan?, run, hmap, Function.comp_def]
      threads := by simp [lastStated?_lines, Fact.load?, run, hmap]
      connections := by simp [lastStated?_lines, Fact.load?, run, hmap]
      threadRate := by simp [lastStated?_lines, Fact.threadRate?, run, hmap]
      distribution := (blockRows_lines report).symm
      requests := by simp [lastStated?_lines, Fact.totals?, run, hmap, Function.comp_def]
      elapsed := by simp [lastStated?_lines, Fact.totals?, run, hmap, Function.comp_def]
      bytesRead := by simp [lastStated?_lines, Fact.totals?, run, hmap, Function.comp_def]
      transferRate := by simp [lastStated?_lines, Fact.transferRate?, run, hmap]
      socketErrors := by simp [lastStated?_lines, Fact.socketErrors?, run, hmap]
      failedResponses := by simp [lastStated?_lines, Fact.failedResponses?, run, hmap] }

/-- A report without any of the lines that may be left out. -/
def shortest : PrintedReport where
  plan := none
  load := none
  columnHeads := none
  latency :=
    { average := ⟨"1.5ms".toList, ⟨1500000⟩, Text.IsWord.blankFree (by decide), by decide +kernel⟩
      deviation := ⟨"250us".toList, ⟨250000⟩, Text.IsWord.blankFree (by decide), by decide +kernel⟩
      maximum := ⟨"8ms".toList, ⟨8000000⟩, Text.IsWord.blankFree (by decide), by decide +kernel⟩
      within :=
        ⟨"93.5%".toList, .ofRatio 187 2, Text.IsWord.blankFree (by decide), by decide +kernel⟩
      more := fun _ => 3 }
  threadRate := none
  distribution := none
  totals := none
  socketErrors := none
  failedResponses := none
  rate :=
    (0, ⟨"1234.5".toList, .ofRatio 2469 2, Text.IsWord.blankFree (by decide), by decide +kernel⟩)
  transferRate := none
  indent := fun _ => ⟨List.replicate 2 ' ', isBlanks_replicate 2, by decide⟩

example : shortest.text =
    "  Latency    1.5ms    250us    8ms    93.5%\n  Requests/sec: 1234.5\n" := by
  decide +kernel

/-- A report with all of the lines that may be left out, and with the counters in another order. -/
def longest : PrintedReport where
  plan := some
    (⟨"30s".toList, ⟨30000000000⟩, Text.IsWord.blankFree (by decide), by decide +kernel⟩,
      { text := "http://localhost:8080/a b"
        ne_nil := by decide
        isTrimmed :=
          { head := by rintro c ⟨⟩; decide
            last := by rintro c ⟨⟩; decide }
        oneLine := by decide })
  load := some (12, 400)
  columnHeads := some fun column => column.val + 1
  latency := shortest.latency
  threadRate := some
    { average := ⟨"56.2k".toList, .ofNat 56200, Text.IsWord.blankFree (by decide), by decide +kernel⟩
      deviation := ⟨"8k".toList, .ofNat 8000, Text.IsWord.blankFree (by decide), by decide +kernel⟩
      maximum := ⟨"62k".toList, .ofNat 62000, Text.IsWord.blankFree (by decide), by decide +kernel⟩
      within :=
        ⟨"86.5%".toList, .ofRatio 173 2, Text.IsWord.blankFree (by decide), by decide +kernel⟩
      more := fun _ => 1 }
  distribution := some
    [⟨⟨"50%".toList, .ofNat 50, Text.IsWord.blankFree (by decide), by decide +kernel⟩,
        ⟨"250us".toList, ⟨250000⟩, Text.IsWord.blankFree (by decide), by decide +kernel⟩, 2⟩,
      ⟨⟨"99%".toList, .ofNat 99, Text.IsWord.blankFree (by decide), by decide +kernel⟩,
        ⟨"8ms".toList, ⟨8000000⟩, Text.IsWord.blankFree (by decide), by decide +kernel⟩, 4⟩]
  totals := some
    (22464657, ⟨"30.5s".toList, ⟨30500000000⟩, Text.IsWord.blankFree (by decide), by decide +kernel⟩,
      ⟨"17.5GB".toList, 18790481920, Text.IsWord.blankFree (by decide), by decide +kernel⟩)
  socketErrors := some
    ({ connect := 1, read := 2, write := 3, timeout := 36 },
      ⟨[.timeout, .connect, .read, .write], by decide⟩)
  failedResponses := some 7
  rate := shortest.rate
  transferRate := some
    (0, ⟨"606.5MB".toList, 635961344, Text.IsWord.blankFree (by decide), by decide +kernel⟩)
  indent := fun line =>
    ⟨List.replicate (line % 3) ' ', isBlanks_replicate _, fun h => by
      cases List.eq_of_mem_replicate h⟩

example : longest.lines.map (String.ofList ∘ PrintedLine.text) =
    ["Running 30s test @ http://localhost:8080/a b", "12 threads and 400 connections",
      "Thread  Stats   Avg    Stdev     Max      +/-       Stdev",
      "Latency    1.5ms    250us    8ms    93.5%", "Req/Sec  56.2k  8k  62k  86.5%",
      "Latency Distribution", "50%   250us", "99%     8ms",
      "22464657 requests in 30.5s, 17.5GB read",
      "Socket errors: timeout 36, connect 1, read 2, write 3", "Non-2xx or 3xx responses: 7",
      "Requests/sec: 1234.5", "Transfer/sec: 606.5MB"] := by
  decide +kernel

end PrintedReport

end BenchCompare.Report
