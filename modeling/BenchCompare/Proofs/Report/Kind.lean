import BenchCompare.Proofs.Report.Token
import BenchCompare.Report.Basic

/-!
# Kinds of report lines

Every line of a report is of the first *kind* that claims it, if any kind does.  Most kinds claim
the lines with a certain beginning, and two look for marks inside the line.  A kind says which fact
a line of it states (`Kind.fact?`) and whether the line has to state one (`Kind.demands`); a line is
*malformed* if it has to state a fact and does not.

This table has no memory of earlier lines.  `statement_eq` says that it agrees with what the reader
finds in a line, and `kind?_eq_none_of_percentileRow` that the rows of the latency distribution,
which the reader takes first while a block of them is open, are of no kind.  So whether a block is
open never decides whether a line is malformed.
-/

namespace BenchCompare.Report

/-- The kinds of lines, in the order in which a line is tried for them. -/
inductive Kind where
  | heading
  | rate
  | transferRate
  | socketErrors
  | failedResponses
  | plan
  | latency
  | threadRate
  | load
  | totals
  deriving DecidableEq

namespace Kind

/-- The kinds that go by the beginning of a line, in their order. -/
def withBeginning : List Kind :=
  [.heading, .rate, .transferRate, .socketErrors, .failedResponses, .plan, .latency, .threadRate]

/-- All kinds in their order. -/
def all : List Kind :=
  withBeginning ++ [.load, .totals]

/-- What every line of a kind begins with. -/
def beginning : Kind → String
  | .heading => "Latency Distribution"
  | .rate => "Requests/sec:"
  | .transferRate => "Transfer/sec:"
  | .socketErrors => "Socket errors:"
  | .failedResponses => "Non-2xx or 3xx responses:"
  | .plan => "Running "
  | .latency => "Latency "
  | .threadRate => "Req/Sec "
  | .load | .totals => ""

/-- Whether a kind claims a trimmed line. -/
def claims (kind : Kind) (line : List Char) : Bool :=
  match kind with
  | .load =>
    Text.contains " threads and ".toList line && "connections".toList.isSuffixOf line
  | .totals => Text.contains " requests in ".toList line
  | _ => kind.beginning.toList.isPrefixOf line

/-- What follows the beginning of a line. -/
def value (kind : Kind) (line : List Char) : List Char :=
  line.drop kind.beginning.length

/-- The fact that a line of a kind states, if it states one. -/
def fact? (kind : Kind) (line : List Char) : Option Fact :=
  match kind with
  | .heading => none
  | .rate => (rateValue? (kind.value line)).map .rate
  | .transferRate => (sizeValue? (kind.value line)).map .transferRate
  | .socketErrors => (socketErrors? (kind.value line)).map .socketErrors
  | .failedResponses =>
    (Numeral.word64 (Text.trim (kind.value line))).toOption.map .failedResponses
  | .plan =>
    match Text.cutAt? " test @ ".toList (kind.value line) with
    | none => none
    | some (duration, target) =>
      (duration? (Text.trim duration)).map fun d => .plan d (String.ofList (Text.trim target))
  | .latency => (latencyRow? line).map .latency
  | .threadRate => (threadRow? line).map .threadRate
  | .load => (loadLine? line).map fun (threads, connections) => .load threads connections
  | .totals =>
    (totalsLine? line).map fun (requests, elapsed, bytes) => .totals requests elapsed bytes

/-- Whether a line of a kind has to state a fact. -/
def demands (kind : Kind) (line : List Char) : Bool :=
  match kind with
  | .heading | .latency | .threadRate => false
  | .plan => Text.contains " test @ ".toList (kind.value line)
  | _ => true

/-- Whether a line of a kind ought to state a fact but does not. -/
def rejects (kind : Kind) (line : List Char) : Bool :=
  kind.demands line && (kind.fact? line).isNone

end Kind

/-- The kind of a trimmed line: the first one that claims it. -/
def kind? (line : List Char) : Option Kind :=
  Kind.all.find? fun kind => kind.claims line

/-- Whether the kind of a line rejects it. -/
def isMalformed (line : List Char) : Bool :=
  (kind? line).any fun kind => kind.rejects line

/-- The fact that a line states. -/
def stated? (line : List Char) : Option Fact :=
  (kind? line).bind fun kind => kind.fact? line

/-! ### Telling kinds apart -/

namespace Kind

/-- A kind that goes by the beginning of a line claims the lines with that beginning. -/
theorem claims_iff_beginning {kind : Kind} (h : kind ∈ withBeginning) {line : List Char} :
    kind.claims line = true ↔ kind.beginning.toList <+: line := by
  rw [← List.isPrefixOf_iff_prefix]
  cases kind with
  | load | totals => exact absurd h (by decide)
  | _ => rfl

/-- Two kinds claim lines with the same beginning only if one of them is the heading of the latency
distribution. -/
theorem eq_of_claims {kind other : Kind} (h : kind ∈ withBeginning) (hother : other ∈ withBeginning)
    {line : List Char} (hclaims : kind.claims line = true)
    (hotherClaims : other.claims line = true) (hheading : isDistributionHeading line = false) :
    other = kind := by
  have hne : ∀ k : Kind, k.claims line = true → k ≠ .heading := by
    rintro k hk rfl
    rw [show isDistributionHeading line = true from hk] at hheading
    cases hheading
  have hprefix : kind.beginning.toList <+: other.beginning.toList
      ∨ other.beginning.toList <+: kind.beginning.toList :=
    List.prefix_or_prefix_of_prefix ((claims_iff_beginning h).mp hclaims)
      ((claims_iff_beginning hother).mp hotherClaims)
  have htable : ∀ k ∈ withBeginning, ∀ o ∈ withBeginning, k ≠ .heading → o ≠ .heading →
      (k.beginning.toList <+: o.beginning.toList ∨ o.beginning.toList <+: k.beginning.toList) →
      o = k := by decide
  exact htable kind h other hother (hne kind hclaims) (hne other hotherClaims) hprefix

end Kind

/-- A heading is of its own kind. -/
theorem kind?_of_isDistributionHeading {line : List Char} (h : isDistributionHeading line = true) :
    kind? line = some .heading := by
  have hclaims : Kind.heading.claims line = true := h
  exact List.find?_cons_of_pos hclaims

/-- A line other than a heading is of the kind that goes by its beginning. -/
theorem kind?_eq_some_of_claims {kind : Kind} (h : kind ∈ Kind.withBeginning) {line : List Char}
    (hclaims : kind.claims line = true) (hheading : isDistributionHeading line = false) :
    kind? line = some kind := by
  rw [kind?, Kind.all, List.find?_append]
  cases hfind : Kind.withBeginning.find? fun kind => kind.claims line with
  | none => exact absurd hclaims (List.find?_eq_none.mp hfind kind h)
  | some other =>
    have hother : other.claims line = true :=
      List.find?_some (p := fun k : Kind => k.claims line) hfind
    rw [Kind.eq_of_claims h (List.mem_of_find?_eq_some hfind) hclaims hother hheading]
    rfl

/-- A line of a kind is claimed by it. -/
theorem claims_of_kind?_eq_some {kind : Kind} {line : List Char} (h : kind? line = some kind) :
    kind.claims line = true :=
  List.find?_some (p := fun k : Kind => k.claims line) h

/-- The empty line is of no kind. -/
theorem kind?_nil : kind? [] = none := by decide

/-- A line of no kind is not malformed. -/
theorem isMalformed_of_kind?_eq_none {line : List Char} (h : kind? line = none) :
    isMalformed line = false := by
  rw [isMalformed, h]
  rfl

/-- A line of no kind states nothing. -/
theorem stated?_of_kind?_eq_none {line : List Char} (h : kind? line = none) :
    stated? line = none := by
  rw [stated?, h]
  rfl

/-! ### What a line states -/

/-- What follows a heading, by the length of the heading. -/
theorem after?_eq (heading : String) (line : List Char) :
    after? heading line =
      if heading.toList.isPrefixOf line then some (line.drop heading.length) else none := by
  rw [after?]
  split
  · next h =>
    obtain ⟨rest, rfl⟩ := List.isPrefixOf_iff_prefix.mp h
    rw [List.isPrefixOf?_eq_some_iff_append_eq, ← String.length_toList, List.drop_left]
  · next h =>
    rw [Option.eq_none_iff_forall_ne_some]
    rintro rest heq
    rw [List.isPrefixOf?_eq_some_iff_append_eq] at heq
    exact h (List.isPrefixOf_iff_prefix.mpr ⟨rest, heq⟩)

/-- The statement that a line of a kind makes. -/
def Kind.statement (kind : Kind) (line : List Char) : Statement :=
  if kind.rejects line then .malformed else .optional (kind.fact? line)

/-- A kind that always demands a fact makes a required statement. -/
theorem Kind.statement_of_demands (kind : Kind) {line : List Char} (h : kind.demands line = true) :
    kind.statement line = .required (kind.fact? line) := by
  cases hfact : kind.fact? line <;>
    simp [Kind.statement, Kind.rejects, h, hfact, Statement.required, Statement.optional]

/-- A kind that demands no fact makes an optional statement. -/
theorem Kind.statement_of_not_demands (kind : Kind) {line : List Char}
    (h : kind.demands line = false) : kind.statement line = .optional (kind.fact? line) := by
  simp [Kind.statement, Kind.rejects, h]

/-- What a line with the configured duration of the test states. -/
theorem planStatement_eq (line : List Char) :
    planStatement (Kind.plan.value line) = Kind.plan.statement line := by
  cases hcut : Text.cutAt? " test @ ".toList (Kind.plan.value line) with
  | none =>
    have hdemands : Kind.plan.demands line = false := by
      simp only [Kind.demands, Text.contains, hcut, Option.isSome_none]
    rw [Kind.statement_of_not_demands .plan hdemands]
    simp only [planStatement, Kind.fact?, hcut, Statement.optional]
  | some parts =>
    have hdemands : Kind.plan.demands line = true := by
      simp only [Kind.demands, Text.contains, hcut, Option.isSome_some]
    rw [Kind.statement_of_demands .plan hdemands]
    simp only [planStatement, Kind.fact?, hcut]

/-- What follows the heading of a line, by the kind with that heading. -/
theorem Kind.after?_beginning (kind : Kind) (hload : kind ≠ .load) (htotals : kind ≠ .totals)
    (line : List Char) :
    after? kind.beginning line = if kind.claims line then some (kind.value line) else none := by
  cases kind with
  | load => exact absurd rfl hload
  | totals => exact absurd rfl htotals
  | _ => exact after?_eq _ line

/-- Outside the latency distribution a line states what its kind says. -/
theorem statement_eq {line : List Char} (h : isDistributionHeading line = false) :
    statement line = (kind? line).elim .nothing fun kind => kind.statement line := by
  have hheading : Kind.heading.claims line = false := h
  have hrate : after? "Requests/sec:" line = _ :=
    Kind.after?_beginning .rate nofun nofun line
  have htransfer : after? "Transfer/sec:" line = _ :=
    Kind.after?_beginning .transferRate nofun nofun line
  have herrors : after? "Socket errors:" line = _ :=
    Kind.after?_beginning .socketErrors nofun nofun line
  have hfailed : after? "Non-2xx or 3xx responses:" line = _ :=
    Kind.after?_beginning .failedResponses nofun nofun line
  have hplan : after? "Running " line = _ :=
    Kind.after?_beginning .plan nofun nofun line
  have hlatency : after? "Latency " line = _ :=
    Kind.after?_beginning .latency nofun nofun line
  have hthread : after? "Req/Sec " line = _ :=
    Kind.after?_beginning .threadRate nofun nofun line
  have hload : (Text.contains " threads and ".toList line
      && "connections".toList.isSuffixOf line) = Kind.load.claims line := rfl
  have htotals : Text.contains " requests in ".toList line = Kind.totals.claims line := rfl
  rw [statement, hrate, htransfer, herrors, hfailed, hplan, hlatency, hthread, hload, htotals,
    kind?]
  simp only [Kind.all, Kind.withBeginning, List.cons_append, List.nil_append, List.find?, hheading]
  cases Kind.rate.claims line with
  | true => exact (Kind.statement_of_demands .rate rfl).symm
  | false =>
  cases Kind.transferRate.claims line with
  | true => exact (Kind.statement_of_demands .transferRate rfl).symm
  | false =>
  cases Kind.socketErrors.claims line with
  | true => exact (Kind.statement_of_demands .socketErrors rfl).symm
  | false =>
  cases Kind.failedResponses.claims line with
  | true => exact (Kind.statement_of_demands .failedResponses rfl).symm
  | false =>
  cases Kind.plan.claims line with
  | true => exact planStatement_eq line
  | false =>
  cases Kind.latency.claims line with
  | true => exact (Kind.statement_of_not_demands .latency rfl).symm
  | false =>
  cases Kind.threadRate.claims line with
  | true => exact (Kind.statement_of_not_demands .threadRate rfl).symm
  | false =>
  cases Kind.load.claims line with
  | true => exact (Kind.statement_of_demands .load rfl).symm
  | false =>
  cases Kind.totals.claims line with
  | true => exact (Kind.statement_of_demands .totals rfl).symm
  | false => rfl

/-! ### Rows of the latency distribution -/

/-- A line that begins with a word and a blank has that word as its first word. -/
theorem words_of_isPrefixOf {w : List Char} (hw : Text.IsWord w) {c : Char}
    (hc : Text.isBlank c = true) {more line : List Char}
    (h : (w ++ c :: more).isPrefixOf line = true) : ∃ ws, Text.words line = w :: ws := by
  obtain ⟨rest, rfl⟩ := List.isPrefixOf_iff_prefix.mp h
  rw [List.append_assoc, List.cons_append, hw.words_append_cons hc]
  exact ⟨_, rfl⟩

/-- A row of the latency distribution is of no kind. -/
theorem kind?_eq_none_of_percentileRow {line : List Char} {entry : Percentile}
    (h : percentileRow? line = some entry) : kind? line = none := by
  obtain ⟨percent, latency, hwords, hpercent, hlatency⟩ := words_of_percentileRow? h
  -- The first word is a percentage, so the line cannot begin with a word that is none.
  have hfirst : ∀ {w more : List Char}, Text.IsWord w → percent? w = none →
      (w ++ ' ' :: more).isPrefixOf line = false := by
    intro w more hw hnone
    rw [Bool.eq_false_iff]
    intro hprefix
    obtain ⟨ws, hws⟩ := words_of_isPrefixOf hw (by decide) hprefix
    obtain ⟨rfl, -⟩ := List.cons.inj (hwords.symm.trans hws)
    rw [hnone] at hpercent
    cases hpercent
  have hletter : ∀ {c : Char} {more : List Char}, Text.isBlank c = false →
      (∀ cs, percent? (c :: cs) = none) → (c :: more).isPrefixOf line = false := by
    intro c more hc hnone
    rw [Bool.eq_false_iff]
    intro hprefix
    obtain ⟨rest, rfl⟩ := List.isPrefixOf_iff_prefix.mp hprefix
    obtain ⟨w, ws, hws⟩ := Text.exists_words_cons hc (more ++ rest)
    obtain ⟨rfl, -⟩ := List.cons.inj (hwords.symm.trans hws)
    rw [hnone] at hpercent
    cases hpercent
  -- A mark inside the line would be one of its two words.
  have hmark : ∀ {w more : List Char}, Text.IsWord w → percent? w = none → duration? w = none →
      Text.contains (' ' :: (w ++ ' ' :: more)) line = false := by
    intro w more hw hnoPercent hnoDuration
    rw [Bool.eq_false_iff]
    intro hcontains
    have hmem := hw.mem_words_of_contains (by decide) (by decide) more hcontains
    rw [hwords, List.mem_pair] at hmem
    rcases hmem with rfl | rfl
    · rw [hnoPercent] at hpercent
      cases hpercent
    · rw [hnoDuration] at hlatency
      cases hlatency
  rw [kind?, List.find?_eq_none]
  intro kind _
  rw [Bool.not_eq_true]
  cases kind with
  | heading => exact hfirst (w := "Latency".toList) (by decide) (by decide)
  | rate =>
    exact hletter (by decide) (percent?_cons_eq_none (by decide) (by decide) (by decide))
  | transferRate =>
    exact hletter (by decide) (percent?_cons_eq_none (by decide) (by decide) (by decide))
  | socketErrors => exact hfirst (w := "Socket".toList) (by decide) (by decide)
  | failedResponses => exact hfirst (w := "Non-2xx".toList) (by decide) (by decide)
  | plan => exact hfirst (w := "Running".toList) (by decide) (by decide)
  | latency => exact hfirst (w := "Latency".toList) (by decide) (by decide)
  | threadRate => exact hfirst (w := "Req/Sec".toList) (by decide) (by decide)
  | load =>
    have hthreads : Text.contains " threads and ".toList line = false :=
      hmark (w := "threads".toList) (by decide) (by decide) (by decide)
    rw [Kind.claims, hthreads, Bool.false_and]
  | totals =>
    exact hmark (w := "requests".toList) (by decide) (by decide) (by decide)

end BenchCompare.Report
