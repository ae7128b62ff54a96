import BenchCompare.Proofs.Numeral.Digits
import BenchCompare.Report.Line

/-!
# The layout of a report

The lines of a report as the load generator prints them.  A printed line is made of tokens that the
readers accept, of numbers, of free text in one place, and of spaces between columns
(`PrintedLine`).  It has a text (`PrintedLine.text`), and it means a fact or a row of the latency
distribution, or nothing at all (`PrintedLine.fact?`, `PrintedLine.row?`).

A token carries the proof that it is accepted, so that the value of a line can be read off its
tokens.  The text of a line is trimmed and has no line feed, whatever the tokens are
(`PrintedLine.isTrimmed_text`, `PrintedLine.newline_not_mem_text`).
-/

namespace BenchCompare.Report

/-! ### Tokens -/

/-- A token without blanks that a reader accepts, and its value. -/
structure Token {α : Type} (read? : List Char → Option α) where
  text : List Char
  value : α
  blankFree : ∀ c ∈ text, Text.isBlank c = false
  read?_text : read? text = some value

/-- A token is a word, for the readers do not accept the empty text. -/
theorem Token.isWord {α : Type} {read? : List Char → Option α} (token : Token read?)
    (h : read? [] = none) : Text.IsWord token.text where
  ne_nil hnil := by
    have hread := token.read?_text
    rw [hnil, h] at hread
    cases hread
  blankFree := token.blankFree

/-- A rate, which is a number that is finite and not below zero. -/
def rate? (token : List Char) : Option Binary64 :=
  (Binary64.parse? token).filter Binary64.isFiniteNonneg

theorem duration?_nil : duration? [] = none := by decide

theorem size?_nil : size? [] = none := by decide

theorem count?_nil : count? [] = none := by decide

theorem share?_nil : share? [] = none := by decide

theorem percent?_nil : percent? [] = none := by decide

theorem rate?_nil : rate? [] = none := by decide

/-- What a plan tests: more than blanks, in one line, without blanks around it. -/
structure Target where
  text : String
  ne_nil : text.toList ≠ []
  isTrimmed : Text.IsTrimmed text.toList
  oneLine : '\n' ∉ text.toList

/-! ### Columns -/

/-- At least one space. -/
def spaces (more : Nat) : List Char :=
  List.replicate (more + 1) ' '

/-- Words with spaces between them. -/
def columns (first : List Char) : List (Nat × List Char) → List Char
  | [] => first
  | (more, word) :: rest => first ++ (spaces more ++ columns word rest)

/-- Spaces are blanks. -/
theorem isBlanks_replicate (n : Nat) : Text.IsBlanks (List.replicate n ' ') := by
  intro c hc
  rw [List.eq_of_mem_replicate hc]
  decide

/-- Spaces separate a word from the words after it. -/
theorem words_append_spaces_append {w : List Char} (hw : Text.IsWord w) (more : Nat)
    (cs : List Char) : Text.words (w ++ (spaces more ++ cs)) = w :: Text.words cs := by
  rw [spaces, List.replicate_succ, List.cons_append, hw.words_append_cons (by decide),
    Text.words_blanks_append (isBlanks_replicate more)]

/-- The words of columns are the columns. -/
theorem words_columns {first : List Char} (hfirst : Text.IsWord first)
    {rest : List (Nat × List Char)} (hrest : ∀ column ∈ rest, Text.IsWord column.2) :
    Text.words (columns first rest) = first :: rest.map Prod.snd := by
  induction rest generalizing first with
  | nil => exact hfirst.words_eq
  | cons column rest ih =>
    rw [List.forall_mem_cons] at hrest
    rw [columns, words_append_spaces_append hfirst, ih hrest.1 hrest.2]
    rfl

/-- Columns are not the empty text. -/
theorem columns_ne_nil {first : List Char} (hfirst : Text.IsWord first)
    (rest : List (Nat × List Char)) : columns first rest ≠ [] := by
  cases rest with
  | nil => exact hfirst.ne_nil
  | cons column rest => simp [columns, hfirst.ne_nil]

/-- Columns are trimmed. -/
theorem isTrimmed_columns {first : List Char} (hfirst : Text.IsWord first)
    {rest : List (Nat × List Char)} (hrest : ∀ column ∈ rest, Text.IsWord column.2) :
    Text.IsTrimmed (columns first rest) := by
  induction rest generalizing first with
  | nil => exact hfirst.isTrimmed
  | cons column rest ih =>
    rw [List.forall_mem_cons] at hrest
    exact hfirst.isTrimmed.append hfirst.ne_nil (ih hrest.1 hrest.2)
      (columns_ne_nil hrest.1 rest) _

/-- A text without blanks has no line feed. -/
theorem newline_not_mem_of_blankFree {cs : List Char} (h : ∀ c ∈ cs, Text.isBlank c = false) :
    '\n' ∉ cs := by
  intro hmem
  cases h _ hmem

/-- Spaces have no line feed. -/
theorem newline_not_mem_spaces (more : Nat) : '\n' ∉ spaces more := by
  intro h
  cases List.eq_of_mem_replicate h

/-- Columns have no line feed. -/
theorem newline_not_mem_columns {first : List Char} (hfirst : Text.IsWord first)
    {rest : List (Nat × List Char)} (hrest : ∀ column ∈ rest, Text.IsWord column.2) :
    '\n' ∉ columns first rest := by
  induction rest generalizing first with
  | nil => exact newline_not_mem_of_blankFree hfirst.blankFree
  | cons column rest ih =>
    rw [List.forall_mem_cons] at hrest
    simp only [columns, List.mem_append, not_or]
    exact ⟨newline_not_mem_of_blankFree hfirst.blankFree, newline_not_mem_spaces _,
      ih hrest.1 hrest.2⟩

/-- The four columns of a row of the thread table. -/
structure TableRow {α : Type} (read? : List Char → Option α) where
  average : Token read?
  deviation : Token read?
  maximum : Token read?
  within : Token share?
  /-- How many more spaces than one there are in front of each column. -/
  more : Fin 4 → Nat

/-- The columns of a row, each with the spaces in front of it. -/
def TableRow.columns {α : Type} {read? : List Char → Option α} (row : TableRow read?) :
    List (Nat × List Char) :=
  [(row.more 0, row.average.text), (row.more 1, row.deviation.text),
    (row.more 2, row.maximum.text), (row.more 3, row.within.text)]

/-- The columns of a row are words. -/
theorem TableRow.isWord_columns {α : Type} {read? : List Char → Option α} (row : TableRow read?)
    (h : read? [] = none) : ∀ column ∈ row.columns, Text.IsWord column.2 := by
  simp only [columns, List.forall_mem_cons, List.not_mem_nil, false_implies, implies_true, and_true]
  exact ⟨row.average.isWord h, row.deviation.isWord h, row.maximum.isWord h,
    row.within.isWord share?_nil⟩

/-- The columns under which the rows of the thread table stand. -/
def columnHeads (more : Fin 6 → Nat) : List (Nat × List Char) :=
  [(more 0, "Stats".toList), (more 1, "Avg".toList), (more 2, "Stdev".toList),
    (more 3, "Max".toList), (more 4, "+/-".toList), (more 5, "Stdev".toList)]

/-- The heads of the columns are words. -/
theorem isWord_columnHeads (more : Fin 6 → Nat) :
    ∀ column ∈ columnHeads more, Text.IsWord column.2 := by
  simp only [columnHeads, List.forall_mem_cons, List.not_mem_nil, false_implies, implies_true,
    and_true]
  decide

/-- The two columns of a row of the latency distribution. -/
structure DistributionRow where
  percent : Token percent?
  latency : Token duration?
  /-- How many more spaces than one there are between the columns. -/
  more : Nat

/-- The entry of a row of the latency distribution. -/
def DistributionRow.entry (row : DistributionRow) : Percentile where
  percent := row.percent.value
  latency := row.latency.value

/-! ### Counters of socket errors -/

/-- One of the counters of socket errors. -/
inductive Counter where
  | connect
  | read
  | write
  | timeout
  deriving DecidableEq

namespace Counter

/-- The name of a counter in a report. -/
def name : Counter → String
  | .connect => "connect"
  | .read => "read"
  | .write => "write"
  | .timeout => "timeout"

/-- The number that a counter has. -/
def get (counter : Counter) (errors : SocketErrors) : UInt64 :=
  match counter with
  | .connect => errors.connect
  | .read => errors.read
  | .write => errors.write
  | .timeout => errors.timeout

/-- The errors with another number for a counter. -/
def set (counter : Counter) (count : UInt64) (errors : SocketErrors) : SocketErrors :=
  match counter with
  | .connect => { errors with connect := count }
  | .read => { errors with read := count }
  | .write => { errors with write := count }
  | .timeout => { errors with timeout := count }

/-- A counter with its number, as in `timeout 36`. -/
def text (counter : Counter) (errors : SocketErrors) : List Char :=
  counter.name.toList ++ ' ' :: Numeral.digits (counter.get errors).toNat

/-- The name of a counter is a word. -/
theorem isWord_name (counter : Counter) : Text.IsWord counter.name.toList := by
  cases counter <;> decide

/-- A counter with its number is trimmed. -/
theorem isTrimmed_text (counter : Counter) (errors : SocketErrors) :
    Text.IsTrimmed (counter.text errors) :=
  counter.isWord_name.isTrimmed.append counter.isWord_name.ne_nil
    (Numeral.isWord_digits _).isTrimmed (Numeral.digits_ne_nil _) [' ']

/-- A character that is neither a letter of a name, nor a space, nor a digit is not in the text of a
counter. -/
theorem not_mem_text {c : Char} (hname : ∀ counter : Counter, c ∉ counter.name.toList)
    (hspace : c ≠ ' ') (hdigit : c.isDigit = false) (counter : Counter) (errors : SocketErrors) :
    c ∉ counter.text errors := by
  simp only [text, List.mem_append, List.mem_cons, not_or]
  exact ⟨hname counter, hspace, Numeral.not_mem_digits hdigit⟩

end Counter

/-- The four counters in any order. -/
structure CounterOrder where
  counters : List Counter
  perm : counters.Perm [.connect, .read, .write, .timeout]

/-- Every counter has its place in an order. -/
theorem CounterOrder.mem_counters (order : CounterOrder) (counter : Counter) :
    counter ∈ order.counters := by
  rw [order.perm.mem_iff]
  cases counter <;> decide

/-- An order is not empty. -/
theorem CounterOrder.counters_ne_nil (order : CounterOrder) : order.counters ≠ [] :=
  List.ne_nil_of_mem (order.mem_counters .connect)

/-- The counters with their numbers, each after a space, with commas between them. -/
def CounterOrder.text (order : CounterOrder) (errors : SocketErrors) : List Char :=
  [','].intercalate (order.counters.map fun counter => ' ' :: counter.text errors)

/-- Counters with commas between them end with a counter. -/
theorem exists_intercalate_eq_append {counters : List Counter} (h : counters ≠ [])
    (errors : SocketErrors) : ∃ (before : List Char) (last : Counter),
      [','].intercalate (counters.map fun counter => ' ' :: counter.text errors) =
        before ++ last.text errors := by
  induction counters with
  | nil => exact absurd rfl h
  | cons counter rest ih =>
    cases rest with
    | nil => exact ⟨[' '], counter, by simp⟩
    | cons next rest =>
      obtain ⟨before, last, hlast⟩ := ih (by simp)
      rw [List.map_cons, List.intercalate_cons_of_ne_nil (by simp), hlast]
      exact ⟨(' ' :: counter.text errors) ++ [','] ++ before, last, by simp⟩

/-- A character that is neither in the text of a counter nor a space nor a comma is not in the text
of all counters. -/
theorem not_mem_intercalate {c : Char} {errors : SocketErrors}
    (hcounter : ∀ counter : Counter, c ∉ counter.text errors) (hspace : c ≠ ' ') (hcomma : c ≠ ',')
    (counters : List Counter) :
    c ∉ [','].intercalate (counters.map fun counter => ' ' :: counter.text errors) := by
  induction counters with
  | nil => simp
  | cons counter rest ih =>
    cases rest with
    | nil => simp [hspace, hcounter]
    | cons next rest =>
      rw [List.map_cons, List.intercalate_cons_of_ne_nil (by simp)]
      simp only [List.mem_append, List.mem_cons, List.not_mem_nil, or_false, not_or]
      exact ⟨⟨⟨hspace, hcounter counter⟩, hcomma⟩, ih⟩

/-! ### Lines -/

/-- A line of a report, as it is printed. -/
inductive PrintedLine where
  | plan (duration : Token duration?) (target : Target)
  | load (threads connections : UInt32)
  | columnHeads (more : Fin 6 → Nat)
  | latency (row : TableRow duration?)
  | threadRate (row : TableRow count?)
  | heading
  | distributionRow (row : DistributionRow)
  | totals (requests : UInt64) (elapsed : Token duration?) (bytes : Token size?)
  | socketErrors (counts : SocketErrors) (order : CounterOrder)
  | failedResponses (count : UInt64)
  | rate (more : Nat) (perSecond : Token rate?)
  | transferRate (more : Nat) (perSecond : Token size?)

namespace PrintedLine

/-- The text of a line, without its indentation. -/
def text : PrintedLine → List Char
  | .plan duration target =>
    "Running ".toList ++ (duration.text ++ (" test @ ".toList ++ target.text.toList))
  | .load threads connections =>
    Numeral.digits threads.toNat
      ++ (" threads and ".toList ++ (Numeral.digits connections.toNat ++ " connections".toList))
  | .columnHeads more => columns "Thread".toList (Report.columnHeads more)
  | .latency row => columns "Latency".toList row.columns
  | .threadRate row => columns "Req/Sec".toList row.columns
  | .heading => "Latency Distribution".toList
  | .distributionRow row => columns row.percent.text [(row.more, row.latency.text)]
  | .totals requests elapsed bytes =>
    Numeral.digits requests.toNat
      ++ (" requests in ".toList
        ++ (elapsed.text ++ (", ".toList ++ (bytes.text ++ " read".toList))))
  | .socketErrors counts order => "Socket errors:".toList ++ order.text counts
  | .failedResponses count =>
    "Non-2xx or 3xx responses:".toList ++ (spaces 0 ++ Numeral.digits count.toNat)
  | .rate more perSecond => "Requests/sec:".toList ++ (spaces more ++ perSecond.text)
  | .transferRate more perSecond => "Transfer/sec:".toList ++ (spaces more ++ perSecond.text)

theorem text_plan (duration : Token duration?) (target : Target) :
    (plan duration target).text =
      "Running ".toList ++ (duration.text ++ (" test @ ".toList ++ target.text.toList)) := rfl

theorem text_load (threads connections : UInt32) :
    (load threads connections).text =
      Numeral.digits threads.toNat
        ++ (" threads and ".toList
          ++ (Numeral.digits connections.toNat ++ " connections".toList)) := rfl

theorem text_totals (requests : UInt64) (elapsed : Token duration?) (bytes : Token size?) :
    (totals requests elapsed bytes).text =
      Numeral.digits requests.toNat
        ++ (" requests in ".toList
          ++ (elapsed.text ++ (", ".toList ++ (bytes.text ++ " read".toList)))) := rfl

theorem text_socketErrors (counts : SocketErrors) (order : CounterOrder) :
    (socketErrors counts order).text = "Socket errors:".toList ++ order.text counts := rfl

theorem text_failedResponses (count : UInt64) :
    (failedResponses count).text =
      "Non-2xx or 3xx responses:".toList ++ (spaces 0 ++ Numeral.digits count.toNat) := rfl

theorem text_rate (more : Nat) (perSecond : Token rate?) :
    (rate more perSecond).text =
      "Requests/sec:".toList ++ (spaces more ++ perSecond.text) := rfl

theorem text_transferRate (more : Nat) (perSecond : Token size?) :
    (transferRate more perSecond).text =
      "Transfer/sec:".toList ++ (spaces more ++ perSecond.text) := rfl

/-- The fact that a line states, by the values of its tokens. -/
def fact? : PrintedLine → Option Fact
  | .plan duration target => some (.plan duration.value target.text)
  | .load threads connections => some (.load threads connections)
  | .latency row =>
    some (.latency ⟨row.average.value, row.deviation.value, row.maximum.value, row.within.value⟩)
  | .threadRate row =>
    some (.threadRate
      ⟨row.average.value, row.deviation.value, row.maximum.value, row.within.value⟩)
  | .totals requests elapsed bytes => some (.totals requests elapsed.value bytes.value)
  | .socketErrors counts _ => some (.socketErrors counts)
  | .failedResponses count => some (.failedResponses count)
  | .rate _ perSecond => some (.rate perSecond.value)
  | .transferRate _ perSecond => some (.transferRate perSecond.value)
  | .columnHeads _ | .heading | .distributionRow _ => none

/-- The text of a line is trimmed. -/
theorem isTrimmed_text (line : PrintedLine) : Text.IsTrimmed line.text := by
  -- Every line begins with a word and ends with a trimmed text.
  have happend : ∀ {w last : List Char}, Text.IsWord w → Text.IsTrimmed last → last ≠ [] →
      ∀ between, Text.IsTrimmed (w ++ (between ++ last)) :=
    fun hw hlast hne between => hw.isTrimmed.append hw.ne_nil hlast hne between
  cases line with
  | plan duration target =>
    have h := happend (show Text.IsWord "Running".toList by decide) target.isTrimmed target.ne_nil
      (' ' :: (duration.text ++ " test @ ".toList))
    simpa [text_plan] using h
  | load threads connections =>
    have hlast : Text.IsWord "connections".toList := by decide
    have h := happend (Numeral.isWord_digits threads.toNat) hlast.isTrimmed hlast.ne_nil
      (" threads and ".toList ++ (Numeral.digits connections.toNat ++ [' ']))
    simpa [text_load] using h
  | columnHeads more => exact isTrimmed_columns (by decide) (isWord_columnHeads more)
  | latency row => exact isTrimmed_columns (by decide) (row.isWord_columns duration?_nil)
  | threadRate row => exact isTrimmed_columns (by decide) (row.isWord_columns count?_nil)
  | heading =>
    have hlast : Text.IsWord "Distribution".toList := by decide
    exact happend (show Text.IsWord "Latency".toList by decide) hlast.isTrimmed hlast.ne_nil [' ']
  | distributionRow row =>
    refine isTrimmed_columns (row.percent.isWord percent?_nil) ?_
    simpa using row.latency.isWord duration?_nil
  | totals requests elapsed bytes =>
    have hlast : Text.IsWord "read".toList := by decide
    have h := happend (Numeral.isWord_digits requests.toNat) hlast.isTrimmed hlast.ne_nil
      (" requests in ".toList ++ (elapsed.text ++ (", ".toList ++ (bytes.text ++ [' ']))))
    simpa [text_totals] using h
  | socketErrors counts order =>
    obtain ⟨before, counter, hlast⟩ := exists_intercalate_eq_append order.counters_ne_nil counts
    have h := happend (show Text.IsWord "Socket".toList by decide) (counter.isTrimmed_text counts)
      (by simp [Counter.text]) (" errors:".toList ++ before)
    simpa [text_socketErrors, CounterOrder.text, hlast] using h
  | failedResponses count =>
    exact happend (show Text.IsWord "Non-2xx".toList by decide)
      (Numeral.isWord_digits count.toNat).isTrimmed (Numeral.digits_ne_nil _)
      (" or 3xx responses:".toList ++ spaces 0)
  | rate more perSecond =>
    have hlast := perSecond.isWord rate?_nil
    exact happend (show Text.IsWord "Requests/sec:".toList by decide) hlast.isTrimmed hlast.ne_nil _
  | transferRate more perSecond =>
    have hlast := perSecond.isWord size?_nil
    exact happend (show Text.IsWord "Transfer/sec:".toList by decide) hlast.isTrimmed hlast.ne_nil _

/-- The text of a line has no line feed. -/
theorem newline_not_mem_text (line : PrintedLine) : '\n' ∉ line.text := by
  have hdigits : ∀ n, '\n' ∉ Numeral.digits n := fun n => Numeral.not_mem_digits (by decide)
  have htoken : ∀ {α : Type} {read? : List Char → Option α} (token : Token read?),
      '\n' ∉ token.text := fun token => newline_not_mem_of_blankFree token.blankFree
  cases line with
  | plan duration target => simp [text_plan, htoken, target.oneLine]
  | load threads connections => simp [text_load, hdigits]
  | columnHeads more => exact newline_not_mem_columns (by decide) (isWord_columnHeads more)
  | latency row => exact newline_not_mem_columns (by decide) (row.isWord_columns duration?_nil)
  | threadRate row => exact newline_not_mem_columns (by decide) (row.isWord_columns count?_nil)
  | heading => decide
  | distributionRow row =>
    refine newline_not_mem_columns (row.percent.isWord percent?_nil) ?_
    simpa using row.latency.isWord duration?_nil
  | totals requests elapsed bytes => simp [text_totals, hdigits, htoken]
  | socketErrors counts order =>
    have hcounter : ∀ counter : Counter, '\n' ∉ counter.text counts :=
      fun counter => counter.not_mem_text (by rintro ⟨⟩ <;> decide) (by decide) (by decide) counts
    simp [text_socketErrors, CounterOrder.text, not_mem_intercalate hcounter]
  | failedResponses count => simp [text_failedResponses, hdigits, newline_not_mem_spaces]
  | rate more perSecond => simp [text_rate, htoken, newline_not_mem_spaces]
  | transferRate more perSecond => simp [text_transferRate, htoken, newline_not_mem_spaces]

end PrintedLine

end BenchCompare.Report
