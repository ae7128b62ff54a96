import BenchCompare.Report.Line
import BenchCompare.Text.Quoted

/-!
# Reports

A report is the text that the load generator prints.  Reading it goes through its lines once, with
one bit of context: whether the lines are rows of the latency distribution at the moment.  The block
of such rows begins after its heading and ends at the first line that is not a row.

Later facts of one kind replace earlier ones.  In the end the rate and the latency must have been
stated; everything else may be missing.
-/

namespace BenchCompare.Report

/-- Why a report cannot be read. -/
inductive Fault where
  | missingRate (label : String)
  | missingLatency (label : String)
  | invalidValue (line : Nat) (content : String)
  deriving DecidableEq, Repr

/-- The wording of a fault. -/
def Fault.message : Fault → String
  | .missingRate label => "No 'Requests/sec:' line found in " ++ label
  | .missingLatency label => "No latency statistics found in " ++ label
  | .invalidValue line content =>
    "Invalid value on line " ++ Numeral.text line ++ ": " ++ Text.quoted content

/-- The facts stated so far. -/
structure Draft where
  target : Option String := none
  planned : Option Duration := none
  threads : Option UInt32 := none
  connections : Option UInt32 := none
  rate : Option Binary64 := none
  latency : Option LatencyStats := none
  threadRate : Option ThreadStats := none
  distribution : List Percentile := []
  requests : Option UInt64 := none
  elapsed : Option Duration := none
  bytesRead : Option UInt64 := none
  transferRate : Option UInt64 := none
  socketErrors : SocketErrors := {}
  failedResponses : UInt64 := 0
  deriving DecidableEq

namespace Draft

/-- Adds a fact, in place of an earlier one of its kind. -/
def add (draft : Draft) : Fact → Draft
  | .rate perSecond => { draft with rate := some perSecond }
  | .transferRate perSecond => { draft with transferRate := some perSecond }
  | .socketErrors counts => { draft with socketErrors := counts }
  | .failedResponses count => { draft with failedResponses := count }
  | .plan duration target => { draft with planned := some duration, target := some target }
  | .latency stats => { draft with latency := some stats }
  | .threadRate stats => { draft with threadRate := some stats }
  | .load threads connections =>
    { draft with threads := some threads, connections := some connections }
  | .totals requests elapsed bytes =>
    { draft with requests := some requests, elapsed := some elapsed, bytesRead := some bytes }

/-- Adds a row of the latency distribution. -/
def addPercentile (draft : Draft) (entry : Percentile) : Draft :=
  { draft with distribution := draft.distribution ++ [entry] }

/-- The run that the facts describe. -/
def toRun (draft : Draft) (label : String) : Except Fault Run :=
  match draft.rate, draft.latency with
  | none, _ => .error (.missingRate label)
  | some _, none => .error (.missingLatency label)
  | some rate, some latency =>
    .ok
      { label, rate, latency
        target := draft.target
        planned := draft.planned
        threads := draft.threads
        connections := draft.connections
        threadRate := draft.threadRate
        distribution := draft.distribution
        requests := draft.requests
        elapsed := draft.elapsed
        bytesRead := draft.bytesRead
        transferRate := draft.transferRate
        socketErrors := draft.socketErrors
        failedResponses := draft.failedResponses }

end Draft

/-- How far a report has been read. -/
structure Progress where
  draft : Draft := {}
  /-- Whether a row of the latency distribution may come next. -/
  inDistribution : Bool := false
  deriving DecidableEq

namespace Progress

/-- The progress after a line that is no row of the latency distribution; `none` if the line is
malformed. -/
def afterStatement? (draft : Draft) : Statement → Option Progress
  | .states fact => some { draft := draft.add fact }
  | .malformed => none
  | .nothing => some { draft }

/-- The progress after a trimmed line; `none` if the line is malformed. -/
def step? (progress : Progress) (line : List Char) : Option Progress :=
  if line.isEmpty then some { draft := progress.draft }
  else if isDistributionHeading line then some { draft := progress.draft, inDistribution := true }
  else
    match if progress.inDistribution then percentileRow? line else none with
    | some entry => some { draft := progress.draft.addPercentile entry, inDistribution := true }
    | none => afterStatement? progress.draft (statement line)

/-- The progress after trimmed lines, the first of which has the given number. -/
def steps (progress : Progress) (number : Nat) : List (List Char) → Except Fault Progress
  | [] => .ok progress
  | line :: rest =>
    match progress.step? line with
    | some next => next.steps (number + 1) rest
    | none => .error (.invalidValue number (String.ofList line))

end Progress

/-- The lines of a report, trimmed. -/
def trimmedLines (text : String) : List (List Char) :=
  (Text.lines text.toList).map Text.trim

/-- Reads the report of one run. -/
def parse (text label : String) : Except Fault Run :=
  match Progress.steps {} 1 (trimmedLines text) with
  | .ok progress => progress.draft.toRun label
  | .error fault => .error fault

end BenchCompare.Report
