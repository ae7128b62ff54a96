import BenchCompare.Numeral
import BenchCompare.Report.Token
import BenchCompare.Run.Basic

/-!
# Lines of a report

Each line of a report states one fact, or nothing that matters here.  What a line states depends on
its trimmed text alone, apart from the rows of the latency distribution, which count only in the
block under its heading.

A line that claims to state a fact but has a bad value is *malformed*.  The two rows of the thread
table are never malformed, because their first words may also begin a sentence.
-/

namespace BenchCompare.Report

/-- A fact that one line of a report states. -/
inductive Fact where
  | rate (perSecond : Binary64)
  | transferRate (perSecond : UInt64)
  | socketErrors (counts : SocketErrors)
  | failedResponses (count : UInt64)
  | plan (duration : Duration) (target : String)
  | latency (stats : LatencyStats)
  | threadRate (stats : ThreadStats)
  | load (threads connections : UInt32)
  | totals (requests : UInt64) (elapsed : Duration) (bytes : UInt64)
  deriving DecidableEq

/-! ### Values of single lines -/

/-- The columns of a latency row, such as `Latency 635.91us 0.89ms 12.92ms 93.69%`. -/
def latencyRow? (line : List Char) : Option LatencyStats :=
  match Text.words line with
  | _ :: average :: deviation :: maximum :: within :: _ => do
    return ⟨← duration? average, ← duration? deviation, ← duration? maximum, ← share? within⟩
  | _ => none

/-- The columns of a row of thread rates, such as `Req/Sec 56.20k 8.07k 62.00k 86.54%`. -/
def threadRow? (line : List Char) : Option ThreadStats :=
  match Text.words line with
  | _ :: average :: deviation :: maximum :: within :: _ => do
    return ⟨← count? average, ← count? deviation, ← count? maximum, ← share? within⟩
  | _ => none

/-- A row of the latency distribution, such as `50% 250.00us`. -/
def percentileRow? (line : List Char) : Option Percentile :=
  match Text.words line with
  | [percent, latency] => do return ⟨← percent? percent, ← duration? latency⟩
  | _ => none

/-- A line such as `12 threads and 400 connections`. -/
def loadLine? (line : List Char) : Option (UInt32 × UInt32) :=
  match Text.words line with
  | [threads, word1, word2, connections, word3] =>
    if [word1, word2, word3].map String.ofList = ["threads", "and", "connections"] then do
      return (← (Numeral.word32 threads).toOption, ← (Numeral.word32 connections).toOption)
    else none
  | _ => none

/-- A line such as `22464657 requests in 30.00s, 17.76GB read`. -/
def totalsLine? (line : List Char) : Option (UInt64 × Duration × UInt64) :=
  match Text.cutAtChar? ',' line with
  | none => none
  | some (before, after) =>
    match Text.words before, Text.words after with
    | [requests, word1, word2, elapsed], [bytes, word3] =>
      if [word1, word2, word3].map String.ofList = ["requests", "in", "read"] then do
        return (← (Numeral.word64 requests).toOption, ← duration? elapsed, ← size? bytes)
      else none
    | _, _ => none

/-- The errors with one more counter set. -/
def setSocketError? (errors : SocketErrors) (name : String) (count : UInt64) :
    Option SocketErrors :=
  match name with
  | "connect" => some { errors with connect := count }
  | "read" => some { errors with read := count }
  | "write" => some { errors with write := count }
  | "timeout" => some { errors with timeout := count }
  | _ => none

/-- One counter, such as `timeout 36`, set in addition to earlier ones. -/
def addSocketError? (errors : SocketErrors) (field : List Char) : Option SocketErrors :=
  match Text.cutAtChar? ' ' (Text.trim field) with
  | none => none
  | some (name, count) => do
    setSocketError? errors (String.ofList name) (← (Numeral.word64 (Text.trim count)).toOption)

/-- The counters in `connect 0, read 0, write 0, timeout 36`. -/
def socketErrors? (value : List Char) : Option SocketErrors :=
  (Text.pieces (· == ',') value).foldlM addSocketError? {}

/-- The first word of a value, as a rate that is finite and not below zero. -/
def rateValue? (value : List Char) : Option Binary64 :=
  match Text.words value with
  | [] => none
  | first :: _ => (Binary64.parse? first).filter Binary64.isFiniteNonneg

/-- The first word of a value, as a size. -/
def sizeValue? (value : List Char) : Option UInt64 :=
  match Text.words value with
  | [] => none
  | first :: _ => size? first

/-! ### What a line states -/

/-- What a trimmed line states outside the latency distribution. -/
inductive Statement where
  | states (fact : Fact)
  | malformed
  | nothing
  deriving DecidableEq

/-- A statement that has to have a value. -/
def Statement.required (value : Option Fact) : Statement :=
  match value with
  | some fact => .states fact
  | none => .malformed

/-- A statement that need not have a value. -/
def Statement.optional (value : Option Fact) : Statement :=
  match value with
  | some fact => .states fact
  | none => .nothing

/-- What follows the heading of a line. -/
def after? (heading : String) (line : List Char) : Option (List Char) :=
  heading.toList.isPrefixOf? line

/-- What a line states that begins with `Running `, from the text after that word. -/
def planStatement (rest : List Char) : Statement :=
  match Text.cutAt? " test @ ".toList rest with
  | none => .nothing
  | some (duration, target) =>
    .required <| (duration? (Text.trim duration)).map fun d =>
      .plan d (String.ofList (Text.trim target))

/-- What a trimmed line states outside the latency distribution; the headings are tried in order. -/
def statement (line : List Char) : Statement :=
  if let some value := after? "Requests/sec:" line then
    .required ((rateValue? value).map .rate)
  else if let some value := after? "Transfer/sec:" line then
    .required ((sizeValue? value).map .transferRate)
  else if let some value := after? "Socket errors:" line then
    .required ((socketErrors? value).map .socketErrors)
  else if let some value := after? "Non-2xx or 3xx responses:" line then
    .required ((Numeral.word64 (Text.trim value)).toOption.map .failedResponses)
  else if let some rest := after? "Running " line then
    planStatement rest
  else if (after? "Latency " line).isSome then
    .optional ((latencyRow? line).map .latency)
  else if (after? "Req/Sec " line).isSome then
    .optional ((threadRow? line).map .threadRate)
  else if Text.contains " threads and ".toList line && "connections".toList.isSuffixOf line then
    .required ((loadLine? line).map fun (threads, connections) => .load threads connections)
  else if Text.contains " requests in ".toList line then
    .required ((totalsLine? line).map fun (requests, elapsed, bytes) =>
      .totals requests elapsed bytes)
  else .nothing

/-- Whether a trimmed line is the heading of the latency distribution. -/
def isDistributionHeading (line : List Char) : Bool :=
  "Latency Distribution".toList.isPrefixOf line

end BenchCompare.Report
