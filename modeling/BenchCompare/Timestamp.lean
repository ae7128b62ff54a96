import BenchCompare.Numeral
import BenchCompare.Text.Basic

/-!
# Timestamps

A timestamp is a date, a time of day and an offset from universal time, in the manner of RFC 3339:
`2024-05-01T12:30:00.5Z`.  The reader is lenient: it accepts blanks around the marks, numbers with
fewer digits than usual, a blank or a small letter between date and time, and `UTC` as an offset.
The printer is strict, and writes moments of universal time only.
-/

namespace BenchCompare

/-- A moment on the calendar. -/
structure Timestamp where
  year : Int
  month : Nat
  day : Nat
  hour : Nat
  minute : Nat
  /-- Up to `60`, for a leap second. -/
  second : Nat
  nanosecond : Nat := 0
  offsetMinutes : Int := 0
  deriving DecidableEq, Repr

namespace Timestamp

/-- Whether a year has a 29th of February. -/
def isLeapYear (year : Int) : Bool :=
  year % 4 = 0 && (year % 100 ≠ 0 || year % 400 = 0)

/-- The number of days of a month. -/
def daysIn (year : Int) (month : Nat) : Nat :=
  if month = 2 then if isLeapYear year then 29 else 28
  else if month = 4 || month = 6 || month = 9 || month = 11 then 30
  else 31

/-- Whether all parts are in their ranges. -/
def isValid (t : Timestamp) : Bool :=
  -262143 ≤ t.year && t.year ≤ 262142 && 1 ≤ t.month && t.month ≤ 12
    && 1 ≤ t.day && t.day ≤ daysIn t.year t.month
    && t.hour ≤ 23 && t.minute ≤ 59 && t.second ≤ 60 && t.offsetMinutes.natAbs < 24 * 60

/-! ### Reading -/

/-- Reads at least one digit and at most `most` of them. -/
def digits? (most : Nat) (cs : List Char) : Option (Nat × List Char) :=
  let digits := (cs.takeWhile Char.isDigit).take most
  if digits.isEmpty then none else some (Numeral.value digits, cs.drop digits.length)

/-- Reads a number of one or two digits after blanks. -/
def pair? (cs : List Char) : Option (Nat × List Char) :=
  digits? 2 (Text.trimStart cs)

/-- Reads a year after blanks: up to four digits, or any number of them after a sign. -/
def year? (cs : List Char) : Option (Int × List Char) :=
  match Text.trimStart cs with
  | '-' :: cs => (digits? cs.length cs).map fun (n, rest) => (-(n : Int), rest)
  | '+' :: cs => (digits? cs.length cs).map fun (n, rest) => ((n : Int), rest)
  | cs => (digits? 4 cs).map fun (n, rest) => ((n : Int), rest)

/-- The rest after a mark, which may have blanks in front of it. -/
def afterMark? (mark : Char) (cs : List Char) : Option (List Char) :=
  match Text.trimStart cs with
  | [] => none
  | c :: rest => if c = mark then some rest else none

/-- The rest after what separates the date from the time. -/
def afterDate? : List Char → Option (List Char)
  | [] => none
  | c :: rest => if c = 'T' || c = 't' || c = ' ' then some rest else none

/-- The nanoseconds of a fraction of a second with the given digits; digits after the ninth do not
count. -/
def nanosecondsOf (digits : List Char) : Nat :=
  Numeral.value (digits.take 9) * Nat.pow 10 (9 - digits.length)

/-- Reads a fraction of a second in nanoseconds, if there is one. -/
def fraction? : List Char → Option (Nat × List Char)
  | '.' :: rest =>
    match rest.takeWhile Char.isDigit with
    | [] => none
    | digits => some (nanosecondsOf digits, rest.drop digits.length)
  | rest => some (0, rest)

/-- Reads exactly two digits. -/
def twoDigits? : List Char → Option (Nat × List Char)
  | a :: b :: rest =>
    if a.isDigit && b.isDigit then some (Numeral.value [a, b], rest) else none
  | _ => none

/-- Reads an offset without its sign: hours and minutes, with colons and blanks between them. -/
def offsetSize? (cs : List Char) : Option (Nat × List Char) := do
  let (hours, rest) ← twoDigits? cs
  let (minutes, rest) ← twoDigits? (rest.dropWhile fun c => c = ':' || Text.isBlank c)
  if minutes ≤ 59 then some (hours * 60 + minutes, rest) else none

/-- Reads an offset in minutes. -/
def offset? (cs : List Char) : Option (Int × List Char) :=
  if Text.sameLetters (cs.take 3) "UTC".toList then some (0, cs.drop 3)
  else
    match cs with
    | [] => none
    | sign :: rest =>
      if sign = 'Z' || sign = 'z' then some (0, rest)
      else if sign = '+' then (offsetSize? rest).map fun (n, rest) => ((n : Int), rest)
      else if sign = '-' || sign = Char.ofNat 0x2212 then
        (offsetSize? rest).map fun (n, rest) => (-(n : Int), rest)
      else none

/-- Reads a timestamp. -/
def parse? (text : String) : Option Timestamp := do
  let (year, rest) ← year? text.toList
  let (month, rest) ← pair? (← afterMark? '-' rest)
  let (day, rest) ← pair? (← afterMark? '-' rest)
  let (hour, rest) ← pair? (← afterDate? rest)
  let (minute, rest) ← pair? (← afterMark? ':' rest)
  let (second, rest) ← pair? (← afterMark? ':' rest)
  let (nanosecond, rest) ← fraction? rest
  let (offsetMinutes, rest) ← offset? (Text.trimStart rest)
  let t : Timestamp := { year, month, day, hour, minute, second, nanosecond, offsetMinutes }
  if Text.isBlankText rest && t.isValid then some t else none

/-! ### Printing -/

/-- The last digits of a number, as many as wanted, with leading zeros. -/
def padded : Nat → Nat → List Char
  | 0, _ => []
  | width + 1, n => padded width (n / 10) ++ [Nat.digitChar (n % 10)]

/-- A year in four digits, or with a sign if these do not suffice. -/
def yearText (year : Int) : List Char :=
  if 0 ≤ year && year ≤ 9999 then padded 4 year.toNat
  else
    (if year < 0 then '-' else '+')
      :: padded (max 4 (Numeral.digits year.natAbs).length) year.natAbs

/-- A fraction of a second in three, six or nine digits, or nothing if it is zero. -/
def fractionText (nanosecond : Nat) : List Char :=
  if nanosecond = 0 then []
  else if nanosecond % 1000000 = 0 then '.' :: padded 3 (nanosecond / 1000000)
  else if nanosecond % 1000 = 0 then '.' :: padded 6 (nanosecond / 1000)
  else '.' :: padded 9 nanosecond

/-- The text of a moment of universal time; the offset is not looked at. -/
def universalText (t : Timestamp) : String :=
  String.ofList <|
    yearText t.year ++ '-' :: padded 2 t.month ++ '-' :: padded 2 t.day
      ++ 'T' :: padded 2 t.hour ++ ':' :: padded 2 t.minute ++ ':' :: padded 2 t.second
      ++ fractionText t.nanosecond ++ ['Z']

/-! ### The clock -/

/-- The number of days from the beginning of the year `0` to the beginning of a year. -/
def daysBefore (year : Nat) : Nat :=
  365 * year + (year + 3) / 4 - (year + 99) / 100 + (year + 399) / 400

/-- The month and the day that come a number of days after a month begins; `months` is the number of
months after it in the year. -/
def monthAndDay (year : Int) : Nat → Nat → Nat → Nat × Nat
  | 0, month, days => (month, days + 1)
  | months + 1, month, days =>
    if days < daysIn year month then (month, days + 1)
    else monthAndDay year months (month + 1) (days - daysIn year month)

/-- The year in which a day lies, counted from the beginning of the year `0`.  A year has 146097 /
400 days on average, and dividing by that misses the year by at most one. -/
def yearOf (days : Nat) : Nat :=
  let guess := days * 400 / 146097
  if daysBefore (guess + 1) ≤ days then guess + 1
  else if days < daysBefore guess then guess - 1
  else guess

/-- The moment that comes a number of nanoseconds after the year 1970 began, in universal time. -/
def ofEpoch (nanoseconds : Nat) : Timestamp :=
  let seconds := nanoseconds / 1000000000
  let days := daysBefore 1970 + seconds / 86400
  let year := yearOf days
  let (month, day) := monthAndDay year 11 1 (days - daysBefore year)
  { year, month, day
    hour := seconds / 3600 % 24
    minute := seconds / 60 % 60
    second := seconds % 60
    nanosecond := nanoseconds % 1000000000 }

end Timestamp

end BenchCompare
