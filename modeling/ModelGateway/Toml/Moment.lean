import ModelGateway.Numeral

/-!
# Dates and times

TOML has dates, times of day and both together, in the last case with or without an offset from UTC.
A configuration only ever displays them: by themselves in ISO format, and inside a list or a table by the
expression that makes them.
-/
namespace ModelGateway

/-- A number in decimal with leading zeros. -/
def Text.padded (width n : Nat) : String :=
  let digits := toString n
  "".pushn '0' (width - digits.length) ++ digits

namespace Toml

structure Date where
  year : Nat
  month : Nat
  day : Nat
  deriving DecidableEq, Repr

structure TimeOfDay where
  hour : Nat
  minute : Nat
  second : Nat
  micro : Nat
  deriving DecidableEq, Repr

inductive Moment where
  | date (d : Date)
  | time (t : TimeOfDay)
  /-- The offset from UTC is in minutes, to the east. -/
  | dateTime (d : Date) (t : TimeOfDay) (offset : Option Int)
  deriving DecidableEq, Repr

/-! ## Display -/

open Text (padded)

def Date.text (d : Date) : String := s!"{padded 4 d.year}-{padded 2 d.month}-{padded 2 d.day}"

def TimeOfDay.text (t : TimeOfDay) : String :=
  let fraction := if t.micro = 0 then "" else "." ++ padded 6 t.micro
  s!"{padded 2 t.hour}:{padded 2 t.minute}:{padded 2 t.second}{fraction}"

def offsetText (minutes : Int) : String :=
  let sign := if minutes < 0 then "-" else "+"
  s!"{sign}{padded 2 (minutes.natAbs / 60)}:{padded 2 (minutes.natAbs % 60)}"

def Moment.text : Moment → String
  | date d => d.text
  | time t => t.text
  | dateTime d t offset => s!"{d.text} {t.text}" ++ (offset.map offsetText).getD ""

/-- The arguments of a time of day: seconds and fractions are left out when nothing follows them. -/
def TimeOfDay.arguments (t : TimeOfDay) : List Nat :=
  if t.micro ≠ 0 then [t.hour, t.minute, t.second, t.micro]
  else if t.second ≠ 0 then [t.hour, t.minute, t.second]
  else [t.hour, t.minute]

/-- An offset as a number of seconds, which is positive on the day that it is counted from. -/
def zoneExpression (minutes : Int) : String :=
  if minutes = 0 then "datetime.timezone.utc"
  else if minutes < 0 then
    s!"datetime.timezone(datetime.timedelta(days=-1, seconds={86400 - 60 * minutes.natAbs}))"
  else s!"datetime.timezone(datetime.timedelta(seconds={60 * minutes.natAbs}))"

def call (name : String) (arguments : List String) : String :=
  name ++ "(" ++ ", ".intercalate arguments ++ ")"

/-- The expression that makes a moment. -/
def Moment.expression : Moment → String
  | date d => call "datetime.date" ([d.year, d.month, d.day].map toString)
  | time t => call "datetime.time" (t.arguments.map toString)
  | dateTime d t offset =>
    call "datetime.datetime" (([d.year, d.month, d.day] ++ t.arguments).map toString ++
      offset.toList.map fun minutes => "tzinfo=" ++ zoneExpression minutes)

/-! ## Reading -/

def isLeap (year : Nat) : Bool := year % 4 == 0 && (year % 100 != 0 || year % 400 == 0)

def daysIn (year month : Nat) : Nat :=
  if month = 2 then if isLeap year then 29 else 28
  else if month ∈ [4, 6, 9, 11] then 30
  else 31

/-- Whether the calendar, which starts with the year one, has a date. -/
def Date.exists (d : Date) : Bool := 1 ≤ d.year && d.day ≤ daysIn d.year d.month

/-- Reads a number of a fixed width between two bounds. -/
def readPart (width low high : Nat) (cs : List Char) : Option (Nat × List Char) :=
  let digits := cs.take width
  let n := Numeral.natOfDigits digits
  if digits.length = width && digits.all Numeral.isDigit && low ≤ n && n ≤ high then
    some (n, cs.drop width)
  else none

def readMark (marks : List Char) : List Char → Option (List Char)
  | c :: rest => if c ∈ marks then some rest else none
  | [] => none

def readDate (cs : List Char) : Option (Date × List Char) := do
  let (year, rest) ← readPart 4 0 9999 cs
  let (month, rest) ← readPart 2 1 12 (← readMark ['-'] rest)
  let (day, rest) ← readPart 2 1 31 (← readMark ['-'] rest)
  return (⟨year, month, day⟩, rest)

/-- The microseconds of a fraction; further digits do not count. -/
def readMicros (cs : List Char) : Nat × List Char :=
  match cs with
  | '.' :: rest =>
    let digits := rest.takeWhile Numeral.isDigit
    if digits.isEmpty then (0, cs)
    else
      let kept := digits.take 6
      (Numeral.natOfDigits (kept ++ List.replicate (6 - kept.length) '0'), rest.drop digits.length)
  | _ => (0, cs)

def readTime (cs : List Char) : Option (TimeOfDay × List Char) := do
  let (hour, rest) ← readPart 2 0 23 cs
  let (minute, rest) ← readPart 2 0 59 (← readMark [':'] rest)
  let (second, rest) ← readPart 2 0 59 (← readMark [':'] rest)
  let (micro, rest) := readMicros rest
  return (⟨hour, minute, second, micro⟩, rest)

def readSignedOffset (negative : Bool) (cs : List Char) : Option (Int × List Char) := do
  let (hours, rest) ← readPart 2 0 23 cs
  let (minutes, rest) ← readPart 2 0 59 (← readMark [':'] rest)
  let total : Int := 60 * hours + minutes
  return (if negative then -total else total, rest)

def readOffset : List Char → Option (Int × List Char)
  | 'Z' :: rest | 'z' :: rest => some (0, rest)
  | '+' :: rest => readSignedOffset false rest
  | '-' :: rest => readSignedOffset true rest
  | _ => none

/-- What may follow a date: a time of day with or without an offset. -/
def readTimeAfter (d : Date) (cs : List Char) : Moment × List Char :=
  match readMark ['T', 't', ' '] cs >>= readTime with
  | none => (.date d, cs)
  | some (t, rest) =>
    match readOffset rest with
    | none => (.dateTime d t none, rest)
    | some (minutes, rest) => (.dateTime d t (some minutes), rest)

/-- Reads a moment if there is one; the flag says whether its date exists. -/
def readMoment (cs : List Char) : Option (Bool × Moment × List Char) :=
  match readDate cs with
  | some (d, rest) => some (d.exists, readTimeAfter d rest)
  | none => (readTime cs).map fun (t, rest) => (true, .time t, rest)

end Toml
end ModelGateway
