import GpuMetrics.Text.Digit

/-!
# Dates and times

A date is a year of four digits, a month and a day with hyphens between them. A time of the day may
follow behind the letter T or blanks, with a fraction of seconds and the distance of its zone.
-/

namespace GpuMetrics.Yaml

/-- The distance of a zone from the universal time. -/
inductive Zone
  | /-- No zone is told. -/
    absent
  | /-- The universal time. -/
    universal
  | /-- So many hours and minutes after it, or before it. -/
    offset (negative : Bool) (hours minutes : Nat)
  deriving DecidableEq, Repr

/-- A time of the day. -/
structure TimeOfDay where
  hour : Nat
  minute : Nat
  second : Nat
  zone : Zone
  deriving DecidableEq, Repr

/-- A date, and perhaps a time of the day. -/
structure Stamp where
  year : Nat
  month : Nat
  day : Nat
  time : Option TimeOfDay
  /-- Whether month and day have two digits each. -/
  twoDigits : Bool
  deriving DecidableEq, Repr

namespace Stamp

/-- Reads as many digits as there are, of which there have to be at least `least` and at most
`most`. -/
def digits? (least most : Nat) (s : List Char) : Option (List Char × List Char) :=
  let digits := (s.take most).takeWhile Text.isAsciiDigit
  if digits.length < least then none else some (digits, s.drop digits.length)

/-- Reads a character. -/
def mark? (c : Char) (s : List Char) : Option (List Char) :=
  match s with
  | x :: r => if x = c then some r else none
  | [] => none

/-- The text without blanks in front. -/
def withoutGap (s : List Char) : List Char := s.dropWhile fun c => c = ' ' || c = '\t'

/-- Reads a zone to the end of the text. -/
def zone? (s : List Char) : Option Zone :=
  match withoutGap s with
  | [] => if s.isEmpty then some .absent else none
  | ['Z'] => some .universal
  | sign :: r =>
    if sign = '+' || sign = '-' then do
      let (hours, r) ← digits? 1 2 r
      match r with
      | [] => some (.offset (sign = '-') (Text.digitsValue hours) 0)
      | r =>
        let (minutes, r) ← digits? 2 2 (← mark? ':' r)
        if r.isEmpty then
          some (.offset (sign = '-') (Text.digitsValue hours) (Text.digitsValue minutes))
        else none
    else none

/-- Reads a time of the day to the end of the text. -/
def time? (s : List Char) : Option TimeOfDay := do
  let (hour, r) ← digits? 1 2 s
  let (minute, r) ← digits? 2 2 (← mark? ':' r)
  let (second, r) ← digits? 2 2 (← mark? ':' r)
  let r := match mark? '.' r with
    | some r => r.dropWhile Text.isAsciiDigit
    | none => r
  let zone ← zone? r
  return ⟨Text.digitsValue hour, Text.digitsValue minute, Text.digitsValue second, zone⟩

/-- What comes behind the day: nothing, or a time of the day behind a T or blanks. -/
def behindDay? (s : List Char) : Option (Option TimeOfDay) :=
  match s with
  | [] => some none
  | c :: r =>
    if c = 'T' || c = 't' then (time? r).map some
    else if c = ' ' || c = '\t' then (time? (withoutGap r)).map some
    else none

/-- The date that a text writes. -/
def read? (s : List Char) : Option Stamp := do
  let (year, r) ← digits? 4 4 s
  let (month, r) ← digits? 1 2 (← mark? '-' r)
  let (day, r) ← digits? 1 2 (← mark? '-' r)
  let time ← behindDay? r
  return ⟨Text.digitsValue year, Text.digitsValue month, Text.digitsValue day, time,
    month.length = 2 && day.length = 2⟩

/-- Whether a text without a tag is a date: one without a time needs two digits for month and
day. -/
def isPlain (s : List Char) : Bool := (read? s).any fun d => d.time.isSome || d.twoDigits

/-! ## Calendar -/

/-- Whether a year has a day more. -/
def isLeap (year : Nat) : Bool := year % 4 = 0 && (year % 100 ≠ 0 || year % 400 = 0)

/-- The days of a month. -/
def daysIn (year month : Nat) : Nat :=
  if month = 2 then (if isLeap year then 29 else 28)
  else if month = 4 || month = 6 || month = 9 || month = 11 then 30
  else 31

/-- Seconds in a day. -/
def daySeconds : Int := 86400

/-- The distance of a zone in seconds. -/
def offsetSeconds : Zone → Int
  | .offset negative hours minutes =>
    let n : Int := (hours * 60 + minutes) * 60
    if negative then -n else n
  | _ => 0

/-- How a message shows a distance of a day or more. -/
def distanceText (seconds : Int) : String :=
  let days := Int.fdiv seconds daySeconds
  let rest := Int.fmod seconds daySeconds
  "datetime.timedelta(days=" ++ Text.integerText days
    ++ (if rest = 0 then "" else ", seconds=" ++ Text.integerText rest) ++ ")"

/-- What is wrong with a date on the calendar, if anything is. -/
def problem? (d : Stamp) : Option String :=
  let offset := ((d.time.map fun t => offsetSeconds t.zone)).getD 0
  if offset ≥ daySeconds || offset ≤ -daySeconds then
    some ("offset must be a timedelta strictly between -timedelta(hours=24) and "
      ++ "timedelta(hours=24), not " ++ distanceText offset ++ ".")
  else if d.year = 0 then some "year 0 is out of range"
  else if d.month = 0 || d.month > 12 then some "month must be in 1..12"
  else if d.day = 0 || d.day > daysIn d.year d.month then some "day is out of range for month"
  else match d.time with
    | none => none
    | some t =>
      if t.hour > 23 then some "hour must be in 0..23"
      else if t.minute > 59 then some "minute must be in 0..59"
      else if t.second > 59 then some "second must be in 0..59"
      else none

end Stamp

end GpuMetrics.Yaml
