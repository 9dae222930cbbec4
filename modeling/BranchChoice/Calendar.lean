/-!
# The calendar

Days of the calendar counted from the first day of year 1, and times of day in microseconds, for the
years 1 to 9999.  A clock reading has a date, a time and an offset from universal time; its instant
is the number of microseconds since the calendar's first midnight.
-/

namespace BranchChoice

namespace Calendar

/-! ## Days -/

/-- Whether a year has a leap day. -/
def isLeap (year : Nat) : Bool :=
  year % 4 == 0 && (year % 100 != 0 || year % 400 == 0)

/-- The number of days before a year. -/
def daysBeforeYear (year : Nat) : Nat :=
  let y := year - 1
  365 * y + y / 4 - y / 100 + y / 400

/-- The numbers of days of a year's months. -/
def monthLengths (year : Nat) : List Nat :=
  [31, if isLeap year then 29 else 28, 31, 30, 31, 30, 31, 31, 30, 31, 30, 31]

/-- The number of days of a month, counted from 1. -/
def daysInMonth (year month : Nat) : Nat :=
  ((monthLengths year)[month - 1]?).getD 0

/-- The number of days of a year before a month. -/
def daysBeforeMonth (year month : Nat) : Nat :=
  ((monthLengths year).take (month - 1)).foldl (· + ·) 0

/-- The days from the first day of year 1 to a date. -/
def dayNumber (year month day : Nat) : Nat :=
  daysBeforeYear year + daysBeforeMonth year month + (day - 1)

/-- The year of a day.  The mean length of years tells it up to one. -/
def yearOf (n : Nat) : Nat :=
  let guess := n * 400 / 146097 + 1
  if n < daysBeforeYear guess then guess - 1
  else if daysBeforeYear (guess + 1) ≤ n then guess + 1
  else guess

/-- The month and the day of the month, of a day counted from 0 from the start of a month, given the
lengths of the months from there on. -/
def monthAndDay : Nat → List Nat → Nat → Nat × Nat
  | month, length :: rest, n =>
    if n < length then (month, n + 1) else monthAndDay (month + 1) rest (n - length)
  | month, [], n => (month, n + 1)

/-- The year, month and day of a day number. -/
def dateOf (n : Nat) : Nat × Nat × Nat :=
  let year := yearOf n
  let (month, day) := monthAndDay 1 (monthLengths year) (n - daysBeforeYear year)
  (year, month, day)

/-- The last year of the calendar. -/
def lastYear : Nat := 9999

/-- The number of days of the calendar. -/
def dayCount : Nat := daysBeforeYear (lastYear + 1)

/-! ## Instants -/

/-- How many microseconds a second has. -/
def microsPerSecond : Nat := 1000000

/-- How many microseconds a day has. -/
def microsPerDay : Nat := 86400 * microsPerSecond

/-- Digits of a number, with zeros in front up to a width. -/
def padded (width n : Nat) : List Char :=
  let digits := Nat.toDigits 10 n
  List.replicate (width - digits.length) '0' ++ digits

/-- The text of an instant: date and time of day in universal time, down to whole milliseconds. -/
def writeInstant (micros : Nat) : String :=
  let (year, month, day) := dateOf (micros / microsPerDay)
  let time := micros % microsPerDay / 1000
  let seconds := time / 1000
  String.ofList (padded 4 year ++ '-' :: padded 2 month ++ '-' :: padded 2 day ++
    'T' :: padded 2 (seconds / 3600) ++ ':' :: padded 2 (seconds / 60 % 60) ++
    ':' :: padded 2 (seconds % 60) ++ '.' :: padded 3 (time % 1000) ++ ['Z'])

end Calendar

/-! ## Clock readings -/

/-- An offset from universal time, in microseconds.  A number stands for an offset of whole
seconds. -/
structure UtcOffset where
  micros : Int
  deriving DecidableEq

namespace UtcOffset

/-- The offset of whole seconds. -/
def ofSeconds (seconds : Int) : UtcOffset :=
  ⟨seconds * Calendar.microsPerSecond⟩

instance : Coe Int UtcOffset := ⟨ofSeconds⟩

instance (n : Nat) : OfNat UtcOffset n := ⟨ofSeconds n⟩

/-- An offset as days, and seconds and microseconds that are not negative. -/
def text (offset : UtcOffset) : String :=
  let days := offset.micros.fdiv Calendar.microsPerDay
  let rest := offset.micros.fmod Calendar.microsPerDay
  let seconds := rest / Calendar.microsPerSecond
  let micros := rest % Calendar.microsPerSecond
  "datetime.timedelta(" ++ s!"days={days}" ++ (if seconds = 0 then "" else s!", seconds={seconds}")
    ++ (if micros = 0 then "" else s!", microseconds={micros}") ++ ")"

end UtcOffset

/-- Why there is no instant: the clock fails, its reading is not valid, or the calendar has no such
instant. -/
inductive ClockError where
  /-- The clock cannot be read, for a reason of its own. -/
  | failed (text : String)
  | offset (given : UtcOffset)
  | year (n : Int)
  | month
  | day
  | hour
  | minute
  | second
  | microsecond
  | outOfRange
  deriving DecidableEq

namespace ClockError

/-- The wording of an error. -/
def message : ClockError → String
  | failed text => text
  | offset given =>
    "offset must be a timedelta strictly between -timedelta(hours=24) and timedelta(hours=24), not "
      ++ given.text ++ "."
  | year n => s!"year {n} is out of range"
  | month => "month must be in 1..12"
  | day => "day is out of range for month"
  | hour => "hour must be in 0..23"
  | minute => "minute must be in 0..59"
  | second => "second must be in 0..59"
  | microsecond => "microsecond must be in 0..999999"
  | outOfRange => "date value out of range"

end ClockError

/-- A reading of a clock: local date and time, and the offset from universal time. -/
structure ClockReading where
  year : Int
  month : Int
  day : Int
  hour : Int
  minute : Int
  second : Int
  microsecond : Int
  offset : UtcOffset

namespace ClockReading

/-- The reading in universal time that shows an instant. -/
def ofInstant (micros : Nat) : ClockReading :=
  let (year, month, day) := Calendar.dateOf (micros / Calendar.microsPerDay)
  let time := micros % Calendar.microsPerDay
  let seconds := time / Calendar.microsPerSecond
  ⟨year, month, day, (seconds / 3600 : Nat), (seconds / 60 % 60 : Nat), (seconds % 60 : Nat),
    (time % Calendar.microsPerSecond : Nat), 0⟩

/-- The first part of a reading that is not valid: the offset, then the date and the time from large
to small. -/
def invalid? (r : ClockReading) : Option ClockError :=
  if r.offset.micros ≤ -(Calendar.microsPerDay : Int) ||
      (Calendar.microsPerDay : Int) ≤ r.offset.micros then
    some (.offset r.offset)
  else if r.year < 1 || (Calendar.lastYear : Int) < r.year then some (.year r.year)
  else if r.month < 1 || 12 < r.month then some .month
  else if r.day < 1 || (Calendar.daysInMonth r.year.toNat r.month.toNat : Int) < r.day then
    some .day
  else if r.hour < 0 || 23 < r.hour then some .hour
  else if r.minute < 0 || 59 < r.minute then some .minute
  else if r.second < 0 || 59 < r.second then some .second
  else if r.microsecond < 0 || 999999 < r.microsecond then some .microsecond
  else none

/-- The microseconds from the calendar's first midnight, in universal time, to a valid reading; they
are negative before it. -/
def micros (r : ClockReading) : Int :=
  let day := Calendar.dayNumber r.year.toNat r.month.toNat r.day.toNat
  let seconds := (day : Int) * 86400 + r.hour * 3600 + r.minute * 60 + r.second
  seconds * Calendar.microsPerSecond + r.microsecond - r.offset.micros

/-- The instant of a reading, which must lie in the calendar. -/
def instant (r : ClockReading) : Except ClockError Nat :=
  match r.invalid? with
  | some e => .error e
  | none =>
    if r.micros < 0 || ((Calendar.dayCount * Calendar.microsPerDay : Nat) : Int) ≤ r.micros then
      .error .outOfRange
    else .ok r.micros.toNat

end ClockReading

/-- What comes of looking at a clock. -/
abbrev Clock := Except ClockError ClockReading

end BranchChoice
