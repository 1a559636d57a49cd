import PhpOutline.Binary64

/-!
# Days and times in YAML documents

A time is a day of the calendar, or a day with a time of the clock. The clock may be some distance
from universal time.

* `Time.show`, `Day.ordinal`, `Moment.instant`: texts and order.
-/

namespace PhpOutline.Yaml

/-- A day. -/
structure Day where
  year : Nat
  month : Nat
  day : Nat
  deriving DecidableEq, Repr

/-- A day with a time; `offset` is the distance of its clock from universal time in minutes. -/
structure Moment where
  day : Day
  hour : Nat
  minute : Nat
  second : Nat
  microsecond : Nat
  offset : Option Int
  deriving DecidableEq, Repr

/-- A day, or a moment of one. -/
inductive Time where
  | day (value : Day)
  | moment (value : Moment)
  deriving DecidableEq, Repr

/-! ## The calendar -/

/-- A year with a day more. -/
def isLeap (year : Nat) : Bool := year % 4 == 0 && (year % 100 != 0 || year % 400 == 0)

/-- The number of days of a month. -/
def daysIn (year month : Nat) : Nat :=
  if month = 2 then (if isLeap year then 29 else 28)
  else if [4, 6, 9, 11].contains month then 30
  else 31

/-! ## Texts and order -/

/-- A number with zeros in front up to a width. -/
def padded (width n : Nat) : String :=
  let digits := Binary64.digits n
  String.ofList (List.replicate (width - digits.length) '0' ++ digits)

/-- A day as year, month and day. -/
def Day.show (d : Day) : String :=
  padded 4 d.year ++ "-" ++ padded 2 d.month ++ "-" ++ padded 2 d.day

/-- A moment as day, time and offset. -/
def Moment.show (m : Moment) : String :=
  let fraction := if m.microsecond = 0 then "" else "." ++ padded 6 m.microsecond
  let offset :=
    match m.offset with
    | none => ""
    | some n =>
      (if n < 0 then "-" else "+") ++ padded 2 (n.natAbs / 60) ++ ":" ++ padded 2 (n.natAbs % 60)
  m.day.show ++ " " ++ padded 2 m.hour ++ ":" ++ padded 2 m.minute ++ ":" ++ padded 2 m.second ++
    fraction ++ offset

/-- A time as a text. -/
def Time.show : Time → String
  | .day d => d.show
  | .moment m => m.show

/-- The number of a day, counted from the first day of the calendar. -/
def Day.ordinal (d : Day) : Nat :=
  let y := d.year - 1
  365 * y + y / 4 - y / 100 + y / 400 +
    (List.range (d.month - 1)).foldl (fun days m => days + daysIn d.year (m + 1)) 0 + d.day

/-- The microseconds up to a moment, by universal time if the moment has an offset. -/
def Moment.instant (m : Moment) : Int :=
  ((((m.day.ordinal : Int) * 24 + m.hour) * 60 + m.minute - m.offset.getD 0) * 60 + m.second) *
    1000000 + m.microsecond

end PhpOutline.Yaml
