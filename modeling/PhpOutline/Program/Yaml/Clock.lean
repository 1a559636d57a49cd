import PhpOutline.Text.Blank
import PhpOutline.Text.Lines
import PhpOutline.Yaml.Fault
import PhpOutline.Yaml.Time

/-!
# Written days and times

How a YAML document writes a day or a time.

* `isTime`: whether a plain text is a time;
* `Time.read`: the time of a text that is asked to be one.
-/

namespace PhpOutline.Yaml

open PhpOutline.Text

/-- The value of a run of decimal digits. -/
def digitsValue (text : List Char) : Nat :=
  text.foldl (fun n c => 10 * n + (c.toNat - '0'.toNat)) 0

/-- The number at the start of a text, of at least `least` and at most `most` digits, and the
    rest. -/
def number? (least most : Nat) (text : List Char) : Option (Nat × List Char) :=
  let digits := (text.takeWhile Char.isDigit).take most
  if digits.length < least then none else some (digitsValue digits, text.drop digits.length)

/-- The rest of a text after a character that it must start with. -/
def after? (c : Char) : List Char → Option (List Char)
  | [] => none
  | d :: rest => if d = c then some rest else none

/-- The distance of a clock from universal time: nothing, `Z`, or hours and minutes with a sign. -/
def offset? (text : List Char) : Option (Option Int) :=
  if text.isEmpty then some none
  else
    match text.dropWhile isSpaceOrTab with
    | ['Z'] => some (some 0)
    | sign :: rest =>
      if sign = '+' ∨ sign = '-' then do
        let (hours, rest) ← number? 1 2 rest
        let minutes ←
          if rest.isEmpty then some 0
          else do
            let rest ← after? ':' rest
            let (minutes, rest) ← number? 2 2 rest
            if rest.isEmpty then some minutes else none
        let distance : Int := 60 * hours + minutes
        some (some (if sign = '-' then -distance else distance))
      else none
    | [] => none

/-- The digits of a fraction of a second as microseconds. -/
def microseconds (digits : List Char) : Nat :=
  let kept := digits.take 6
  digitsValue (kept ++ List.replicate (6 - kept.length) '0')

/-- What stands between a day and its time: the letter `T`, or spaces and tabs. -/
def afterDay? : List Char → Option (List Char)
  | [] => none
  | c :: rest =>
    if c = 'T' ∨ c = 't' then some rest
    else if isSpaceOrTab c then some (rest.dropWhile isSpaceOrTab)
    else none

/-- The parts of a time, as they are written: the year in four digits, month, day and hour in one or
    two, minute and second in two. -/
def Time.ofText? (text : List Char) : Option Time := do
  let (year, rest) ← number? 4 4 text
  let rest ← after? '-' rest
  let (month, rest) ← number? 1 2 rest
  let rest ← after? '-' rest
  let (dayOfMonth, rest) ← number? 1 2 rest
  let date : Day := ⟨year, month, dayOfMonth⟩
  if rest.isEmpty then some (.day date)
  else
    let rest ← afterDay? rest
    let (hour, rest) ← number? 1 2 rest
    let rest ← after? ':' rest
    let (minute, rest) ← number? 2 2 rest
    let rest ← after? ':' rest
    let (second, rest) ← number? 2 2 rest
    let (fraction, rest) :=
      match rest with
      | '.' :: more => (more.takeWhile Char.isDigit, more.dropWhile Char.isDigit)
      | _ => ([], rest)
    let offset ← offset? rest
    some (.moment ⟨date, hour, minute, second, microseconds fraction, offset⟩)

/-- Whether a plain text is a time. A day without a time has all of its ten characters. -/
def isTime (text : List Char) : Bool :=
  match Time.ofText? text with
  | none => false
  | some (.day _) => text.length == 10
  | some (.moment _) => true

/-- A day that the calendar has. -/
def Day.exists (d : Day) : Bool :=
  decide (1 ≤ d.year) && decide (1 ≤ d.month) && decide (d.month ≤ 12) && decide (1 ≤ d.day) &&
    decide (d.day ≤ daysIn d.year d.month)

/-- A moment of an existing day, on a clock less than a day away from universal time. -/
def Moment.exists (m : Moment) : Bool :=
  m.day.exists && decide (m.hour < 24) && decide (m.minute < 60) && decide (m.second < 60) &&
    (m.offset.getD 0).natAbs < 24 * 60

/-- A time that there is. -/
def Time.exists : Time → Bool
  | .day d => d.exists
  | .moment m => m.exists

/-- The time that a text writes. A line end at the end of the text does not count. -/
def Time.read (text : List Char) : Except Fault Time :=
  match Time.ofText? (chomped text) with
  | none => .error .notTime
  | some time => if time.exists then .ok time else .error .impossible

end PhpOutline.Yaml
