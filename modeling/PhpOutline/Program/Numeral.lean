import PhpOutline.Binary64
import PhpOutline.Text.Blank
import PhpOutline.Text.Digit
import PhpOutline.Yaml.Scalar

/-!
# Numerals

Numbers as people write them: with blanks around them, a sign, and the decimal digits of any script.

* `Numeral.integer?`: a whole number to a base;
* `Numeral.real?`: a floating-point number, also infinite or undefined.
-/

namespace PhpOutline.Numeral

open PhpOutline.Text

/-! ## Characters -/

/-- One character of a numeral in its ASCII form: blanks beyond ASCII are spaces, and digits of
    other scripts are decimal digits. No other character beyond ASCII is part of a numeral. -/
def simpleChar? (c : Char) : Option Char :=
  if c.toNat < 127 then some c
  else if isBlank c then some ' '
  else (digitValue? c).map fun n => Char.ofNat ('0'.toNat + n)

/-- A blank of ASCII that can stand around a numeral. -/
def isMargin (c : Char) : Bool := c == ' ' || (9 ≤ c.toNat && c.toNat ≤ 13)

/-- A numeral in its ASCII form and without the blanks around it. -/
def body? (text : List Char) : Option (List Char) := do
  let simple ← text.mapM simpleChar?
  return ((simple.dropWhile isMargin).reverse.dropWhile isMargin).reverse

/-- A text without its sign. -/
def unsigned : List Char → List Char
  | '+' :: rest => rest
  | '-' :: rest => rest
  | text => text

/-- Whether a text starts with a minus. -/
def isNegative (text : List Char) : Bool := text.head? == some '-'

/-! ## Whole numbers -/

/-- The value of a digit to a base up to 16. -/
def digit? (base : Nat) (c : Char) : Option Nat :=
  let n :=
    if c.isDigit then c.toNat - '0'.toNat
    else if decide ('a' ≤ c) && decide (c ≤ 'f') then c.toNat - 'a'.toNat + 10
    else if decide ('A' ≤ c) && decide (c ≤ 'F') then c.toNat - 'A'.toNat + 10
    else base
  if n < base then some n else none

/-- The value of a text of digits to a base, of which there is one at least. -/
def natural? (base : Nat) (text : List Char) : Option Nat :=
  if text.isEmpty then none
  else text.foldlM (fun n c => (digit? base c).map (base * n + ·)) 0

/-- The letter that announces a base after a zero. -/
def announces (base : Nat) (c : Char) : Bool :=
  (base == 2 && (c == 'b' || c == 'B')) || (base == 8 && (c == 'o' || c == 'O')) ||
    (base == 16 && (c == 'x' || c == 'X'))

/-- Digits without the zero and the letter that announce their base. -/
def unannounced (base : Nat) : List Char → List Char
  | '0' :: c :: rest => if announces base c then rest else '0' :: c :: rest
  | text => text

/-- The value of a whole number to the base 2, 8, 10 or 16. -/
def integer? (base : Nat) (text : List Char) : Option Int := do
  let body ← body? text
  let digits := unannounced base (unsigned body)
  if base = 10 ∧ Yaml.Scalar.greatestLength < digits.length then none
  else
    let size ← natural? base digits
    return if isNegative body then -(size : Int) else (size : Int)

/-! ## Floating-point numbers -/

/-- The rational that decimal digits with a point and an exponent write. Sizes beyond all numbers of
    64 bits are cut to a size that is beyond them too. -/
def decimal? (text : List Char) : Option Rat := do
  let isMark := fun c : Char => c == 'e' || c == 'E'
  let before := text.takeWhile fun c => !isMark c
  let exponent ←
    match text.dropWhile fun c => !isMark c with
    | [] => some (0 : Int)
    | _ :: '-' :: rest => (natural? 10 rest).map fun n => -(n : Int)
    | _ :: rest => (natural? 10 (unsigned rest)).map fun n => (n : Int)
  let whole := before.takeWhile (· != '.')
  let fraction := (before.dropWhile (· != '.')).drop 1
  let size ← natural? 10 (whole ++ fraction)
  if size = 0 then some 0
  else
    let place := exponent - fraction.length
    let count : Int := (Binary64.digits size).length
    if 400 < count + place then some ((10 : Rat) ^ (400 : Int))
    else if count + place < -400 then some 0
    else some ((size : Rat) * (10 : Rat) ^ place)

/-- The value of a floating-point number. -/
def real? (text : List Char) : Option Binary64 := do
  let body ← body? text
  let negative := isNegative body
  let size := unsigned body
  let word := String.ofList (size.map Char.toLower)
  if word == "inf" || word == "infinity" then return .infinite negative
  else if word == "nan" then return .undefined
  else return Binary64.round negative (← decimal? size)

end PhpOutline.Numeral
