/-!
# Floating-point numbers of 64 bits

A finite number is a mantissa below `2^53` times a power of two; besides these there are the two
infinities and the undefined number.

* `Binary64.round`: the number nearest to a rational, a half going to the even mantissa;
* `Binary64.shortest`: the fewest decimal digits that round back to a number, and of those the
  nearest, a half going to the even digit;
* `Binary64.text`: these digits written out.
-/

namespace PhpOutline

/-- A floating-point number of 64 bits. -/
inductive Binary64 where
  | finite (negative : Bool) (mantissa : Nat) (exponent : Int)
  | infinite (negative : Bool)
  | undefined
  deriving DecidableEq, Repr

namespace Binary64

/-- The least exponent of a finite number. -/
def leastExponent : Int := -1074

/-- The greatest exponent of a finite number. -/
def greatestExponent : Int := 971

/-- The whole number nearest to a rational that is not negative, a half going to the even one. -/
def nearest (r : Rat) : Nat :=
  let below := r.floor.toNat
  let part := r - (below : Rat)
  if part < 1/2 then below
  else if 1/2 < part then below + 1
  else below + below % 2

/-- The exponent at which a positive rational has a mantissa of 53 bits, if that is not below the
    least exponent. -/
def exponentOf (r : Rat) : Int :=
  let guess : Int := (r.num.toNat.log2 : Int) - (r.den.log2 : Int) - 52
  let scaled := r / (2 : Rat) ^ guess
  let exact :=
    if scaled < (2 : Rat) ^ (52 : Int) then guess - 1
    else if (2 : Rat) ^ (53 : Int) ≤ scaled then guess + 1
    else guess
  max exact leastExponent

/-- The number nearest to a rational; `negative` is its sign and `size` its distance from zero. -/
def round (negative : Bool) (size : Rat) : Binary64 :=
  if size = 0 then .finite negative 0 0
  else
    let exponent := exponentOf size
    let mantissa := nearest (size / (2 : Rat) ^ exponent)
    let (mantissa, exponent) :=
      if mantissa = Nat.pow 2 53 then (Nat.pow 2 52, exponent + 1) else (mantissa, exponent)
    if greatestExponent < exponent then .infinite negative
    else .finite negative mantissa exponent

/-- The rational that a finite number is. -/
def value? : Binary64 → Option Rat
  | .finite negative m e =>
    let size := (m : Rat) * (2 : Rat) ^ e
    some (if negative then -size else size)
  | _ => none

/-! ## Arithmetic -/

/-- Whether a number has a minus. -/
def isNegative : Binary64 → Bool
  | .finite negative _ _ => negative
  | .infinite negative => negative
  | .undefined => false

/-- A number with the other sign. -/
def neg : Binary64 → Binary64
  | .finite negative m e => .finite (!negative) m e
  | .infinite negative => .infinite (!negative)
  | .undefined => .undefined

/-- The number nearest to a rational of any sign; zero gets the sign `zeroSign`. -/
def ofRat (zeroSign : Bool) (r : Rat) : Binary64 :=
  if r = 0 then .finite zeroSign 0 0
  else if r < 0 then round true (-r)
  else round false r

/-- The sum, rounded. A sum of zero is negative only if both terms are. -/
def add (x y : Binary64) : Binary64 :=
  match x.value?, y.value? with
  | some a, some b => ofRat (x.isNegative && y.isNegative) (a + b)
  | _, _ =>
    match x, y with
    | .undefined, _ => .undefined
    | _, .undefined => .undefined
    | .infinite a, .infinite b => if a = b then .infinite a else .undefined
    | .infinite a, _ => .infinite a
    | _, y => y

/-- The product, rounded. -/
def mul (x y : Binary64) : Binary64 :=
  let negative := x.isNegative != y.isNegative
  match x.value?, y.value? with
  | some a, some b => ofRat negative (a * b)
  | some a, none => if a = 0 ∨ y = .undefined then .undefined else .infinite negative
  | none, some b => if b = 0 ∨ x = .undefined then .undefined else .infinite negative
  | none, none => if x = .undefined ∨ y = .undefined then .undefined else .infinite negative

/-! ## Shortest decimal text -/

/-- The digits of a whole number. -/
def digits (n : Nat) : List Char := Nat.toDigits 10 n

/-- The place of the first decimal digit of a positive rational: `k` for a number from `10^k` up to,
    but not including, `10^(k+1)`. -/
def leadingPlace (r : Rat) : Int :=
  let guess : Int :=
    if 1 ≤ r then ((digits r.floor.toNat).length : Int) - 1
    else -((digits (1 / r).floor.toNat).length : Int)
  if r < (10 : Rat) ^ guess then guess - 1
  else if (10 : Rat) ^ (guess + 1) ≤ r then guess + 1
  else guess

/-- The decimals with digits `(d, place)`, meaning `d · 10^place`, that round to `m · 2^e`: those
    closer to it than half the way to its neighbours, ends included if the mantissa is even. -/
def roundsTo (m : Nat) (e : Int) (d : Nat) (place : Int) : Bool :=
  let value := (m : Rat) * (2 : Rat) ^ e
  let above := (2 : Rat) ^ (e - 1)
  let below := if m = Nat.pow 2 52 ∧ leastExponent < e then above / 2 else above
  let decimal := (d : Rat) * (10 : Rat) ^ place
  if m % 2 = 0 then value - below ≤ decimal ∧ decimal ≤ value + above
  else value - below < decimal ∧ decimal < value + above

/-- The decimal on the grid of `count` digits that rounds back: the nearer one of two, and of two
    that are equally near the even one. -/
def onGrid? (m : Nat) (e : Int) (count : Nat) : Option (Nat × Int) :=
  let value := (m : Rat) * (2 : Rat) ^ e
  let place := leadingPlace value - ((count : Int) - 1)
  let scaled := value / (10 : Rat) ^ place
  let low := scaled.floor.toNat
  let first := nearest scaled
  let second := if first = low then low + 1 else low
  if roundsTo m e first place then some (first, place)
  else if roundsTo m e second place then some (second, place)
  else none

/-- The fewest digits that round back to `m · 2^e`, with the place of the last of them. -/
def shortest (m : Nat) (e : Int) : Nat × Int :=
  match (List.range 17).findSome? fun n => onGrid? m e (n + 1) with
  | some found => found
  | none => (nearest ((m : Rat) * (2 : Rat) ^ e), 0)

/-- Digits without the zeros at their end, which move the place of the last one. -/
def dropZeros (text : List Char) (place : Int) : List Char × Int :=
  let zeros := (text.reverse.takeWhile (· == '0')).length
  (text.take (text.length - zeros), place + zeros)

/-- An exponent of ten: a sign and at least two digits. -/
def exponentText (n : Int) : List Char :=
  let body := digits n.natAbs
  (if n < 0 then '-' else '+') :: (if body.length < 2 then '0' :: body else body)

/-- Digits with their place written out: with a point from `0.0001` up to sixteen places before it,
    and with an exponent of ten elsewhere. -/
def written (text : List Char) (place : Int) : List Char :=
  let point : Int := text.length + place
  if point ≤ -4 ∨ 16 < point then
    let tail := text.drop 1
    text.take 1 ++ (if tail.isEmpty then [] else '.' :: tail) ++ 'e' :: exponentText (point - 1)
  else if point ≤ 0 then '0' :: '.' :: (List.replicate (-point).toNat '0' ++ text)
  else if 0 ≤ place then text ++ List.replicate place.toNat '0' ++ ['.', '0']
  else text.take point.toNat ++ '.' :: text.drop point.toNat

/-- A number as the shortest text that reads back. -/
def text : Binary64 → String
  | .undefined => "nan"
  | .infinite negative => if negative then "-inf" else "inf"
  | .finite negative m e =>
    let body :=
      if m = 0 then ['0', '.', '0']
      else
        let (d, place) := shortest m e
        let (kept, place) := dropZeros (digits d) place
        written kept place
    String.ofList (if negative then '-' :: body else body)

/-! ## Order -/

/-- A finite number or an infinity on the line: `-1` and `1` mark the infinities. -/
def position : Binary64 → Int × Rat
  | .infinite true => (-1, 0)
  | .infinite false => (1, 0)
  | .undefined => (1, 1)
  | x => (0, x.value?.getD 0)

end Binary64

end PhpOutline
