import PhpOutline.Program.Numeral
import PhpOutline.Text.Case
import PhpOutline.Text.Lines
import PhpOutline.Yaml.Fault

/-!
# Numbers in YAML documents

Whole numbers are binary, octal, decimal, hexadecimal or to the base 60, real numbers decimal or to
the base 60. Underscores between digits do not count.

* `isWhole`, `isReal`: whether a plain text is a number;
* `wholeOf`, `realOf`: the number of a text that is asked to be one. They read more than plain texts
  can be, such as digits of other scripts.
-/

namespace PhpOutline.Yaml

open PhpOutline.Numeral PhpOutline.Text

/-! ## Plain texts -/

/-- A decimal digit or an underscore between digits. -/
def isSpacedDigit (c : Char) : Bool := c.isDigit || c == '_'

/-- A hexadecimal digit. -/
def isHexDigit (c : Char) : Bool :=
  c.isDigit || (decide ('a' ≤ c) && decide (c ≤ 'f')) || (decide ('A' ≤ c) && decide (c ≤ 'F'))

/-- A part of a number to the base 60: one digit, or two with the first at most five. -/
def isSixtieth : List Char → Bool
  | [b] => b.isDigit
  | [a, b] => decide ('0' ≤ a) && decide (a ≤ '5') && b.isDigit
  | _ => false

/-- The parts of a number to the base 60 after the first: there is one at least. -/
def areSixtieths (parts : List (List Char)) : Bool := !parts.isEmpty && parts.all isSixtieth

/-- Whether a text is a whole number: binary, octal, decimal, hexadecimal or to the base 60. -/
def isWhole (text : List Char) : Bool :=
  match unsigned text with
  | ['0'] => true
  | '0' :: 'b' :: rest => !rest.isEmpty && rest.all fun c => c == '0' || c == '1' || c == '_'
  | '0' :: 'x' :: rest => !rest.isEmpty && rest.all fun c => isHexDigit c || c == '_'
  | '0' :: rest => rest.all fun c => (decide ('0' ≤ c) && decide (c ≤ '7')) || c == '_'
  | c :: rest =>
    c.isDigit &&
      match splitOnChar ':' rest with
      | [] => false
      | first :: [] => first.all isSpacedDigit
      | first :: parts => first.all isSpacedDigit && areSixtieths parts
  | [] => false

/-- Whether a text is empty or an exponent with its sign, after the digits of a real number. -/
def isExponent : List Char → Bool
  | [] => true
  | e :: sign :: rest =>
    (e == 'e' || e == 'E') && (sign == '+' || sign == '-') && !rest.isEmpty && rest.all Char.isDigit
  | _ => false

/-- Whether a text is a fraction after its point, with or without an exponent. -/
def isFraction (text : List Char) : Bool := isExponent (text.dropWhile isSpacedDigit)

/-- Whether a text is a real number. It has a point, and an exponent has a sign. -/
def isReal (text : List Char) : Bool :=
  match text with
  | '.' :: c :: rest =>
    (c.isDigit && isFraction rest) ||
      ["inf", "Inf", "INF", "nan", "NaN", "NAN"].contains (String.ofList (c :: rest))
  | _ =>
    match unsigned text with
    | '.' :: rest => ["inf", "Inf", "INF"].contains (String.ofList rest)
    | c :: rest =>
      c.isDigit &&
        (let before := rest.takeWhile (· != '.')
         match rest.dropWhile (· != '.') with
         | [] => false
         | _ :: after =>
           match splitOnChar ':' before with
           | [] => false
           | first :: [] => first.all isSpacedDigit && isFraction after
           | first :: parts =>
             first.all isSpacedDigit && areSixtieths parts && after.all isSpacedDigit)
    | [] => false

/-! ## Values -/

/-- A number that there is. -/
def orImpossible {α : Type} : Option α → Except Fault α
  | some value => .ok value
  | none => .error .impossible

/-- A text without underscores; it must not be empty. -/
def withoutSpacing (text : List Char) : Except Fault (List Char) :=
  let kept := text.filter (· != '_')
  if kept.isEmpty then .error .emptyNumber else .ok kept

/-- The value of a list of parts to the base 60, the last part counting ones. -/
def sixtieths? (parts : List (List Char)) : Option Int :=
  parts.foldlM (fun n part => (integer? 10 part).map (60 * n + ·)) 0

/-- The value of a whole number. -/
def wholeOf (text : List Char) : Except Fault Int := do
  let text ← withoutSpacing text
  let body := unsigned text
  let size ←
    match body with
    | [] => .error .emptyNumber
    | '0' :: 'b' :: rest => orImpossible (integer? 2 rest)
    | '0' :: 'x' :: rest => orImpossible (integer? 16 rest)
    | '0' :: _ => orImpossible (integer? 8 body)
    | _ =>
      if body.contains ':' then orImpossible (sixtieths? (splitOnChar ':' body))
      else orImpossible (integer? 10 body)
  return if isNegative text then -size else size

/-- The value of a list of parts to the base 60, the last part counting ones. Each part is added to
    the sum with one rounding for the product and one for the sum, starting from the last. -/
def realSixtieths (parts : List (List Char)) : Except Fault Binary64 := do
  let values ← orImpossible (parts.reverse.mapM real?)
  let (sum, _) ← values.foldlM
    (fun (sum, base) part =>
      match Binary64.round false base with
      | .infinite _ => Except.error Fault.numberTooLarge
      | factor => .ok (sum.add (part.mul factor), base * 60))
    (Binary64.round false 0, (1 : Rat))
  return sum

/-- The value of a real number, and whether it is one of the two words for a number that is infinite
    or undefined. -/
def realOf (text : List Char) : Except Fault (Binary64 × Bool) := do
  let text := lower (← withoutSpacing text)
  let body := unsigned text
  let sign := fun x : Binary64 => if isNegative text then x.neg else x
  if body = ['.', 'i', 'n', 'f'] then return (sign (.infinite false), true)
  else if body = ['.', 'n', 'a', 'n'] then return (.undefined, true)
  else if body.contains ':' then
    return (sign (← realSixtieths (splitOnChar ':' body)), false)
  else return (sign (← orImpossible (real? body)), false)

end PhpOutline.Yaml
