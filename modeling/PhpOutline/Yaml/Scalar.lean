import PhpOutline.Text.Quoted
import PhpOutline.Yaml.Time

/-!
# Scalars of YAML documents

The values that hold no others.

* `Scalar.show`, `Scalar.same`, `Scalar.comparable`, `Scalar.atMost`: texts, equality and order, as
  the keys of mappings need them. Numbers are equal and ordered across their kinds, and a flag is
  the number 0 or 1; values of different families are never equal and have no order.
-/

namespace PhpOutline.Yaml

open PhpOutline.Text

/-- A value that holds no others. -/
inductive Scalar where
  | null
  | flag (value : Bool)
  | whole (value : Int)
  | real (value : Binary64)
  /-- An undefined number that was not written as one but came out of others. -/
  | stray
  | text (value : String)
  | bytes (value : List UInt8)
  | time (value : Time)
  deriving DecidableEq, Repr

/-! ## Texts -/

/-- A scalar as a text. -/
def Scalar.show : Scalar → String
  | .null => "None"
  | .flag true => "True"
  | .flag false => "False"
  | .whole n => toString n
  | .real x => x.text
  | .stray => Binary64.undefined.text
  | .text s => s
  | .bytes b => quotedBytes b
  | .time t => t.show

/-- The greatest number of decimal digits that are read or written. -/
def Scalar.greatestLength : Nat := 4300

/-- Whether a scalar has a text: numbers of too many digits have none. -/
def Scalar.isShown : Scalar → Bool
  | .whole n => (Binary64.digits n.natAbs).length ≤ greatestLength
  | _ => true

/-! ## Equality and order -/

/-- The families of scalars within which there is an order. -/
inductive Family where
  | null | number | text | bytes | day | moment | momentWithOffset
  deriving DecidableEq, Repr

/-- The family of a scalar. -/
def Scalar.family : Scalar → Family
  | .null => .null
  | .flag _ => .number
  | .whole _ => .number
  | .real _ => .number
  | .stray => .number
  | .text _ => .text
  | .bytes _ => .bytes
  | .time (.day _) => .day
  | .time (.moment m) => if m.offset.isSome then .momentWithOffset else .moment

/-- Where a scalar stands among those of its family, texts and bytes apart. -/
def Scalar.position : Scalar → Int × Rat
  | .flag b => (0, if b then 1 else 0)
  | .whole n => (0, n)
  | .real x => x.position
  | .stray => Binary64.undefined.position
  | .time (.day d) => (0, (d.ordinal : Int))
  | .time (.moment m) => (0, m.instant)
  | _ => (0, 0)

/-- Whether a scalar is at most another one of the same family. -/
def Scalar.atMost (a b : Scalar) : Bool :=
  match a, b with
  | .text s, .text t => decide (¬ t < s)
  | .bytes s, .bytes t => decide (¬ t < s)
  | _, _ =>
    let (i, x) := a.position
    let (j, y) := b.position
    decide (i < j) || (i == j && decide (x ≤ y))

/-- Whether two scalars are the same key. A stray undefined number is no key twice. -/
def Scalar.same (a b : Scalar) : Bool :=
  match a, b with
  | .stray, _ => false
  | _, .stray => false
  | .text s, .text t => s == t
  | .bytes s, .bytes t => s == t
  | _, _ => a.family == b.family && a.position == b.position

/-- Whether a list of scalars can be sorted: any two of them are of one family. -/
def Scalar.comparable (scalars : List Scalar) : Bool :=
  match scalars with
  | [] => true
  | first :: rest => rest.all fun other => other.family == first.family

end PhpOutline.Yaml
