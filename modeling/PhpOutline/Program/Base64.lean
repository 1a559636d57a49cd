/-!
# Base 64

Bytes written with sixty-four signs, four signs for three bytes. Other characters are passed over,
also between the signs of one group.

* `Base64.decode?`: the bytes of a text, or nothing if its last group is cut off.
-/

namespace PhpOutline.Base64

/-- The value of a sign. -/
def sign? (c : Char) : Option Nat :=
  if c.isUpper then some (c.toNat - 'A'.toNat)
  else if c.isLower then some (c.toNat - 'a'.toNat + 26)
  else if c.isDigit then some (c.toNat - '0'.toNat + 52)
  else if c == '+' then some 62
  else if c == '/' then some 63
  else none

/-- A group that has been started: how many of its signs have been read, the bits of the last sign
    that belong to the next byte, and how many padding characters have followed the last sign. -/
structure Group where
  signs : Nat := 0
  bits : Nat := 0
  pads : Nat := 0

/-- The byte that a sign completes, and the group after it. -/
def Group.next (g : Group) (sign : Nat) : Option Nat × Group :=
  match g.signs with
  | 0 => (none, { signs := 1, bits := sign })
  | 1 => (some (g.bits * 4 + sign / 16), { signs := 2, bits := sign % 16 })
  | 2 => (some (g.bits * 16 + sign / 4), { signs := 3, bits := sign % 4 })
  | _ => (some (g.bits * 64 + sign), {})

/-- The bytes of a text inside of a group. Padding that completes a group ends the text; other
    padding is passed over. -/
def decodeFrom (g : Group) : List Char → Option (List UInt8)
  | [] => if g.signs = 0 then some [] else none
  | c :: rest =>
    if c = '=' then
      if 2 ≤ g.signs then
        if 4 ≤ g.signs + g.pads + 1 then some []
        else decodeFrom { g with pads := g.pads + 1 } rest
      else decodeFrom g rest
    else
      match sign? c with
      | none => decodeFrom g rest
      | some sign =>
        let (byte?, g) := g.next sign
        let more := decodeFrom g rest
        match byte? with
        | none => more
        | some byte => more.map (UInt8.ofNat byte :: ·)

/-- The bytes of a text. -/
def decode? (text : List Char) : Option (List UInt8) := decodeFrom {} text

end PhpOutline.Base64
