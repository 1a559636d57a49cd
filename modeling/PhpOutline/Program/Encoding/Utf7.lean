import PhpOutline.Text.Utf8

/-!
# UTF-7

Text in bytes below 128. A plus sign starts a section in which the sixteen-bit units of text are
written six bits at a time; the section ends at the first byte that is not one of the sixty-four
signs, and a minus sign there is part of it. A plus sign right before a minus sign is itself.
-/

namespace PhpOutline.Text.Utf7

/-- The value of a sign of a section. -/
def sign? (b : UInt8) : Option Nat :=
  let n := b.toNat
  if 0x41 ≤ n ∧ n ≤ 0x5A then some (n - 0x41)
  else if 0x61 ≤ n ∧ n ≤ 0x7A then some (n - 0x61 + 26)
  else if 0x30 ≤ n ∧ n ≤ 0x39 then some (n - 0x30 + 52)
  else if n = 0x2B then some 62
  else if n = 0x2F then some 63
  else none

/-- A section that is being read: bits that do not make a unit yet, how many they are, and the first
    half of a character whose second half is still to come. -/
structure Section where
  bits : Nat := 0
  count : Nat := 0
  half? : Option Nat := none

/-- The characters of a unit, and the half that stays open. A half without the other is no
    character. -/
def ofUnit (half? : Option Nat) (unit : Nat) : List Char × Option Nat :=
  let isHigh := decide (0xD800 ≤ unit) && decide (unit < 0xDC00)
  let isLow := decide (0xDC00 ≤ unit) && decide (unit < 0xE000)
  match half? with
  | some high =>
    if isLow then ([Char.ofNat (0x10000 + (high - 0xD800) * 0x400 + (unit - 0xDC00))], none)
    else if isHigh then ([Utf8.replacement], some unit)
    else ([Utf8.replacement, Char.ofNat unit], none)
  | none =>
    if isHigh then ([], some unit)
    else if isLow then ([Utf8.replacement], none)
    else ([Char.ofNat unit], none)

/-- The section after one more sign, and the characters that the sign completes. -/
def Section.next (s : Section) (sign : Nat) : List Char × Section :=
  let bits := s.bits * 64 + sign
  let count := s.count + 6
  if count < 16 then ([], { s with bits, count })
  else
    let rest := count - 16
    let (chars, half?) := ofUnit s.half? (bits / Nat.pow 2 rest)
    (chars, ⟨bits % Nat.pow 2 rest, rest, half?⟩)

/-- Whether a section cannot end here: it has bits of a unit that is not complete. -/
def Section.isCut (s : Section) : Bool := decide (6 ≤ s.count) || (decide (0 < s.count) && s.bits != 0)

/-- The text of bytes, outside of a section or inside of one. -/
def decodeFrom : Option Section → List UInt8 → List Char
  | none, [] => []
  | some s, [] => if s.half?.isSome || s.isCut then [Utf8.replacement] else []
  | none, b :: rest =>
    if b.toNat = 0x2B then
      match rest with
      | [] => []
      | c :: more =>
        if c.toNat = 0x2D then '+' :: decodeFrom none more
        else if (sign? c).isNone then Utf8.replacement :: decodeFrom none more
        else decodeFrom (some {}) (c :: more)
    else if b.toNat < 128 then Char.ofNat b.toNat :: decodeFrom none rest
    else Utf8.replacement :: decodeFrom none rest
  | some s, b :: rest =>
    match sign? b with
    | some sign =>
      let (chars, s) := s.next sign
      chars ++ decodeFrom (some s) rest
    | none =>
      if s.isCut then Utf8.replacement :: decodeFrom none rest
      else
        let half := if s.half?.isSome && decide (b.toNat < 128) then [Utf8.replacement] else []
        if b.toNat = 0x2D then half ++ decodeFrom none rest
        else if b.toNat < 128 then half ++ Char.ofNat b.toNat :: decodeFrom none rest
        else half ++ Utf8.replacement :: decodeFrom none rest

/-- The text of bytes. -/
def decode (bytes : List UInt8) : List Char := decodeFrom none bytes

end PhpOutline.Text.Utf7
