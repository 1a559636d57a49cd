/-!
# UTF-8

Bytes as text. `units` reads bytes from left to right: a character where one is encoded, and else a
gap that covers the longest start of a character, or one byte. Both ways of reading are read off it:

* `decode?`: the text, if there are no gaps;
* `decodeLoosely`: the text with the replacement character for each gap.
-/

namespace PhpOutline.Text.Utf8

/-- The continuation bytes that a first byte asks for: how many, and the range of the first of them.
    The ranges leave out characters that a shorter form encodes, surrogates and numbers that are no
    characters. -/
def row? (b : Nat) : Option (Nat × Nat × Nat) :=
  if 0xC2 ≤ b ∧ b ≤ 0xDF then some (1, 0x80, 0xBF)
  else if b = 0xE0 then some (2, 0xA0, 0xBF)
  else if b = 0xED then some (2, 0x80, 0x9F)
  else if 0xE1 ≤ b ∧ b ≤ 0xEF then some (2, 0x80, 0xBF)
  else if b = 0xF0 then some (3, 0x90, 0xBF)
  else if b = 0xF4 then some (3, 0x80, 0x8F)
  else if 0xF1 ≤ b ∧ b ≤ 0xF3 then some (3, 0x80, 0xBF)
  else none

/-- The continuation bytes at the start of a list, at most `count`; the first is in the range from
    `low` to `high`. -/
def tails : (count low high : Nat) → List UInt8 → List UInt8
  | 0, _, _, _ => []
  | _ + 1, _, _, [] => []
  | count + 1, low, high, b :: rest =>
    if low ≤ b.toNat ∧ b.toNat ≤ high then b :: tails count 0x80 0xBF rest else []

/-- The bits of a first byte that belong to the character, if it asks for `count` bytes more. -/
def leadBits (count b : Nat) : Nat :=
  if count = 1 then b - 0xC0 else if count = 2 then b - 0xE0 else b - 0xF0

/-- The number of a character, from the bits of its first byte and its continuation bytes. -/
def number (lead : Nat) (more : List UInt8) : Nat :=
  more.foldl (fun n b => 64 * n + (b.toNat - 0x80)) lead

/-- What stands at the start of bytes of which `b` is the first: a character or a gap, and the
    number of bytes after `b` that belong to it. -/
def unit (b : UInt8) (rest : List UInt8) : Option Char × Nat :=
  if b.toNat < 0x80 then (some (Char.ofNat b.toNat), 0)
  else
    match row? b.toNat with
    | none => (none, 0)
    | some (count, low, high) =>
      let more := tails count low high rest
      if more.length = count then
        (some (Char.ofNat (number (leadBits count b.toNat) more)), count)
      else (none, more.length)

/-- The characters and gaps of bytes. -/
def units : List UInt8 → List (Option Char)
  | [] => []
  | b :: rest => (unit b rest).1 :: units (rest.drop (unit b rest).2)
termination_by bytes => bytes.length
decreasing_by simp only [List.length_drop, List.length_cons]; omega

/-- The text of bytes, if they are nothing but encoded characters. -/
def decode? (bytes : List UInt8) : Option (List Char) := (units bytes).mapM id

/-- The character that stands for what is not a character. -/
def replacement : Char := '\ufffd'

/-- The text of bytes, with the replacement character for each gap. -/
def decodeLoosely (bytes : List UInt8) : List Char := (units bytes).map fun u => u.getD replacement

/-- The mark at the start of a text that says how it is encoded. -/
def byteOrderMark : Char := '\ufeff'

/-- A text without the mark at its start. -/
def dropMark : List Char → List Char
  | [] => []
  | c :: rest => if c = byteOrderMark then rest else c :: rest

end PhpOutline.Text.Utf8
