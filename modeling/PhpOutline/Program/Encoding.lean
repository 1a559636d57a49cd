import PhpOutline.Program.Encoding.Charset
import PhpOutline.Program.Encoding.Utf7
import PhpOutline.SourceFile.Loading
import PhpOutline.Text.Utf8

/-!
# Encodings

Encodings that a file can be read in, the names that they go by, and reading. A byte or group of
bytes that means nothing in an encoding is read as the replacement character. The encodings of
Chinese, Japanese and Korean, which have great tables, are not among them.

* `Encoding.ofName?`: the encoding of a name;
* `Encoding.decode`: the text of bytes;
* `Encoding.codecs`: the encodings by their names.
-/

namespace PhpOutline

open Text

/-- The order of the bytes of a number. -/
inductive ByteOrder where
  | little
  | big
  deriving DecidableEq, Repr

/-- The number of some bytes. -/
def ByteOrder.number : ByteOrder → List UInt8 → Nat
  | .little, bytes => bytes.foldr (fun b n => b.toNat + 256 * n) 0
  | .big, bytes => bytes.foldl (fun n b => 256 * n + b.toNat) 0

/-- An encoding of text in bytes. -/
inductive Encoding where
  | latin1
  | ascii
  | utf8
  /-- UTF-8 with a mark at the start, which is not part of the text. -/
  | markedUtf8
  | windows1252
  | utf7
  /-- UTF-16; without an order, a mark at the start gives it. -/
  | utf16 (order? : Option ByteOrder)
  /-- UTF-32; without an order, a mark at the start gives it. -/
  | utf32 (order? : Option ByteOrder)
  | charset (set : Charset)
  deriving DecidableEq, Repr

namespace Encoding

/-! ## Names -/

/-- Whether a character counts in the name of an encoding. -/
def isNameChar (c : Char) : Bool := c.isAlphanum || c == '.'

/-- A name in lower case, with one underscore for each run of other characters between those that
    count. -/
def plainName (name : List Char) : List Char :=
  let step := fun (acc : List Char × Bool) (c : Char) =>
    if isNameChar c then
      ((if acc.2 && !acc.1.isEmpty then acc.1 ++ ['_'] else acc.1) ++ [c.toLower], false)
    else (acc.1, true)
  (name.foldl step ([], false)).1

/-- The name of an encoding. -/
def name : Encoding → String
  | .latin1 => "latin_1"
  | .ascii => "ascii"
  | .utf8 => "utf_8"
  | .markedUtf8 => "utf_8_sig"
  | .windows1252 => "cp1252"
  | .utf7 => "utf_7"
  | .utf16 none => "utf_16"
  | .utf16 (some .little) => "utf_16_le"
  | .utf16 (some .big) => "utf_16_be"
  | .utf32 none => "utf_32"
  | .utf32 (some .little) => "utf_32_le"
  | .utf32 (some .big) => "utf_32_be"
  | .charset set => set.name

/-- Other names of an encoding. In these a full stop can stand for an underscore. -/
def aliases : Encoding → List String
  | .latin1 => ["8859", "cp819", "csisolatin1", "ibm819", "iso8859", "iso8859_1", "iso_8859_1",
      "iso_8859_1_1987", "iso_ir_100", "l1", "latin", "latin1"]
  | .ascii => ["646", "ansi_x3.4_1968", "ansi_x3_4_1968", "ansi_x3.4_1986", "cp367", "csascii",
      "ibm367", "iso646_us", "iso_646.irv_1991", "iso_ir_6", "us", "us_ascii"]
  | .utf8 => ["u8", "utf", "utf8", "utf8_ucs2", "utf8_ucs4", "cp65001"]
  | .markedUtf8 => []
  | .windows1252 => ["1252", "windows_1252"]
  | .utf7 => ["u7", "utf7", "unicode_1_1_utf_7"]
  | .utf16 none => ["u16", "utf16"]
  | .utf16 (some .little) => ["unicodelittleunmarked", "utf_16le"]
  | .utf16 (some .big) => ["unicodebigunmarked", "utf_16be"]
  | .utf32 none => ["u32", "utf32"]
  | .utf32 (some .little) => ["utf_32le"]
  | .utf32 (some .big) => ["utf_32be"]
  | .charset set => set.aliases

/-- All encodings. -/
def all : List Encoding :=
  [.latin1, .ascii, .utf8, .markedUtf8, .windows1252, .utf7, .utf16 none, .utf16 (some .little),
   .utf16 (some .big), .utf32 none, .utf32 (some .little), .utf32 (some .big)] ++
    Charset.all.map .charset

/-- The encoding of a name; case and the characters between words do not count. -/
def ofName? (name : String) : Option Encoding :=
  let plain := plainName name.toList
  let text := String.ofList plain
  let dotless := String.ofList (plain.map fun c => if c = '.' then '_' else c)
  (all.find? fun encoding => encoding.aliases.contains text) <|>
    (all.find? fun encoding => encoding.aliases.contains dotless) <|>
    (all.find? fun encoding => encoding.name == text)

/-! ## Single bytes -/

/-- The character of the same number as a byte. -/
def latin1Char (b : UInt8) : Char := Char.ofNat b.toNat

/-- The character of a byte in ASCII. -/
def asciiChar (b : UInt8) : Char := if b.toNat < 0x80 then latin1Char b else Utf8.replacement

/-- The characters of the bytes from `0x80` to `0x9F` in Windows-1252, of which five mean
    nothing. -/
def windows1252Upper : List Char :=
  ['€', '\ufffd', '‚', 'ƒ', '„', '…', '†', '‡', 'ˆ', '‰', 'Š', '‹', 'Œ', '\ufffd', 'Ž', '\ufffd',
   '\ufffd', '‘', '’', '“', '”', '•', '–', '—', '˜', '™', 'š', '›', 'œ', '\ufffd', 'ž', 'Ÿ']

/-- The character of a byte in Windows-1252. -/
def windows1252Char (b : UInt8) : Char :=
  if 0x80 ≤ b.toNat ∧ b.toNat < 0xA0 then
    windows1252Upper.getD (b.toNat - 0x80) Utf8.replacement
  else latin1Char b

/-! ## Numbers of several bytes -/

/-- The number of the mark at the start of a text. -/
def markNumber : Nat := Utf8.byteOrderMark.toNat

/-- The order of numbers of `width` bytes and the bytes after the mark. A mark at the start gives
    the order, and without one the low byte is first. -/
def markedOrder (width : Nat) (bytes : List UInt8) : ByteOrder × List UInt8 :=
  let first := bytes.take width
  if first.length = width ∧ ByteOrder.little.number first = markNumber then
    (.little, bytes.drop width)
  else if first.length = width ∧ ByteOrder.big.number first = markNumber then
    (.big, bytes.drop width)
  else (.little, bytes)

/-- The first half of a pair that stands for one character. -/
def isHighHalf (n : Nat) : Bool := decide (0xD800 ≤ n) && decide (n < 0xDC00)

/-- The second half of a pair that stands for one character. -/
def isLowHalf (n : Nat) : Bool := decide (0xDC00 ≤ n) && decide (n < 0xE000)

/-- The character of a pair of halves. -/
def pairChar (high low : Nat) : Char :=
  Char.ofNat (0x10000 + (high - 0xD800) * 0x400 + (low - 0xDC00))

/-- The text of bytes in UTF-16. A half without its partner is no character, nor is a single byte at
    the end. -/
def decode16 (order : ByteOrder) : List UInt8 → List Char
  | [] => []
  | [_] => [Utf8.replacement]
  | a :: b :: rest =>
    let n := order.number [a, b]
    if isHighHalf n then
      match rest with
      | c :: d :: later =>
        let m := order.number [c, d]
        if isLowHalf m then pairChar n m :: decode16 order later
        else Utf8.replacement :: decode16 order (c :: d :: later)
      | _ => [Utf8.replacement]
    else if isLowHalf n then Utf8.replacement :: decode16 order rest
    else Char.ofNat n :: decode16 order rest

/-- The character of a number. Halves of pairs and numbers that are too great are none. -/
def numberChar (n : Nat) : Char :=
  if isHighHalf n || isLowHalf n || decide (0x10FFFF < n) then Utf8.replacement else Char.ofNat n

/-- The text of bytes in UTF-32. Fewer than four bytes at the end are no character. -/
def decode32 (order : ByteOrder) : List UInt8 → List Char
  | [] => []
  | a :: b :: c :: d :: rest => numberChar (order.number [a, b, c, d]) :: decode32 order rest
  | _ => [Utf8.replacement]

/-! ## Reading -/

/-- The text of bytes in an encoding. -/
def decode : Encoding → List UInt8 → List Char
  | .latin1, bytes => bytes.map latin1Char
  | .ascii, bytes => bytes.map asciiChar
  | .utf8, bytes => Utf8.decodeLoosely bytes
  | .markedUtf8, bytes => Utf8.dropMark (Utf8.decodeLoosely bytes)
  | .windows1252, bytes => bytes.map windows1252Char
  | .utf7, bytes => Utf7.decode bytes
  | .utf16 (some order), bytes => decode16 order bytes
  | .utf16 none, bytes =>
    let (order, rest) := markedOrder 2 bytes
    decode16 order rest
  | .utf32 (some order), bytes => decode32 order bytes
  | .utf32 none, bytes =>
    let (order, rest) := markedOrder 4 bytes
    decode32 order rest
  | .charset set, bytes => set.decode bytes

/-- Names of encodings that break off whatever the bytes are, and why. -/
def breaking : List (String × String) :=
  [("idna", "Unsupported error handling replace"), ("undefined", "undefined encoding")]

/-- The encodings by their names. -/
def codecs : Codecs := fun name =>
  match ofName? name with
  | some e => some fun bytes => .ok (e.decode bytes)
  | none =>
    (breaking.lookup (String.ofList (plainName name.toList))).map fun cause _ =>
      .error s!"decoding with '{name}' codec failed (UnicodeError: {cause})"

end Encoding

end PhpOutline
