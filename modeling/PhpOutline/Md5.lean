/-!
# MD5

The MD5 digest of bytes as hexadecimal digits. The message is padded with a one bit, zeros and its
length, and cut into blocks of 64 bytes; each block is sixteen words, which are mixed into a state of
four words in 64 steps.
-/

namespace PhpOutline.Md5

/-- The state: four words. -/
structure State where
  a : UInt32
  b : UInt32
  c : UInt32
  d : UInt32
  deriving DecidableEq, Repr

/-- The state before the first block. -/
def start : State := ⟨0x67452301, 0xefcdab89, 0x98badcfe, 0x10325476⟩

/-- The constant of each step: the leading bits of the sine of its number. -/
def constants : List UInt32 :=
  [0xd76aa478, 0xe8c7b756, 0x242070db, 0xc1bdceee, 0xf57c0faf, 0x4787c62a,
   0xa8304613, 0xfd469501, 0x698098d8, 0x8b44f7af, 0xffff5bb1, 0x895cd7be,
   0x6b901122, 0xfd987193, 0xa679438e, 0x49b40821, 0xf61e2562, 0xc040b340,
   0x265e5a51, 0xe9b6c7aa, 0xd62f105d, 0x02441453, 0xd8a1e681, 0xe7d3fbc8,
   0x21e1cde6, 0xc33707d6, 0xf4d50d87, 0x455a14ed, 0xa9e3e905, 0xfcefa3f8,
   0x676f02d9, 0x8d2a4c8a, 0xfffa3942, 0x8771f681, 0x6d9d6122, 0xfde5380c,
   0xa4beea44, 0x4bdecfa9, 0xf6bb4b60, 0xbebfbc70, 0x289b7ec6, 0xeaa127fa,
   0xd4ef3085, 0x04881d05, 0xd9d4d039, 0xe6db99e5, 0x1fa27cf8, 0xc4ac5665,
   0xf4292244, 0x432aff97, 0xab9423a7, 0xfc93a039, 0x655b59c3, 0x8f0ccc92,
   0xffeff47d, 0x85845dd1, 0x6fa87e4f, 0xfe2ce6e0, 0xa3014314, 0x4e0811a1,
   0xf7537e82, 0xbd3af235, 0x2ad7d2bb, 0xeb86d391]

/-- How far the sum of a step is rotated: four amounts for each round of sixteen steps. -/
def rotations : List UInt32 :=
  [[7, 12, 17, 22], [5, 9, 14, 20], [4, 11, 16, 23], [6, 10, 15, 21]].flatMap fun amounts =>
    (List.replicate 4 amounts).flatten

/-- A word rotated to the left. -/
def rotate (x n : UInt32) : UInt32 := (x <<< n) ||| (x >>> (32 - n))

/-- The mixing function of a step. -/
def mix (step : Nat) (s : State) : UInt32 :=
  if step < 16 then (s.b &&& s.c) ||| (~~~s.b &&& s.d)
  else if step < 32 then (s.d &&& s.b) ||| (~~~s.d &&& s.c)
  else if step < 48 then s.b ^^^ s.c ^^^ s.d
  else s.c ^^^ (s.b ||| ~~~s.d)

/-- The word of the block that a step takes. -/
def wordIndex (step : Nat) : Nat :=
  if step < 16 then step
  else if step < 32 then (5 * step + 1) % 16
  else if step < 48 then (3 * step + 5) % 16
  else (7 * step) % 16

/-- One step. -/
def stepWith (words : List UInt32) (s : State) (step : Nat) (constant rotation : UInt32) : State :=
  let sum := s.a + mix step s + constant + words.getD (wordIndex step) 0
  ⟨s.d, s.b + rotate sum rotation, s.b, s.c⟩

/-- The state after a block. -/
def compress (s : State) (words : List UInt32) : State :=
  let steps := (List.range 64).zip (constants.zip rotations)
  let mixed := steps.foldl (fun t (step, constant, rotation) => stepWith words t step constant rotation) s
  ⟨s.a + mixed.a, s.b + mixed.b, s.c + mixed.c, s.d + mixed.d⟩

/-- The bytes of a number, the lowest first. -/
def littleBytes (count n : Nat) : List UInt8 :=
  (List.range count).map fun i => UInt8.ofNat (n / Nat.pow 256 i % 256)

/-- The message with its padding. -/
def padded (bytes : List UInt8) : List UInt8 :=
  let zeros := (119 - bytes.length % 64) % 64
  bytes ++ [0x80] ++ List.replicate zeros 0 ++ littleBytes 8 (8 * bytes.length % Nat.pow 2 64)

/-- The groups of `size + 1` bytes of a message. -/
def groups (size : Nat) : List UInt8 → List (List UInt8)
  | [] => []
  | b :: rest => (b :: rest.take size) :: groups size (rest.drop size)
termination_by bytes => bytes.length
decreasing_by simp only [List.length_drop, List.length_cons]; omega

/-- The word of four bytes, the lowest first. -/
def word (bytes : List UInt8) : UInt32 :=
  UInt32.ofNat (bytes.foldr (fun b n => b.toNat + 256 * n) 0)

/-- The blocks of a message, each of sixteen words. -/
def blocks (bytes : List UInt8) : List (List UInt32) :=
  (groups 63 (padded bytes)).map fun block => (groups 3 block).map word

/-- A byte as two hexadecimal digits. -/
def hexByte (b : UInt8) : List Char :=
  [Nat.digitChar (b.toNat / 16), Nat.digitChar (b.toNat % 16)]

/-- The digest of bytes. -/
def digest (bytes : List UInt8) : String :=
  let s := (blocks bytes).foldl compress start
  String.ofList ([s.a, s.b, s.c, s.d].flatMap fun w => (littleBytes 4 w.toNat).flatMap hexByte)

end PhpOutline.Md5
