import Mathlib.Data.List.Basic
import PhpOutline.Text.Utf8

/-!
# Well-formed UTF-8

The grammar of UTF-8, and decoding. Overlong forms, surrogates, numbers beyond the last character
and sequences that are cut off are not in the grammar. Decoding succeeds exactly on the byte strings
of the grammar, and gives the text whose bytes they are.

Results:
* `isCharacter_utf8EncodeChar`, `exists_unit_of_isCharacter`, `isCharacter_of_unit`: one character.
* `decode?_eq_some_iff`: decoding is the inverse of encoding.
* `wellFormed_iff`: the byte strings that can be decoded.
-/

namespace PhpOutline.Text.Utf8

/-! ## The grammar -/

/-- `UTF8-tail = %x80-BF` -/
def IsTail (b : UInt8) : Prop := 0x80 ≤ b.toNat ∧ b.toNat ≤ 0xBF

/-- `UTF8-char`: the bytes of one character. -/
inductive IsCharacter : List UInt8 → Prop
  /-- `UTF8-1 = %x00-7F` -/
  | one {a : UInt8} : a.toNat ≤ 0x7F → IsCharacter [a]
  /-- `UTF8-2 = %xC2-DF UTF8-tail` -/
  | two {a b : UInt8} : 0xC2 ≤ a.toNat → a.toNat ≤ 0xDF → IsTail b → IsCharacter [a, b]
  /-- `UTF8-3 = %xE0 %xA0-BF UTF8-tail` -/
  | threeE0 {a b c : UInt8} : a.toNat = 0xE0 → 0xA0 ≤ b.toNat → b.toNat ≤ 0xBF → IsTail c →
      IsCharacter [a, b, c]
  /-- `/ %xE1-EC 2( UTF8-tail )` -/
  | threeE1 {a b c : UInt8} : 0xE1 ≤ a.toNat → a.toNat ≤ 0xEC → IsTail b → IsTail c →
      IsCharacter [a, b, c]
  /-- `/ %xED %x80-9F UTF8-tail` -/
  | threeED {a b c : UInt8} : a.toNat = 0xED → 0x80 ≤ b.toNat → b.toNat ≤ 0x9F → IsTail c →
      IsCharacter [a, b, c]
  /-- `/ %xEE-EF 2( UTF8-tail )` -/
  | threeEE {a b c : UInt8} : 0xEE ≤ a.toNat → a.toNat ≤ 0xEF → IsTail b → IsTail c →
      IsCharacter [a, b, c]
  /-- `UTF8-4 = %xF0 %x90-BF 2( UTF8-tail )` -/
  | fourF0 {a b c d : UInt8} : a.toNat = 0xF0 → 0x90 ≤ b.toNat → b.toNat ≤ 0xBF → IsTail c →
      IsTail d → IsCharacter [a, b, c, d]
  /-- `/ %xF1-F3 3( UTF8-tail )` -/
  | fourF1 {a b c d : UInt8} : 0xF1 ≤ a.toNat → a.toNat ≤ 0xF3 → IsTail b → IsTail c → IsTail d →
      IsCharacter [a, b, c, d]
  /-- `/ %xF4 %x80-8F 2( UTF8-tail )` -/
  | fourF4 {a b c d : UInt8} : a.toNat = 0xF4 → 0x80 ≤ b.toNat → b.toNat ≤ 0x8F → IsTail c →
      IsTail d → IsCharacter [a, b, c, d]

/-- `UTF8-octets = *( UTF8-char )` -/
inductive WellFormed : List UInt8 → Prop
  | nil : WellFormed []
  | append {first rest : List UInt8} : IsCharacter first → WellFormed rest →
      WellFormed (first ++ rest)

/-! ## The bytes of a character -/

theorem eq_ofNat_of_toNat {b : UInt8} {n : Nat} (h : b.toNat = n) : b = UInt8.ofNat n := by
  rw [← h, UInt8.ofNat_toNat]

theorem toNat_ofNat_of_lt {n : Nat} (h : n < 256) : (UInt8.ofNat n).toNat = n := by
  rw [UInt8.toNat_ofNat', Nat.mod_eq_of_lt h]

theorem val_ofNat {n : Nat} (h : n < 0xD800 ∨ 0xDFFF < n ∧ n < 0x110000) :
    (Char.ofNat n).val.toNat = n := by
  have hchar : n.isValidChar := h
  rw [Char.ofNat, dif_pos hchar]
  rfl

variable {a b c d : UInt8}

theorem utf8EncodeChar_one (ha : a.toNat ≤ 0x7F) :
    String.utf8EncodeChar (Char.ofNat a.toNat) = [a] := by
  simp only [String.utf8EncodeChar, val_ofNat (n := a.toNat) (by omega), if_pos ha,
    UInt8.ofNat_toNat]

theorem utf8EncodeChar_two (ha : 0xC2 ≤ a.toNat ∧ a.toNat ≤ 0xDF) (hb : IsTail b) :
    String.utf8EncodeChar (Char.ofNat (number (leadBits 1 a.toNat) [b])) = [a, b] := by
  obtain ⟨hb, hb'⟩ := hb
  have hnumber : number (leadBits 1 a.toNat) [b] = 64 * (a.toNat - 0xC0) + (b.toNat - 0x80) := rfl
  rw [hnumber]
  simp only [String.utf8EncodeChar, val_ofNat (n := 64 * (a.toNat - 0xC0) + (b.toNat - 0x80))
    (by omega)]
  rw [if_neg (by omega), if_pos (by omega), ← eq_ofNat_of_toNat (b := a) (by omega),
    ← eq_ofNat_of_toNat (b := b) (by omega)]

theorem utf8EncodeChar_three (ha : 0xE0 ≤ a.toNat ∧ a.toNat ≤ 0xEF) (hb : IsTail b)
    (hlow : a.toNat = 0xE0 → 0xA0 ≤ b.toNat) (hhigh : a.toNat = 0xED → b.toNat ≤ 0x9F)
    (hc : IsTail c) :
    String.utf8EncodeChar (Char.ofNat (number (leadBits 2 a.toNat) [b, c])) = [a, b, c] := by
  obtain ⟨hb, hb'⟩ := hb
  obtain ⟨hc, hc'⟩ := hc
  have hnumber : number (leadBits 2 a.toNat) [b, c] =
      64 * (64 * (a.toNat - 0xE0) + (b.toNat - 0x80)) + (c.toNat - 0x80) := rfl
  rw [hnumber]
  simp only [String.utf8EncodeChar,
    val_ofNat (n := 64 * (64 * (a.toNat - 0xE0) + (b.toNat - 0x80)) + (c.toNat - 0x80)) (by omega)]
  rw [if_neg (by omega), if_neg (by omega), if_pos (by omega),
    ← eq_ofNat_of_toNat (b := a) (by omega), ← eq_ofNat_of_toNat (b := b) (by omega),
    ← eq_ofNat_of_toNat (b := c) (by omega)]

theorem utf8EncodeChar_four (ha : 0xF0 ≤ a.toNat ∧ a.toNat ≤ 0xF4) (hb : IsTail b)
    (hlow : a.toNat = 0xF0 → 0x90 ≤ b.toNat) (hhigh : a.toNat = 0xF4 → b.toNat ≤ 0x8F)
    (hc : IsTail c) (hd : IsTail d) :
    String.utf8EncodeChar (Char.ofNat (number (leadBits 3 a.toNat) [b, c, d])) = [a, b, c, d] := by
  obtain ⟨hb, hb'⟩ := hb
  obtain ⟨hc, hc'⟩ := hc
  obtain ⟨hd, hd'⟩ := hd
  have hnumber : number (leadBits 3 a.toNat) [b, c, d] =
      64 * (64 * (64 * (a.toNat - 0xF0) + (b.toNat - 0x80)) + (c.toNat - 0x80)) +
        (d.toNat - 0x80) := rfl
  rw [hnumber]
  simp only [String.utf8EncodeChar,
    val_ofNat (n := 64 * (64 * (64 * (a.toNat - 0xF0) + (b.toNat - 0x80)) + (c.toNat - 0x80)) +
        (d.toNat - 0x80)) (by omega)]
  rw [if_neg (by omega), if_neg (by omega), if_neg (by omega),
    ← eq_ofNat_of_toNat (b := a) (by omega), ← eq_ofNat_of_toNat (b := b) (by omega),
    ← eq_ofNat_of_toNat (b := c) (by omega), ← eq_ofNat_of_toNat (b := d) (by omega)]

theorem isTail_ofNat {n : Nat} (h : 0x80 ≤ n ∧ n ≤ 0xBF) : IsTail (UInt8.ofNat n) := by
  rw [IsTail, toNat_ofNat_of_lt (by omega)]
  exact h

/-- Characters of three bytes: the second byte has a narrower range after the first and the last but
    two of the first bytes. -/
theorem isCharacter_three (ha : 0xE0 ≤ a.toNat ∧ a.toNat ≤ 0xEF) (hb : IsTail b)
    (hlow : a.toNat = 0xE0 → 0xA0 ≤ b.toNat) (hhigh : a.toNat = 0xED → b.toNat ≤ 0x9F)
    (hc : IsTail c) : IsCharacter [a, b, c] := by
  by_cases h0 : a.toNat = 0xE0
  · exact .threeE0 h0 (hlow h0) hb.2 hc
  · by_cases hD : a.toNat = 0xED
    · exact .threeED hD hb.1 (hhigh hD) hc
    · by_cases hE : a.toNat ≤ 0xEC
      · exact .threeE1 (by omega) hE hb hc
      · exact .threeEE (by omega) ha.2 hb hc

theorem isCharacter_four (ha : 0xF0 ≤ a.toNat ∧ a.toNat ≤ 0xF4) (hb : IsTail b)
    (hlow : a.toNat = 0xF0 → 0x90 ≤ b.toNat) (hhigh : a.toNat = 0xF4 → b.toNat ≤ 0x8F)
    (hc : IsTail c) (hd : IsTail d) : IsCharacter [a, b, c, d] := by
  by_cases h0 : a.toNat = 0xF0
  · exact .fourF0 h0 (hlow h0) hb.2 hc hd
  · by_cases h4 : a.toNat = 0xF4
    · exact .fourF4 h4 hb.1 (hhigh h4) hc hd
    · exact .fourF1 (by omega) (by omega) hb hc hd

/-- The bytes of a character are in the grammar. -/
theorem isCharacter_utf8EncodeChar (x : Char) : IsCharacter (String.utf8EncodeChar x) := by
  have hvalid : x.val.toNat < 0xD800 ∨ 0xDFFF < x.val.toNat ∧ x.val.toNat < 0x110000 := x.valid
  simp only [String.utf8EncodeChar]
  generalize x.val.toNat = n at hvalid
  split
  · exact .one (by rw [toNat_ofNat_of_lt (by omega)]; omega)
  · split
    · exact .two (by rw [toNat_ofNat_of_lt (by omega)]; omega)
        (by rw [toNat_ofNat_of_lt (by omega)]; omega) (isTail_ofNat (by omega))
    · split
      · have ha : (UInt8.ofNat (n / 4096 % 16 + 224)).toNat = n / 4096 % 16 + 224 :=
          toNat_ofNat_of_lt (by omega)
        have hb : (UInt8.ofNat (n / 64 % 64 + 128)).toNat = n / 64 % 64 + 128 :=
          toNat_ofNat_of_lt (by omega)
        exact isCharacter_three (by omega) (isTail_ofNat (by omega)) (by omega) (by omega)
          (isTail_ofNat (by omega))
      · have ha : (UInt8.ofNat (n / 262144 % 8 + 240)).toNat = n / 262144 % 8 + 240 :=
          toNat_ofNat_of_lt (by omega)
        have hb : (UInt8.ofNat (n / 4096 % 64 + 128)).toNat = n / 4096 % 64 + 128 :=
          toNat_ofNat_of_lt (by omega)
        exact isCharacter_four (by omega) (isTail_ofNat (by omega)) (by omega) (by omega)
          (isTail_ofNat (by omega)) (isTail_ofNat (by omega))

theorem utf8EncodeChar_injective {x y : Char}
    (h : String.utf8EncodeChar x = String.utf8EncodeChar y) : x = y := by
  have hlists : String.ofList [x] = String.ofList [y] := by
    rw [← String.toByteArray_inj, String.toByteArray_ofList, String.toByteArray_ofList,
      List.utf8Encode, List.utf8Encode, List.flatMap_singleton, List.flatMap_singleton, h]
  exact List.singleton_inj.1 (String.ofList_injective hlists)

/-! ## Reading one character -/

theorem tails_append {count : Nat} {more : List UInt8} (hcount : more.length = count)
    (hmore : ∀ b ∈ more, IsTail b) (rest : List UInt8) :
    tails count 0x80 0xBF (more ++ rest) = more := by
  induction more generalizing count with
  | nil =>
    subst hcount
    cases rest <;> rfl
  | cons b more ih =>
    subst hcount
    have hb : 0x80 ≤ b.toNat ∧ b.toNat ≤ 0xBF := hmore b List.mem_cons_self
    rw [List.cons_append, List.length_cons, tails, if_pos hb,
      ih rfl fun c hc => hmore c (List.mem_cons_of_mem b hc)]

/-- A first byte, a second one in its range and the tails that are asked for make a character. -/
theorem unit_of_row {count low high : Nat} {more : List UInt8}
    (hrow : row? a.toNat = some (count + 1, low, high)) (ha : 0x80 ≤ a.toNat)
    (hb : low ≤ b.toNat ∧ b.toNat ≤ high) (hcount : more.length = count)
    (hmore : ∀ c ∈ more, IsTail c) (rest : List UInt8) :
    unit a (b :: more ++ rest) =
      (some (Char.ofNat (number (leadBits (count + 1) a.toNat) (b :: more))), count + 1) := by
  have htails : tails (count + 1) low high (b :: more ++ rest) = b :: more := by
    rw [List.cons_append, tails, if_pos hb, tails_append hcount hmore rest]
  simp only [unit, if_neg (Nat.not_lt.2 ha), hrow, htails, List.length_cons, hcount, if_true]

/-- The bytes of a character are read as a character, whatever comes after them. -/
theorem exists_unit_of_isCharacter {w : List UInt8} (h : IsCharacter w) (rest : List UInt8) :
    ∃ first more x, w = first :: more ∧ unit first (more ++ rest) = (some x, more.length) ∧
      String.utf8EncodeChar x = w := by
  cases h with
  | @one a ha =>
    refine ⟨a, [], _, rfl, ?_, utf8EncodeChar_one ha⟩
    rw [unit, if_pos (by omega)]
    rfl
  | @two a b ha ha' hb =>
    have hrow : row? a.toNat = some (1, 0x80, 0xBF) := by rw [row?, if_pos ⟨ha, ha'⟩]
    exact ⟨a, [b], _, rfl, unit_of_row hrow (by omega) hb rfl (List.forall_mem_nil _) rest,
      utf8EncodeChar_two ⟨ha, ha'⟩ hb⟩
  | @threeE0 a b c ha hb hb' hc =>
    have hrow : row? a.toNat = some (2, 0xA0, 0xBF) := by
      rw [row?, if_neg (by omega), if_pos ha]
    exact ⟨a, [b, c], _, rfl, unit_of_row hrow (by omega) ⟨hb, hb'⟩ rfl (by simpa using hc) rest,
      utf8EncodeChar_three (by omega) ⟨by omega, hb'⟩ (fun _ => hb) (by omega) hc⟩
  | @threeE1 a b c ha ha' hb hc =>
    have hrow : row? a.toNat = some (2, 0x80, 0xBF) := by
      rw [row?, if_neg (by omega), if_neg (by omega), if_neg (by omega), if_pos (by omega)]
    exact ⟨a, [b, c], _, rfl, unit_of_row hrow (by omega) hb rfl (by simpa using hc) rest,
      utf8EncodeChar_three (by omega) hb (by omega) (by omega) hc⟩
  | @threeED a b c ha hb hb' hc =>
    have hrow : row? a.toNat = some (2, 0x80, 0x9F) := by
      rw [row?, if_neg (by omega), if_neg (by omega), if_pos ha]
    exact ⟨a, [b, c], _, rfl, unit_of_row hrow (by omega) ⟨hb, hb'⟩ rfl (by simpa using hc) rest,
      utf8EncodeChar_three (by omega) ⟨hb, by omega⟩ (by omega) (fun _ => hb') hc⟩
  | @threeEE a b c ha ha' hb hc =>
    have hrow : row? a.toNat = some (2, 0x80, 0xBF) := by
      rw [row?, if_neg (by omega), if_neg (by omega), if_neg (by omega), if_pos (by omega)]
    exact ⟨a, [b, c], _, rfl, unit_of_row hrow (by omega) hb rfl (by simpa using hc) rest,
      utf8EncodeChar_three (by omega) hb (by omega) (by omega) hc⟩
  | @fourF0 a b c d ha hb hb' hc hd =>
    have hrow : row? a.toNat = some (3, 0x90, 0xBF) := by
      rw [row?, if_neg (by omega), if_neg (by omega), if_neg (by omega), if_neg (by omega),
        if_pos ha]
    exact ⟨a, [b, c, d], _, rfl,
      unit_of_row hrow (by omega) ⟨hb, hb'⟩ rfl (by simpa using ⟨hc, hd⟩) rest,
      utf8EncodeChar_four (by omega) ⟨by omega, hb'⟩ (fun _ => hb) (by omega) hc hd⟩
  | @fourF1 a b c d ha ha' hb hc hd =>
    have hrow : row? a.toNat = some (3, 0x80, 0xBF) := by
      rw [row?, if_neg (by omega), if_neg (by omega), if_neg (by omega), if_neg (by omega),
        if_neg (by omega), if_neg (by omega), if_pos ⟨ha, ha'⟩]
    exact ⟨a, [b, c, d], _, rfl, unit_of_row hrow (by omega) hb rfl (by simpa using ⟨hc, hd⟩) rest,
      utf8EncodeChar_four (by omega) hb (by omega) (by omega) hc hd⟩
  | @fourF4 a b c d ha hb hb' hc hd =>
    have hrow : row? a.toNat = some (3, 0x80, 0x8F) := by
      rw [row?, if_neg (by omega), if_neg (by omega), if_neg (by omega), if_neg (by omega),
        if_neg (by omega), if_pos ha]
    exact ⟨a, [b, c, d], _, rfl,
      unit_of_row hrow (by omega) ⟨hb, hb'⟩ rfl (by simpa using ⟨hc, hd⟩) rest,
      utf8EncodeChar_four (by omega) ⟨hb, by omega⟩ (by omega) (fun _ => hb') hc hd⟩

theorem unit_utf8EncodeChar (x : Char) (rest : List UInt8) :
    ∃ first more, String.utf8EncodeChar x = first :: more ∧
      unit first (more ++ rest) = (some x, more.length) := by
  obtain ⟨first, more, y, hsplit, hunit, hy⟩ :=
    exists_unit_of_isCharacter (isCharacter_utf8EncodeChar x) rest
  rw [utf8EncodeChar_injective hy] at hunit
  exact ⟨first, more, hsplit, hunit⟩

/-- If all tails are there that are asked for, they stand at the start. -/
theorem exists_of_length_tails {count low high : Nat} {bytes : List UInt8}
    (h : (tails (count + 1) low high bytes).length = count + 1) :
    ∃ b more rest, bytes = b :: more ++ rest ∧ (low ≤ b.toNat ∧ b.toNat ≤ high) ∧
      more.length = count ∧ ∀ c ∈ more, IsTail c := by
  induction count generalizing low high bytes with
  | zero =>
    cases bytes with
    | nil => cases h
    | cons b rest =>
      rw [tails] at h
      split at h
      · next hb => exact ⟨b, [], rest, rfl, hb, rfl, List.forall_mem_nil _⟩
      · cases h
  | succ count ih =>
    cases bytes with
    | nil => cases h
    | cons b bytes =>
      rw [tails] at h
      split at h
      · next hb =>
        obtain ⟨c, more, rest, rfl, hc, rfl, hmore⟩ := ih (Nat.succ.inj h)
        exact ⟨b, c :: more, rest, rfl, hb, rfl, List.forall_mem_cons.2 ⟨hc, hmore⟩⟩
      · cases h

/-- The rows of first bytes. -/
theorem row?_cases {n count low high : Nat} (h : row? n = some (count, low, high)) :
    ((0xC2 ≤ n ∧ n ≤ 0xDF) ∧ count = 1 ∧ low = 0x80 ∧ high = 0xBF) ∨
    (n = 0xE0 ∧ count = 2 ∧ low = 0xA0 ∧ high = 0xBF) ∨
    (n = 0xED ∧ count = 2 ∧ low = 0x80 ∧ high = 0x9F) ∨
    ((0xE1 ≤ n ∧ n ≤ 0xEF ∧ n ≠ 0xED) ∧ count = 2 ∧ low = 0x80 ∧ high = 0xBF) ∨
    (n = 0xF0 ∧ count = 3 ∧ low = 0x90 ∧ high = 0xBF) ∨
    (n = 0xF4 ∧ count = 3 ∧ low = 0x80 ∧ high = 0x8F) ∨
    ((0xF1 ≤ n ∧ n ≤ 0xF3) ∧ count = 3 ∧ low = 0x80 ∧ high = 0xBF) := by
  unfold row? at h
  split_ifs at h <;> cases h <;> omega

/-- A first byte with the tails that its row asks for is a character. -/
theorem isCharacter_of_row {count low high : Nat} {more : List UInt8}
    (hrow : row? a.toNat = some (count + 1, low, high)) (hlength : more.length = count)
    (hb : low ≤ b.toNat ∧ b.toNat ≤ high) (hmore : ∀ c ∈ more, IsTail c) :
    IsCharacter (a :: b :: more) := by
  rcases row?_cases hrow with ⟨ha, hcount, rfl, rfl⟩ | ⟨ha, hcount, rfl, rfl⟩ |
    ⟨ha, hcount, rfl, rfl⟩ | ⟨ha, hcount, rfl, rfl⟩ | ⟨ha, hcount, rfl, rfl⟩ |
    ⟨ha, hcount, rfl, rfl⟩ | ⟨ha, hcount, rfl, rfl⟩
  · obtain rfl := List.length_eq_zero_iff.1 (hlength.trans (Nat.succ.inj hcount))
    exact .two ha.1 ha.2 hb
  · obtain ⟨c, rfl⟩ := List.length_eq_one_iff.1 (hlength.trans (Nat.succ.inj hcount))
    exact .threeE0 ha hb.1 hb.2 (hmore c List.mem_cons_self)
  · obtain ⟨c, rfl⟩ := List.length_eq_one_iff.1 (hlength.trans (Nat.succ.inj hcount))
    exact .threeED ha hb.1 hb.2 (hmore c List.mem_cons_self)
  · obtain ⟨c, rfl⟩ := List.length_eq_one_iff.1 (hlength.trans (Nat.succ.inj hcount))
    exact isCharacter_three (by omega) hb (by omega) (by omega) (hmore c List.mem_cons_self)
  · obtain ⟨c, d, rfl⟩ := List.length_eq_two.1 (hlength.trans (Nat.succ.inj hcount))
    exact .fourF0 ha hb.1 hb.2 (hmore c (by simp)) (hmore d (by simp))
  · obtain ⟨c, d, rfl⟩ := List.length_eq_two.1 (hlength.trans (Nat.succ.inj hcount))
    exact .fourF4 ha hb.1 hb.2 (hmore c (by simp)) (hmore d (by simp))
  · obtain ⟨c, d, rfl⟩ := List.length_eq_two.1 (hlength.trans (Nat.succ.inj hcount))
    exact .fourF1 ha.1 ha.2 hb (hmore c (by simp)) (hmore d (by simp))

theorem isCharacter_of_unit {bytes : List UInt8} {x : Char} {n : Nat}
    (h : unit a bytes = (some x, n)) :
    ∃ more rest, bytes = more ++ rest ∧ more.length = n ∧ IsCharacter (a :: more) := by
  unfold unit at h
  split at h
  · next ha =>
    cases h
    exact ⟨[], bytes, rfl, rfl, .one (Nat.le_of_lt_succ ha)⟩
  · split at h
    · cases h
    · next count low high hrow =>
      simp only at h
      split at h
      · next hlength =>
        cases h
        obtain ⟨m, rfl⟩ : ∃ m, n = m + 1 := ⟨n - 1, by have := row?_cases hrow; omega⟩
        obtain ⟨b, more, rest, hbytes, hb, hm, hmore⟩ := exists_of_length_tails hlength
        exact ⟨b :: more, rest, hbytes, congrArg (· + 1) hm, isCharacter_of_row hrow hm hb hmore⟩
      · cases h

/-- What is read as a character is the bytes of that character. -/
theorem exists_of_unit {bytes : List UInt8} {x : Char} {n : Nat}
    (h : unit a bytes = (some x, n)) :
    ∃ more rest, bytes = more ++ rest ∧ more.length = n ∧
      String.utf8EncodeChar x = a :: more := by
  obtain ⟨more, rest, rfl, rfl, hcharacter⟩ := isCharacter_of_unit h
  obtain ⟨first, tail, y, hsplit, hunit, hy⟩ := exists_unit_of_isCharacter hcharacter rest
  cases hsplit
  cases h.symm.trans hunit
  exact ⟨more, rest, rfl, rfl, hy⟩

/-! ## Reading a text -/

theorem decode?_cons (bytes : List UInt8) :
    decode? (a :: bytes) = (unit a bytes).1.bind fun x =>
      (decode? (bytes.drop (unit a bytes).2)).map (x :: ·) := by
  rw [decode?, units, List.mapM_cons]
  cases (unit a bytes).1 with
  | none => rfl
  | some x =>
    show (((units (bytes.drop (unit a bytes).2)).mapM id).bind fun xs => some (x :: xs)) = _
    rw [Option.bind_some, decode?]
    cases (units (bytes.drop (unit a bytes).2)).mapM id <;> rfl

theorem decode?_utf8EncodeChar_append (x : Char) (rest : List UInt8) :
    decode? (String.utf8EncodeChar x ++ rest) = (decode? rest).map (x :: ·) := by
  obtain ⟨first, more, hsplit, hunit⟩ := unit_utf8EncodeChar x rest
  rw [hsplit, List.cons_append, decode?_cons, hunit]
  simp only [Option.bind_some, List.drop_left]

/-- Bytes are decoded to a text exactly if they are the bytes of its characters. -/
theorem decode?_eq_some_iff {bytes : List UInt8} {cs : List Char} :
    decode? bytes = some cs ↔ bytes = cs.flatMap String.utf8EncodeChar := by
  constructor
  · intro h
    induction cs generalizing bytes with
    | nil =>
      cases bytes with
      | nil => rfl
      | cons a bytes =>
        rw [decode?_cons] at h
        obtain ⟨x, -, hlater⟩ := Option.bind_eq_some_iff.1 h
        obtain ⟨xs, -, hxs⟩ := Option.map_eq_some_iff.1 hlater
        cases hxs
    | cons x cs ih =>
      cases bytes with
      | nil =>
        have hnil : decode? [] = some [] := by rw [decode?, units]; rfl
        cases hnil.symm.trans h
      | cons a bytes =>
        rw [decode?_cons] at h
        obtain ⟨y, hy, hlater⟩ := Option.bind_eq_some_iff.1 h
        obtain ⟨ys, hys, hcons⟩ := Option.map_eq_some_iff.1 hlater
        obtain ⟨rfl, rfl⟩ := List.cons.inj hcons
        have hunit : unit a bytes = (some y, (unit a bytes).2) := Prod.ext hy rfl
        obtain ⟨more, rest, hbytes, hlength, hencode⟩ := exists_of_unit hunit
        rw [← hlength, hbytes, List.drop_left] at hys
        rw [List.flatMap_cons, hencode, ← ih hys, hbytes]
        rfl
  · rintro rfl
    induction cs with
    | nil => rw [List.flatMap_nil, decode?, units]; rfl
    | cons x cs ih => rw [List.flatMap_cons, decode?_utf8EncodeChar_append, ih]; rfl

/-- The byte strings of the grammar are the bytes of texts. -/
theorem wellFormed_iff {bytes : List UInt8} :
    WellFormed bytes ↔ ∃ cs : List Char, bytes = cs.flatMap String.utf8EncodeChar := by
  constructor
  · intro h
    induction h with
    | nil => exact ⟨[], rfl⟩
    | append hfirst _ ih =>
      obtain ⟨cs, rfl⟩ := ih
      obtain ⟨_, _, x, -, -, rfl⟩ := exists_unit_of_isCharacter hfirst []
      exact ⟨x :: cs, rfl⟩
  · rintro ⟨cs, rfl⟩
    induction cs with
    | nil => exact .nil
    | cons x cs ih => exact .append (isCharacter_utf8EncodeChar x) ih

theorem exists_decode?_of_wellFormed {bytes : List UInt8} (h : WellFormed bytes) :
    ∃ cs, decode? bytes = some cs := by
  obtain ⟨cs, hcs⟩ := wellFormed_iff.1 h
  exact ⟨cs, decode?_eq_some_iff.2 hcs⟩

theorem decode?_eq_none_of_not_wellFormed {bytes : List UInt8} (h : ¬ WellFormed bytes) :
    decode? bytes = none := by
  refine Option.eq_none_iff_forall_ne_some.2 fun cs hcs => h ?_
  exact wellFormed_iff.2 ⟨cs, decode?_eq_some_iff.1 hcs⟩

/-- Decoding agrees with the bytes that a string holds. -/
theorem decode?_eq_some_toList_iff {bytes : List UInt8} {s : String} :
    decode? bytes = some s.toList ↔ bytes.toByteArray = s.toUTF8 := by
  rw [decode?_eq_some_iff, String.toUTF8_eq_toByteArray, ← String.utf8Encode_toList,
    List.utf8Encode, List.toByteArray_inj]

end PhpOutline.Text.Utf8
