/-!
# Blanks

The white-space characters of text, and trimming. A blank is a character that Unicode lists as
a separator or as a control that moves the writing position, so the set is wider than ASCII's.

Results:
* `trim_eq_self`: text that neither starts nor ends with a blank is left as it is.
-/

namespace PhpOutline.Text

/-- A blank: tab to carriage return, the four information separators, and the spaces and line
    separators of Unicode. -/
def isBlank (c : Char) : Bool :=
  let n := c.toNat
  (9 ≤ n && n ≤ 13) || (28 ≤ n && n ≤ 32) || n == 0x85 || n == 0xA0 || n == 0x1680 ||
    (0x2000 ≤ n && n ≤ 0x200A) || n == 0x2028 || n == 0x2029 || n == 0x202F || n == 0x205F ||
    n == 0x3000

/-- A space or a tab. -/
def isSpaceOrTab (c : Char) : Bool := c == ' ' || c == '\t'

/-- The text without its leading blanks. -/
def trimStart (cs : List Char) : List Char := cs.dropWhile isBlank

/-- The text without its trailing blanks. -/
def trimEnd (cs : List Char) : List Char := (cs.reverse.dropWhile isBlank).reverse

/-- The text without the blanks at either end. -/
def trim (cs : List Char) : List Char := trimEnd (trimStart cs)

/-- A string without the blanks at either end. -/
def trimmed (s : String) : String := String.ofList (trim s.toList)

@[simp] theorem trim_nil : trim [] = [] := rfl

theorem trimStart_cons_of_not_blank {c : Char} {cs : List Char} (h : isBlank c = false) :
    trimStart (c :: cs) = c :: cs := by simp [trimStart, h]

theorem trimEnd_concat_of_not_blank {c : Char} {cs : List Char} (h : isBlank c = false) :
    trimEnd (cs ++ [c]) = cs ++ [c] := by simp [trimEnd, h]

/-- Text that starts and ends with characters that are not blank is left as it is. -/
theorem trim_eq_self {cs : List Char} (hhead : ∀ c, cs.head? = some c → isBlank c = false)
    (hlast : ∀ c, cs.getLast? = some c → isBlank c = false) : trim cs = cs := by
  cases cs with
  | nil => rfl
  | cons c r =>
    rw [trim, trimStart_cons_of_not_blank (hhead c rfl)]
    obtain ⟨front, last, hsplit⟩ : ∃ front last, c :: r = front ++ [last] :=
      ⟨(c :: r).dropLast, (c :: r).getLast (by simp), by simp [List.dropLast_concat_getLast]⟩
    rw [hsplit, trimEnd_concat_of_not_blank (hlast last (by simp [hsplit]))]

end PhpOutline.Text
