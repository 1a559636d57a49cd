/-!
# Lines

Two readings of "line". A source line ends at a line feed and nothing else: `newlines` counts the
line feeds and `splitAtNewlines` cuts at them. The lines of a comment or of a program's output end
at any line separator of Unicode, a carriage return with its line feed counting once: `lines`.

Results:
* `newlines_append`: counting is additive.
-/

namespace PhpOutline.Text

/-- The number of line feeds. -/
def newlines (cs : List Char) : Nat := cs.count '\n'

@[simp] theorem newlines_nil : newlines [] = 0 := rfl

@[simp] theorem newlines_append (a b : List Char) : newlines (a ++ b) = newlines a + newlines b :=
  List.count_append

/-- The pieces between the occurrences of a separating character; there is always at least one. -/
def splitOnChar (sep : Char) : List Char → List (List Char)
  | [] => [[]]
  | c :: r =>
    if c = sep then [] :: splitOnChar sep r
    else
      match splitOnChar sep r with
      | [] => [[c]]
      | piece :: pieces => (c :: piece) :: pieces

/-- The pieces between line feeds. -/
def splitAtNewlines (cs : List Char) : List (List Char) := splitOnChar '\n' cs

/-- A text without the line feed at its end, if there is one. -/
def chomped (cs : List Char) : List Char :=
  if cs.getLast? = some '\n' then cs.dropLast else cs

/-- A character that ends a line: line feed, vertical tab, form feed, carriage return, the file,
    group and record separators, next line, line separator and paragraph separator. -/
def isLineEnd (c : Char) : Bool :=
  let n := c.toNat
  (10 ≤ n && n ≤ 13) || (28 ≤ n && n ≤ 30) || n == 0x85 || n == 0x2028 || n == 0x2029

/-- The lines of a text without their ends. A text that ends with a line end has no empty last
    line, and the empty text has no lines. -/
def lines : List Char → List (List Char)
  | [] => []
  | c :: r =>
    if c = '\r' ∧ r.head? = some '\n' then lines r
    else if isLineEnd c then [] :: lines r
    else
      match lines r with
      | [] => [[c]]
      | line :: later => (c :: line) :: later

end PhpOutline.Text
