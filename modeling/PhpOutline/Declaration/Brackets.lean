import PhpOutline.Declaration.Reading

/-!
# Brackets

Punctuation opens and closes brackets of three shapes, and bracket depth does not tell the shapes
apart. Passing over a bracketed part and collecting tokens up to a stop at depth zero are the two
ways in which declarations are delimited.

Results:
* `skipBalanced_length`, `collect_length`: neither goes back.
-/

namespace PhpOutline

/-- A text occurs in another one as a whole. -/
def occursIn (part : List Char) : List Char → Bool
  | [] => part.isEmpty
  | c :: r => part.isPrefixOf (c :: r) || occursIn part r

namespace Token

/-- Punctuation that opens brackets: a contiguous part of the row of opening brackets. -/
def isOpener (t : Token) : Bool := t.kind.isNone && occursIn t.content.toList ['(', '[', '{']

/-- Punctuation that closes brackets: a contiguous part of the row of closing brackets. The empty
    part counts as opening. -/
def isCloser (t : Token) : Bool :=
  !t.isOpener && (t.kind.isNone && occursIn t.content.toList [')', ']', '}'])

end Token

namespace Reading

/-- The tokens after the closing bracket that brings the depth back to zero. -/
def afterBalanced? (depth : Int) : List Token → Option (List Token)
  | [] => none
  | t :: rest =>
    if t.isOpener then afterBalanced? (depth + 1) rest
    else if t.isCloser then
      if depth = 1 then some rest else afterBalanced? (depth - 1) rest
    else afterBalanced? depth rest

/-- Passes over a bracketed part (`_skip_balanced`). The line is blamed if the brackets never
    close. -/
def skipBalanced (line : Int) (ts : List Token) : Except Failure (List Token) :=
  match afterBalanced? 0 ts with
  | some rest => .ok rest
  | none => fail .unbalanced line []

/-- The tokens up to one that ends the part, and the tokens from that one on. The part ends at a
    closing tag, and at depth zero at punctuation in `stops` or at a closing bracket. -/
def collectFrom (stops : List String) (depth : Nat) : List Token → List Token × List Token
  | [] => ([], [])
  | t :: rest =>
    if t.isKind .closeTag then ([], t :: rest)
    else if depth = 0 ∧ t.kind.isNone ∧ stops.contains t.content then ([], t :: rest)
    else if t.isOpener then
      let (collected, after) := collectFrom stops (depth + 1) rest
      (t :: collected, after)
    else if t.isCloser then
      if depth = 0 then ([], t :: rest)
      else
        let (collected, after) := collectFrom stops (depth - 1) rest
        (t :: collected, after)
    else
      let (collected, after) := collectFrom stops depth rest
      (t :: collected, after)

/-- The tokens up to one that ends the part at bracket depth zero (`_collect_until`). -/
def collect (stops : List String) (ts : List Token) : List Token × List Token :=
  collectFrom stops 0 ts

theorem afterBalanced?_length {depth : Int} {ts rest : List Token}
    (h : afterBalanced? depth ts = some rest) : rest.length < ts.length := by
  induction ts generalizing depth with
  | nil => simp [afterBalanced?] at h
  | cons t r ih =>
    rw [afterBalanced?] at h
    split at h
    · exact Nat.lt_succ_of_lt (ih h)
    · split at h
      · split at h
        · obtain rfl := by simpa using h
          simp
        · exact Nat.lt_succ_of_lt (ih h)
      · exact Nat.lt_succ_of_lt (ih h)

theorem skipBalanced_length {line : Int} {ts rest : List Token}
    (h : skipBalanced line ts = .ok rest) : rest.length < ts.length := by
  unfold skipBalanced at h
  split at h
  · rename_i r hr
    obtain rfl := by simpa using h
    exact afterBalanced?_length hr
  · simp [fail] at h

/-- What is collected and what is left make up the tokens. -/
theorem collectFrom_append (stops : List String) (depth : Nat) (ts : List Token) :
    (collectFrom stops depth ts).1 ++ (collectFrom stops depth ts).2 = ts := by
  induction ts generalizing depth with
  | nil => rfl
  | cons t r ih =>
    rw [collectFrom]
    split
    · rfl
    · split
      · rfl
      · split
        · simp [ih]
        · split
          · split
            · rfl
            · simp [ih]
          · simp [ih]

theorem collect_length (stops : List String) (ts : List Token) :
    (collect stops ts).2.length ≤ ts.length := by
  have h := congrArg List.length (collectFrom_append stops 0 ts)
  rw [List.length_append] at h
  unfold collect
  omega

end Reading

end PhpOutline
