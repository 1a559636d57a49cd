import PhpOutline.Token

/-!
# Cursor

A place in a list of tokens: the tokens before it, nearest first, and the tokens from it on. A
cursor moves forward only, and looking ahead or behind does not move it.

Results:
* `toList_advance`, `toList_goto`: moving never changes the list of tokens.
* `position_le_size`: the place lies within the list.
* `position_advance`: advancing moves by one, except at the end.
-/

namespace PhpOutline

/-- A place in a list of tokens (`TokenStream`). -/
structure Cursor where
  passed : List Token
  rest : List Token
  deriving DecidableEq, Repr

namespace Cursor

/-- The start of a list of tokens. -/
def ofList (tokens : List Token) : Cursor := ⟨[], tokens⟩

/-- All tokens, in order. -/
def toList (c : Cursor) : List Token := c.passed.reverse ++ c.rest

/-- The number of tokens. -/
def size (c : Cursor) : Nat := c.passed.length + c.rest.length

/-- The number of tokens before the cursor. -/
def position (c : Cursor) : Nat := c.passed.length

/-- The cursor is past the last token. -/
def atEnd (c : Cursor) : Bool := c.rest.isEmpty

/-- The token under the cursor. -/
def current (c : Cursor) : Option Token := c.rest.head?

/-- The cursor one token further on, or as it is at the end (`advance`). -/
def advance (c : Cursor) : Cursor :=
  match c.rest with
  | [] => c
  | t :: r => ⟨t :: c.passed, r⟩

/-- The cursor moved on by `n` tokens, or to the end if there are fewer. -/
def skip : Nat → Cursor → Cursor
  | 0, c => c
  | n + 1, c => skip n c.advance

/-- The token `offset` places from the cursor (`peek`); a negative offset looks behind. -/
def peek (c : Cursor) : (offset : Int) → Option Token
  | .ofNat n => c.rest[n]?
  | .negSucc n => c.passed[n]?

/-- The first of the `limit` tokens after the cursor that has the kind, unless a token of a kind in
    `stops` comes before it (`find_next_by_type`). -/
def find (c : Cursor) (kind : Kind) (limit : Int) (stops : List Kind) : Option Token :=
  match (c.rest.tail.take limit.toNat).find? fun t =>
      t.isKind kind || t.kind.any stops.contains with
  | some t => if t.isKind kind then some t else none
  | none => none

/-- Advances until a token of the kind is reached, at most `limit` times. Ends without success at a
    token whose content is in `stops` and at the end. -/
def gotoWithin (c : Cursor) (kind : Kind) (stops : List String) : Nat → Option Token × Cursor
  | 0 => (none, c)
  | limit + 1 =>
    let c := c.advance
    match c.current with
    | none => (none, c)
    | some t =>
      if t.isKind kind then (some t, c)
      else if stops.contains t.content then (none, c)
      else gotoWithin c kind stops limit

/-- Advances until a token of the kind is reached, at most `limit` times (`goto_next_by_type`); the
    cursor stays on the last token examined. -/
def goto (c : Cursor) (kind : Kind) (limit : Int) (stops : List String) : Option Token × Cursor :=
  c.gotoWithin kind stops limit.toNat

/-- The cursor at the place where the given tokens are left. -/
def moveTo (c : Cursor) (rest : List Token) : Cursor := c.skip (c.rest.length - rest.length)

/-! ## Moving -/

@[simp] theorem toList_ofList (tokens : List Token) : (ofList tokens).toList = tokens := rfl

@[simp] theorem toList_advance (c : Cursor) : c.advance.toList = c.toList := by
  unfold advance
  split
  · rfl
  · rename_i t r h; simp [toList, h]

theorem length_toList (c : Cursor) : c.toList.length = c.size := by simp [toList, size]

theorem position_le_size (c : Cursor) : c.position ≤ c.size := by simp [position, size]

theorem position_advance (c : Cursor) : c.advance.position = min (c.position + 1) c.size := by
  unfold advance
  split
  · rename_i h; simp [position, size, h]
  · rename_i t r h; simp [position, size, h]

theorem rest_advance (c : Cursor) : c.advance.rest = c.rest.tail := by
  unfold advance
  split
  · rename_i h; simp [h]
  · rename_i t r h; simp [h]

theorem rest_skip (n : Nat) (c : Cursor) : (c.skip n).rest = c.rest.drop n := by
  induction n generalizing c with
  | zero => rfl
  | succ n ih => rw [skip, ih, rest_advance, List.drop_tail]

theorem toList_gotoWithin (kind : Kind) (stops : List String) (limit : Nat) (c : Cursor) :
    (c.gotoWithin kind stops limit).2.toList = c.toList := by
  induction limit generalizing c with
  | zero => rfl
  | succ n ih =>
    simp only [gotoWithin]
    split
    · simp
    · split
      · simp
      · split
        · simp
        · rw [ih, toList_advance]

theorem length_rest_moveTo {c : Cursor} {rest : List Token} (h : rest.length ≤ c.rest.length) :
    (c.moveTo rest).rest.length = rest.length := by
  rw [moveTo, rest_skip, List.length_drop]
  omega

@[simp] theorem toList_goto (c : Cursor) (kind : Kind) (limit : Int) (stops : List String) :
    (c.goto kind limit stops).2.toList = c.toList := toList_gotoWithin ..

end Cursor

end PhpOutline
