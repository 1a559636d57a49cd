import PhpOutline.Text.Blank
import PhpOutline.Text.Lines

/-!
# Markers

Notes in line comments such as `// TODO: text`. They are found in the raw lines of a source, also
outside of code. A marker starts at two slashes, blanks and a term; its text runs from there to the
next marker on the line or to the end of the line.

Results:
* `occurrence?_length`: an occurrence takes at least two characters.
-/

namespace PhpOutline

open PhpOutline.Text

/-- A note in a line comment. -/
structure Marker where
  term : String
  content : String
  line : Int
  deriving DecidableEq, Repr

namespace Marker

/-- The first of the terms that a text starts with. -/
def term? (terms : List String) (cs : List Char) : Option String :=
  terms.find? fun term => term.toList.isPrefixOf cs

/-- The term after at most `blanks` characters of a text, as late as possible, and the text after
    the term. -/
def termAfter? (terms : List String) (cs : List Char) : (blanks : Nat) → Option (String × List Char)
  | 0 => (term? terms cs).map fun term => (term, cs.drop term.length)
  | n + 1 =>
    match term? terms (cs.drop (n + 1)) with
    | some term => some (term, (cs.drop (n + 1)).drop term.length)
    | none => termAfter? terms cs n

/-- The marker that starts a text: its term and the text after the term. -/
def occurrence? (terms : List String) : List Char → Option (String × List Char)
  | '/' :: '/' :: r => termAfter? terms r (r.takeWhile isBlank).length
  | _ => none

theorem termAfter?_length {terms : List String} {cs after : List Char} {n : Nat} {term : String}
    (h : termAfter? terms cs n = some (term, after)) : after.length ≤ cs.length := by
  induction n with
  | zero =>
    obtain ⟨t, _, heq⟩ := Option.map_eq_some_iff.1 h
    obtain ⟨_, rfl⟩ := by simpa using heq
    simp
  | succ n ih =>
    rw [termAfter?] at h
    split at h
    · obtain ⟨_, rfl⟩ := by simpa using h
      simp
    · exact ih h

theorem occurrence?_length {terms : List String} {cs after : List Char} {term : String}
    (h : occurrence? terms cs = some (term, after)) : after.length + 2 ≤ cs.length := by
  unfold occurrence? at h
  split at h
  · have := termAfter?_length h
    simp; omega
  · simp at h

/-- The text of a marker starts after an optional colon and blanks. -/
def textStart (cs : List Char) : List Char :=
  match cs with
  | ':' :: r => trimStart r
  | _ => trimStart cs

theorem textStart_length (cs : List Char) : (textStart cs).length ≤ cs.length := by
  unfold textStart
  split
  · exact Nat.le_succ_of_le (List.dropWhile_sublist _).length_le
  · exact (List.dropWhile_sublist _).length_le

/-- The text before the next marker. -/
def beforeNext (terms : List String) : List Char → List Char
  | [] => []
  | c :: r => if (occurrence? terms (c :: r)).isSome then [] else c :: beforeNext terms r

/-- The markers of a line: their terms and their texts. -/
def inLine (terms : List String) (cs : List Char) : List (String × String) :=
  match cs with
  | [] => []
  | c :: r =>
    match h : occurrence? terms (c :: r) with
    | none => inLine terms r
    | some (term, after) =>
      let text := beforeNext terms (textStart after)
      have : ((textStart after).drop text.length).length < (c :: r).length := by
        have h1 := occurrence?_length h
        have h2 := textStart_length after
        simp at h1 ⊢; omega
      (term, String.ofList (trim text)) :: inLine terms ((textStart after).drop text.length)
termination_by cs.length
decreasing_by
  · simp
  · assumption

/-- The markers of numbered lines. -/
def inLines (terms : List String) : (first : Int) → List (List Char) → List Marker
  | _, [] => []
  | n, line :: later =>
    ((inLine terms line).map fun (term, content) => ⟨term, content, n⟩) ++
      inLines terms (n + 1) later

/-- The markers of a source text, from the first line on and from left to right
    (`_scan_markers`). -/
def scan (terms : List String) (contents : String) : List Marker :=
  inLines terms 1 (splitAtNewlines contents.toList)

end Marker

end PhpOutline
