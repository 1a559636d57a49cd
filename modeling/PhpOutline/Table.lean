/-!
# Tables

A table from names to values that keeps the order in which names were first entered. Entering a
name again replaces its value and leaves its place.

Results:
* `lookup_put_self`, `lookup_put_of_ne`: what a table holds after an entry.
* `keys_put`: the names after an entry.
-/

namespace PhpOutline

/-- A table in the order of first entry. -/
abbrev Table (α : Type) := List (String × α)

namespace Table

variable {α : Type}

/-- The table with a value entered under a name. -/
def put (name : String) (value : α) : Table α → Table α
  | [] => [(name, value)]
  | (key, old) :: later =>
    if key = name then (key, value) :: later else (key, old) :: put name value later

/-- The names of a table, in order. -/
def keys (t : Table α) : List String := t.map Prod.fst

/-- The values of a table, in order. -/
def values (t : Table α) : List α := t.map Prod.snd

@[simp] theorem lookup_put_self (name : String) (value : α) (t : Table α) :
    (put name value t).lookup name = some value := by
  induction t with
  | nil => simp [put]
  | cons entry later ih =>
    obtain ⟨key, old⟩ := entry
    by_cases h : key = name
    · simp [put, h]
    · have h' : (name == key) = false := by simpa using fun e => h e.symm
      simp [put, h, List.lookup_cons, h', ih]

theorem lookup_put_of_ne {name other : String} (hne : other ≠ name) (value : α) (t : Table α) :
    (put name value t).lookup other = t.lookup other := by
  induction t with
  | nil =>
    have h : (other == name) = false := by simpa using hne
    simp [put, List.lookup_cons, h]
  | cons entry later ih =>
    obtain ⟨key, old⟩ := entry
    by_cases h : key = name
    · have h' : (other == key) = false := by rw [h]; simpa using hne
      rw [put, if_pos h]
      simp [List.lookup_cons, h']
    · rw [put, if_neg h]
      simp only [List.lookup_cons, ih]

/-- A name that is entered again keeps its place, and a new name comes last. -/
theorem keys_put (name : String) (value : α) (t : Table α) :
    keys (put name value t) = if name ∈ keys t then keys t else keys t ++ [name] := by
  induction t with
  | nil => simp [put, keys]
  | cons entry later ih =>
    obtain ⟨key, old⟩ := entry
    by_cases h : key = name
    · simp [put, h, keys]
    · have h' : ¬ name = key := fun e => h e.symm
      rw [put, if_neg h]
      simp only [keys, List.map_cons, List.mem_cons, h', false_or] at ih ⊢
      rw [ih]
      by_cases hmem : name ∈ List.map Prod.fst later <;> simp [hmem]

end Table

end PhpOutline
