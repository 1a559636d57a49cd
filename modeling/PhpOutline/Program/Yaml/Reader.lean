import PhpOutline.Program.Yaml.Composer
import PhpOutline.Settings

/-!
# From graphs to values

The parts of a document get their values in rounds: first the outermost part, then the parts that it
holds, then the parts of these, and so on. Each part gets its value once, also if it is used more
than once. So of several faults the outermost one counts, and of those in one round the first.

A mapping is completed before its parts are read: the values of its keys `<<` are put before its own
entries, which replace them.

`Value.read` reads a text with at most one document, down to a given depth.
-/

namespace PhpOutline.Yaml

/-- A mapping with a value for a key. -/
def putEntry {α : Type} (entries : List (Scalar × α)) (key : Scalar) (value : α) :
    List (Scalar × α) :=
  match entries with
  | [] => [(key, value)]
  | (k, v) :: rest =>
    if k.same key then (k, value) :: rest else (k, v) :: putEntry rest key value

/-- The mapping of a list of keys and values. -/
def ofPairs {α : Type} (pairs : List (Scalar × α)) : List (Scalar × α) :=
  pairs.foldl (fun entries (key, value) => putEntry entries key value) []

/-- What is known of a part: a scalar, or what it holds once its round has come. -/
inductive Known where
  | scalar (value : Scalar)
  | list (items : List Nat)
  | pairs (items : List (Nat × Nat))
  | mapping (entries : List (Scalar × Nat))
  | set (items : List Scalar)

/-- The state of reading: the parts, what is known of each, and the parts of the next round. -/
structure Building where
  nodes : Array Node
  known : Array (Option Known)
  pending : List Nat := []

/-- Reading can fail. -/
abbrev Build := StateT Building (Except Fault)

namespace Build

/-- A part cannot be what the document asks it to be. -/
def fail {α : Type} : Build α := throw .malformed

/-- The part of a number. -/
def nodeAt (number : Nat) : Build Node := do
  match (← get).nodes[number]? with
  | none => fail
  | some node => return node

/-- Says what is known of a part. -/
def learn (number : Nat) (known : Known) : Build Unit :=
  modify fun s => { s with known := s.known.setIfInBounds number (some known) }

/-! ## Texts -/

/-- The text of a part. A mapping with the key `=` stands for the text of that key's value. -/
def textOf (number : Nat) : Nat → Build String
  | 0 => fail
  | fuel + 1 => do
    match (← nodeAt number).content with
    | .scalar text => return text
    | .list _ => fail
    | .mapping entries => do
      match ← entries.findM? fun entry => return (← nodeAt entry.1).kind? == some .equals with
      | none => fail
      | some (_, value) => textOf value fuel

/-- The scalar of a part. A mapping does not stand for a time. -/
def scalarOf (number : Nat) (kind : Kind) (read : String → Except Fault Scalar) : Build Scalar := do
  let text ← textOf number ((← get).nodes.size + 1)
  if kind = .time ∧ !((← nodeAt number).content matches .scalar _) then throw .timeInMapping
  else read text

/-! ## Rounds -/

/-- Meets a part: reads it if it is a scalar, and else leaves it to the next round. -/
def meet (number : Nat) : Build Known := do
  match ((← get).known[number]?).join with
  | some known => return known
  | none =>
    let later := fun (known : Known) => do
      modify fun s => { s with pending := s.pending ++ [number] }
      learn number known
      return known
    match (← nodeAt number).kind? with
    | none => fail
    | some .list => later (.list [])
    | some .pairs => later (.pairs [])
    | some .mapping => later (.mapping [])
    | some .set => later (.set [])
    | some kind =>
      match kind.reader? with
      | none => fail
      | some read => do
        let known := Known.scalar (← scalarOf number kind read)
        learn number known
        return known

/-- Meets a key: only a scalar can be one. -/
def meetKey (number : Nat) : Build Scalar := do
  match ← meet number with
  | .scalar value => return value
  | _ => fail

/-! ## Merging -/

/-- The entries of a mapping. -/
def entriesOf (number : Nat) : Build (List (Nat × Nat)) := do
  match (← nodeAt number).content with
  | .mapping entries => return entries
  | _ => fail

/-- Gives a mapping other entries. -/
def setEntries (number : Nat) (entries : List (Nat × Nat)) : Build Unit :=
  modify fun s => { s with
    nodes := s.nodes.modify number fun node => { node with content := .mapping entries } }

/-- Makes a part a text. -/
def makeText (number : Nat) : Build Unit :=
  modify fun s => { s with
    nodes := s.nodes.modify number fun node => { node with kind? := some .text } }

/-- Completes a mapping from its entry `index` on. The keys `<<` are taken out, and what their
    values hold is put before the other entries: of a mapping its entries, of a list of mappings
    those of the last one first. Each of these mappings is completed before. The key `=` becomes a
    text. -/
def complete (number index : Nat) (merged : List (Nat × Nat)) : Nat → Build Unit
  | 0 => fail
  | fuel + 1 => do
    let entries ← entriesOf number
    match entries[index]? with
    | none => unless merged.isEmpty do setEntries number (merged ++ entries)
    | some (key, value) =>
      match (← nodeAt key).kind? with
      | some .merge => do
        setEntries number (entries.eraseIdx index)
        match (← nodeAt value).content with
        | .scalar _ => fail
        | .mapping _ => do
          complete value 0 [] fuel
          complete number index (merged ++ (← entriesOf value)) fuel
        | .list items => do
          let found ← items.mapM fun item => do
            complete item 0 [] fuel
            entriesOf item
          complete number index (merged ++ found.reverse.flatten) fuel
      | some .equals => do
        makeText key
        complete number (index + 1) merged fuel
      | _ => complete number (index + 1) merged fuel

/-- The entries of a complete mapping, with their keys read. -/
def completeEntries (number : Nat) : Build (List (Scalar × Nat)) := do
  let size := (← get).nodes.size + 1
  complete number 0 [] (size * size)
  (← entriesOf number).mapM fun (key, value) => do
    let key ← meetKey key
    let _ ← meet value
    return (key, value)

/-! ## Parts that hold others -/

/-- The items of a list. -/
def itemsOf (number : Nat) : Build (List Nat) := do
  match (← nodeAt number).content with
  | .list items => return items
  | _ => fail

/-- The only entry of a mapping. -/
def onlyEntry (number : Nat) : Build (Nat × Nat) := do
  match ← entriesOf number with
  | [entry] => return entry
  | _ => fail

/-- Reads what a part holds. -/
def fill (number : Nat) : Build Unit := do
  match ((← get).known[number]?).join with
  | some (.list _) => do
    let items ← itemsOf number
    for item in items do
      let _ ← meet item
    learn number (.list items)
  | some (.pairs _) => do
    let pairs ← (← itemsOf number).mapM fun item => do
      let (key, value) ← onlyEntry item
      let _ ← meet key
      let _ ← meet value
      return (key, value)
    learn number (.pairs pairs)
  | some (.mapping _) => do learn number (.mapping (ofPairs (← completeEntries number)))
  | some (.set _) => do learn number (.set ((ofPairs (← completeEntries number)).map (·.1)))
  | _ => pure ()

/-- The rounds that are left. -/
def rounds : Nat → Build Unit
  | 0 => fail
  | fuel + 1 => do
    match (← get).pending with
    | [] => pure ()
    | pending => do
      modify fun s => { s with pending := [] }
      for number in pending do fill number
      rounds fuel

/-- All that is known of the parts of a document. -/
def known (graph : Graph) : Except Fault (Array (Option Known)) := do
  let size := graph.nodes.size
  let read : Build Unit := do
    let _ ← meet graph.root
    rounds (size + 1)
  let ((), s) ← read.run { nodes := graph.nodes, known := Array.replicate size none }
  return s.known

end Build

/-! ## Values -/

/-- The value of a part, down to a depth. -/
def valueAt (known : Array (Option Known)) : (depth : Nat) → (number : Nat) → Value
  | 0, _ => .deep
  | depth + 1, number =>
    match (known[number]?).join with
    | none => .deep
    | some (.scalar value) => .scalar value
    | some (.list items) => .list (items.map (valueAt known depth))
    | some (.pairs items) =>
      .list (items.map fun (key, value) => .pair (valueAt known depth key) (valueAt known depth value))
    | some (.mapping entries) =>
      .mapping (entries.map fun (key, value) => (key, valueAt known depth value))
    | some (.set items) => .set items

/-- The value of a text, down to a depth; the text without a document says nothing. -/
def Value.read (depth : Nat) (text : String) : Except Fault Value := do
  match ← Graph.ofTokens (.ofText text) with
  | none => return .scalar .null
  | some graph => return valueAt (← Build.known graph) depth graph.root

end PhpOutline.Yaml

/-- The depth of settings: a mapping, its values, and the items of a value. -/
def PhpOutline.Settings.depth : Nat := 3
