import PhpOutline.Program.Yaml.Graph
import PhpOutline.Program.Yaml.Lexer

/-!
# From tokens to graphs

The grammar of a document, the names that a document gives to its parts, and the kinds that it asks
for. An anchor names the part after it, once, and an alias stands for the part of its name. A tag
gives a kind; its handle stands for what an instruction before the document says.

`Graph.ofTokens` gives the graph of a document, or nothing if there is no document at all.
-/

namespace PhpOutline.Yaml

/-- The meanings of the handles of tags. -/
abbrev Handles := List (String × String)

/-- The handles that have a meaning unless a document gives them another one. -/
def Handles.default : Handles := [("!", "!"), ("!!", Kind.space)]

/-- The state of reading: the tokens ahead and the fault after them, the meanings of handles, the
    named parts and all parts. A list or a mapping that is still being read holds nothing yet. -/
structure Composing where
  rest : List Token
  fault? : Option Fault
  handles : Handles
  named : List (String × Nat) := []
  nodes : Array Node := #[]

/-- Reading can fail. -/
abbrev Compose := StateT Composing (Except Fault)

namespace Compose

/-- The tokens are those of no document. -/
def fail {α : Type} : Compose α := throw .malformed

/-- The next token, or nothing at the end of the text. -/
def next? : Compose (Option Token) := do
  let s ← get
  match s.rest, s.fault? with
  | [], some fault => throw fault
  | rest, _ => return rest.head?

/-- Whether the next token is of a class. -/
def at? (p : Token → Bool) : Compose Bool := do return (← next?).any p

/-- Passes over a token. -/
def skip : Compose Unit := modify fun s => { s with rest := s.rest.drop 1 }

/-- Passes over a token that must be here. -/
def expect (token : Token) : Compose Unit := do
  if ← at? (· == token) then skip else fail

/-! ## Parts -/

/-- Adds a part. -/
def add (node : Node) : Compose Nat := do
  let number := (← get).nodes.size
  modify fun s => { s with nodes := s.nodes.push node }
  return number

/-- Adds a part and gives it a name, which must be new. -/
def addNamed (name? : Option String) (node : Node) : Compose Nat := do
  let number ← add node
  match name? with
  | none => pure ()
  | some name =>
    if ((← get).named.lookup name).isSome then fail
    else modify fun s => { s with named := (name, number) :: s.named }
  return number

/-- Fills a part that has been added. -/
def fill (number : Nat) (content : Content) : Compose Unit :=
  modify fun s => { s with nodes := s.nodes.modify number fun node => { node with content := content } }

/-- A part that is left out. -/
def addEmpty : Compose Nat := add Node.empty

/-- The part of a name. -/
def numberNamed (name : String) : Compose Nat := do
  match (← get).named.lookup name with
  | none => fail
  | some number => return number

/-! ## Kinds -/

/-- An anchor, if there is one here. -/
def anchor? : Compose (Option String) := do
  match ← next? with
  | some (.anchor name) => do
    skip
    return some name
  | _ => return none

/-- A tag, if there is one here. -/
def tag? : Compose (Option Tag) := do
  match ← next? with
  | some (.tag tag) => do
    skip
    return some tag
  | _ => return none

/-- An anchor and a tag, in either order, each at most once. -/
def properties : Compose (Option String × Option Tag) := do
  match ← anchor? with
  | some name => return (some name, ← tag?)
  | none => do
    match ← tag? with
    | some tag => return (← anchor?, some tag)
    | none => return (none, none)

/-- The full text of a tag, whose handle must have a meaning. -/
def tagText (tag : Tag) : Compose String := do
  match tag.handle? with
  | none => return tag.name
  | some handle =>
    match (← get).handles.lookup handle with
    | none => fail
    | some meaning => return meaning ++ tag.name

/-- The kind that the text of a tag asks for. The lone mark asks for none: then the kind is
    `default`. -/
def kindOf (default : Kind) : Option String → Option Kind
  | none => some default
  | some "!" => some default
  | some text => Kind.ofTag? text

/-- The kind of a text. Without a tag, a text in quotes is a text. -/
def kindOfText (tag? : Option String) (text : String) (plain : Bool) : Option Kind :=
  if tag?.isNone && !plain then some .text else kindOf (Kind.ofPlain text) tag?

/-! ## The grammar -/

/-- Whether a value is left out in a block: the next token is a mark of the block. -/
def atBlockMark (token : Token) : Bool := token == .key || token == .value || token == .blockEnd

/-- The part at a place where one must be, unless a token of the class `stops` shows that it is left
    out. -/
def unlessAt (stops : Token → Bool) (read : Compose Nat) : Compose Nat := do
  if ← at? stops then addEmpty else read

mutual

/-- A part. Blocks are read only outside of brackets (`block`), and the items of a list need no
    block of their own below a key (`loose`). -/
def node (block loose : Bool) : Nat → Compose Nat
  | 0 => fail
  | fuel + 1 => do
    match ← next? with
    | some (.alias name) => do
      skip
      numberNamed name
    | _ => do
      let (name?, tag?) ← properties
      let tag? ← tag?.mapM tagText
      let list := fun (items : Compose (List Nat)) => do
        let number ← addNamed name? ⟨kindOf .list tag?, .list []⟩
        fill number (.list (← items))
        return number
      let mapping := fun (entries : Compose (List (Nat × Nat))) => do
        let number ← addNamed name? ⟨kindOf .mapping tag?, .mapping []⟩
        fill number (.mapping (← entries))
        return number
      -- A text can be left out if there is a name or a tag for it.
      let absent :=
        if name?.isNone && tag?.isNone then fail
        else addNamed name? ⟨kindOfText tag? "" true, .scalar ""⟩
      match ← next? with
      | some (.scalar text plain) => do
        skip
        addNamed name? ⟨kindOfText tag? text plain, .scalar text⟩
      | some .listStart => do
        skip
        list (listItems true fuel)
      | some .mappingStart => do
        skip
        mapping (mappingEntries true fuel)
      | some .item => if loose then list (looseItems fuel) else absent
      | some .blockList =>
        if block then do
          skip
          list (blockItems fuel)
        else absent
      | some .blockMapping =>
        if block then do
          skip
          mapping (blockEntries fuel)
        else absent
      | _ => absent

/-- The items of a block list. -/
def blockItems : Nat → Compose (List Nat)
  | 0 => fail
  | fuel + 1 => do
    if ← at? (· == .item) then
      skip
      let item ← unlessAt (fun t => t == .item || t == .blockEnd) (node true false fuel)
      return item :: (← blockItems fuel)
    else
      expect .blockEnd
      return []

/-- The items of a list right below a key, which ends where the mapping goes on. -/
def looseItems : Nat → Compose (List Nat)
  | 0 => fail
  | fuel + 1 => do
    if ← at? (· == .item) then
      skip
      let item ← unlessAt (fun t => t == .item || atBlockMark t) (node true false fuel)
      return item :: (← looseItems fuel)
    else return []

/-- The keys and values of a block mapping. -/
def blockEntries : Nat → Compose (List (Nat × Nat))
  | 0 => fail
  | fuel + 1 => do
    if ← at? (fun t => t == .key || t == .value) then
      let key ←
        if ← at? (· == .key) then do
          skip
          unlessAt atBlockMark (node true true fuel)
        else fail
      let value ←
        if ← at? (· == .value) then do
          skip
          unlessAt atBlockMark (node true true fuel)
        else addEmpty
      return (key, value) :: (← blockEntries fuel)
    else
      expect .blockEnd
      return []

/-- The items of a list in brackets. An item can be a single key with its value. -/
def listItems (first : Bool) : Nat → Compose (List Nat)
  | 0 => fail
  | fuel + 1 => do
    if ← at? (· == .listEnd) then do
      skip
      return []
    else
      unless first do expect .comma
      if ← at? (· == .key) then
        skip
        let isEnd := fun t : Token => t == .comma || t == .listEnd
        let number ← add ⟨some .mapping, .mapping []⟩
        let key ← unlessAt (fun t => t == .value || isEnd t) (node false false fuel)
        let value ←
          if ← at? (· == .value) then do
            skip
            unlessAt isEnd (node false false fuel)
          else addEmpty
        fill number (.mapping [(key, value)])
        return number :: (← listItems false fuel)
      else if ← at? (· == .listEnd) then do
        skip
        return []
      else
        let item ← node false false fuel
        return item :: (← listItems false fuel)

/-- The keys and values of a mapping in brackets. -/
def mappingEntries (first : Bool) : Nat → Compose (List (Nat × Nat))
  | 0 => fail
  | fuel + 1 => do
    if ← at? (· == .mappingEnd) then do
      skip
      return []
    else
      unless first do expect .comma
      if ← at? (· == .key) then
        skip
        let isEnd := fun t : Token => t == .comma || t == .mappingEnd
        let key ← unlessAt (fun t => t == .value || isEnd t) (node false false fuel)
        let value ←
          if ← at? (· == .value) then do
            skip
            unlessAt isEnd (node false false fuel)
          else addEmpty
        return (key, value) :: (← mappingEntries false fuel)
      else if ← at? (· == .mappingEnd) then do
        skip
        return []
      else
        let key ← node false false fuel
        let value ← addEmpty
        return (key, value) :: (← mappingEntries false fuel)

end

/-! ## Documents -/

/-- A token that ends a document. -/
def endsDocument (token : Token) : Bool :=
  match token with
  | .directive _ => true
  | .documentStart => true
  | .documentEnd => true
  | _ => false

/-- The instructions before a document, from here on: they give the version at most once, which must
    be version one, and a meaning to each handle at most once. -/
def directives (versioned : Bool) (given : Handles) : Nat → Compose Handles
  | 0 => fail
  | fuel + 1 => do
    match ← next? with
    | some (.directive (.version major)) =>
      if versioned ∨ major ≠ 1 then fail
      else do
        skip
        directives true given fuel
    | some (.directive (.handle name meaning)) =>
      if (given.lookup name).isSome then fail
      else do
        skip
        directives versioned ((name, meaning) :: given) fuel
    | some (.directive .other) => do
      skip
      directives versioned given fuel
    | _ => return given ++ Handles.default

/-- What announces a document: instructions, and the mark of its start. -/
def heading (fuel : Nat) : Compose Unit := do
  let handles ← directives false [] fuel
  modify fun s => { s with handles := handles }
  expect .documentStart

/-- The marks of a document's end. -/
def skipEnds : Nat → Compose Unit
  | 0 => fail
  | fuel + 1 => do
    if ← at? (· == .documentEnd) then
      skip
      skipEnds fuel

/-- The outermost part of a document. After a heading it can be left out. -/
def outermost (fuel : Nat) : Compose Nat := do
  if ← at? fun t => t matches .directive _ || t == .documentStart then
    heading fuel
    if (← next?).all endsDocument then addEmpty else node true false fuel
  else node true false fuel

/-- The only document; nothing if there is no token. -/
def document (fuel : Nat) : Compose (Option Nat) := do
  match ← next? with
  | none => return none
  | some _ => do
    let root ← outermost fuel
    skipEnds fuel
    match ← next? with
    | none => return some root
    | some _ => do
      -- A second heading is read before the document after it is refused.
      heading fuel
      fail

end Compose

/-- The graph of a document; nothing if the tokens are none. -/
def Graph.ofTokens (tokens : Tokens) : Except Fault (Option Graph) := do
  let fuel := 2 * tokens.list.length + 2
  let (root?, s) ← (Compose.document fuel).run
    { rest := tokens.list, fault? := tokens.fault?, handles := Handles.default }
  return root?.map fun root => ⟨s.nodes, root⟩

end PhpOutline.Yaml
