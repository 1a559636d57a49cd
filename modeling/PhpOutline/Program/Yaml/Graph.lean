import PhpOutline.Program.Yaml.Kind

/-!
# Graphs of YAML documents

The parts of a document are numbered in the order in which they start. A list or a mapping holds the
numbers of its parts, so that a part with a name can be used more than once, also inside of itself.
-/

namespace PhpOutline.Yaml

/-- What a part of a document holds: a text, or the numbers of other parts. -/
inductive Content where
  | scalar (text : String)
  | list (items : List Nat)
  | mapping (entries : List (Nat × Nat))
  deriving DecidableEq, Repr

/-- A part of a document, with its kind if the language has it. -/
structure Node where
  kind? : Option Kind
  content : Content
  deriving DecidableEq, Repr

/-- A document: its parts, and the number of the outermost one. -/
structure Graph where
  nodes : Array Node
  root : Nat
  deriving Repr

/-- The part that stands where a value is left out. -/
def Node.empty : Node := ⟨some .null, .scalar ""⟩

end PhpOutline.Yaml
