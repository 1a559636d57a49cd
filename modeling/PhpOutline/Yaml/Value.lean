import PhpOutline.Yaml.Scalar

/-!
# Values of YAML documents

A value is a scalar, or it holds other values: a list, a mapping from scalars, a set of scalars. The
items of a list can be pairs. In a mapping each key stands once: a later value for the same key
replaces the earlier one.
-/

namespace PhpOutline.Yaml

/-- What a document says. -/
inductive Value where
  | scalar (value : Scalar)
  | list (items : List Value)
  | pair (first second : Value)
  | mapping (entries : List (Scalar × Value))
  | set (items : List Scalar)
  /-- A value that lies deeper than a reader went. -/
  | deep

end PhpOutline.Yaml
