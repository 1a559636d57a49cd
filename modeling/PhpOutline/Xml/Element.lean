/-!
# Elements

The tree of an XML document. The content of an element is character data with child elements in
between: every child has the character data before it, and after the last child comes the rest of
the character data. So adjacent runs of character data cannot arise, and two trees are equal
exactly when they say the same.

Results:
* `Content.elements_push`, `Content.elements_ofElements`: the children of a content that is built.
-/

namespace PhpOutline.Xml

/-- An attribute: its name and its value. -/
abbrev Attribute := String × String

/-- What stands between the tags of an element. -/
inductive Content where
  | stop (text : String)
  | child (text tag : String) (attributes : List Attribute) (inner rest : Content)
  deriving DecidableEq, Repr

/-- An element of a document. -/
structure Element where
  tag : String
  attributes : List Attribute
  content : Content
  deriving DecidableEq, Repr

namespace Content

/-- No children and no character data. -/
def empty : Content := .stop ""

/-- There is at least one child. -/
def hasChildren : Content → Bool
  | .stop _ => false
  | .child .. => true

/-- The children, in order. -/
def elements : Content → List Element
  | .stop _ => []
  | .child _ tag attributes inner rest => ⟨tag, attributes, inner⟩ :: rest.elements

/-- The content with a child after all that is there. -/
def push (e : Element) : Content → Content
  | .stop text => .child text e.tag e.attributes e.content empty
  | .child text tag attributes inner rest => .child text tag attributes inner (rest.push e)

/-- The content with a character after all that is there. -/
def pushChar (c : Char) : Content → Content
  | .stop text => .stop (text.push c)
  | .child text tag attributes inner rest => .child text tag attributes inner (rest.pushChar c)

/-- The content that consists of the given children. -/
def ofElements : List Element → Content
  | [] => empty
  | e :: es => .child "" e.tag e.attributes e.content (ofElements es)

@[simp] theorem elements_push (e : Element) (c : Content) :
    (c.push e).elements = c.elements ++ [e] := by
  induction c with
  | stop text => rfl
  | child text tag attributes inner rest _ ih => simp [push, elements, ih]

@[simp] theorem elements_ofElements (es : List Element) : (ofElements es).elements = es := by
  induction es with
  | nil => rfl
  | cons e es ih => simp [ofElements, elements, ih]

end Content

namespace Element

/-- An element with character data only. -/
def leaf (tag : String) (attributes : List Attribute) (text : String) : Element :=
  ⟨tag, attributes, .stop text⟩

/-- An element with children only. -/
def node (tag : String) (attributes : List Attribute) (children : List Element) : Element :=
  ⟨tag, attributes, .ofElements children⟩

/-- The children, in order. -/
def children (e : Element) : List Element := e.content.elements

/-- The element with one more child at the end. -/
def push (e : Element) (child : Element) : Element := { e with content := e.content.push child }

/-- The element with one more character at the end. -/
def pushChar (e : Element) (c : Char) : Element := { e with content := e.content.pushChar c }

@[simp] theorem children_push (e child : Element) :
    (e.push child).children = e.children ++ [child] := by simp [children, push]

@[simp] theorem children_node (tag : String) (attributes : List Attribute) (es : List Element) :
    (node tag attributes es).children = es := by simp [children, node]

end Element

end PhpOutline.Xml
