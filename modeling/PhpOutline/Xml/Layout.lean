import PhpOutline.Text.Blank
import PhpOutline.Xml.Element

/-!
# Indented layout

Elements laid out for human readers: every child on a line of its own, two spaces deeper than its
parent. Only blank character data of elements with children is changed.
-/

namespace PhpOutline.Xml

/-- A line feed and the indentation of a level. -/
def indentation (level : Nat) : String := String.ofList ('\n' :: List.replicate (2 * level) ' ')

/-- Blank character data becomes an indentation; other character data stays. -/
def reindent (level : Nat) (text : String) : String :=
  if text.toList.all Text.isBlank then indentation level else text

namespace Content

/-- The content of an element with children at some level, laid out. -/
def indentChildren (level : Nat) : Content → Content
  | .stop text => .stop (reindent level text)
  | .child text tag attributes inner rest =>
    .child (reindent (level + 1) text) tag attributes
      (if inner.hasChildren then inner.indentChildren (level + 1) else inner)
      (rest.indentChildren level)

/-- The content of an element at some level, laid out. -/
def indent (level : Nat) (c : Content) : Content :=
  if c.hasChildren then c.indentChildren level else c

end Content

/-- An element laid out as the outermost one of a document. -/
def Element.indent (e : Element) : Element := { e with content := e.content.indent 0 }

end PhpOutline.Xml
