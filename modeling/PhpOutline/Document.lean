import PhpOutline.SourceFile
import PhpOutline.Text.Case
import PhpOutline.Xml.Layout
import PhpOutline.Xml.Printer
import PhpOutline.Xml.Reader

/-!
# Documents

The XML document that describes a file: the docblock, the markers and the aliases of the file, and
then a fragment for each included file, constant, function, interface and class. A fragment is text
of its own, and its element is read back before it is added.
-/

namespace PhpOutline

open PhpOutline.Text
open PhpOutline.Xml (Element)

/-- Why a file has no document. -/
inductive DocumentError where
  | malformedFragment
  | malformedName
  deriving DecidableEq, Repr

namespace Document

/-- The first line of a document. -/
def declaration : String := "<?xml version=\"1.0\" encoding=\"utf-8\"?>"

/-- The element with the element of a fragment as its last child (`merge_fragment`). -/
def merge (root : Element) (fragment : String) : Except DocumentError Element :=
  match Element.read? (trimmed fragment) with
  | some child => .ok (root.push child)
  | none => .error .malformedFragment

/-- The element of a marker: its term in lower case is the tag. -/
def markerElement (m : Marker) : Element :=
  .leaf (lowered m.term) [("line", toString m.line)] (trimmed m.content)

/-- The element of an alias. -/
def aliasElement (entry : String × String) : Element :=
  .leaf "namespace-alias" [("name", entry.1)] entry.2

/-- The elements of a file that are no declarations. -/
def fileElements (o : Outline) : List Element :=
  docElements o.docblock ++
    (if o.markers.isEmpty then [] else [.node "markers" [] (o.markers.map markerElement)]) ++
    o.symbols.aliases.map aliasElement

/-- The fragments of the declarations of a file, in the order of a document. -/
def fragments (s : Symbols) : List String :=
  s.includes.map (·.toElement.text) ++ s.constants.values.map (·.toElement.text) ++
    s.functions.values.map (·.toElement.text) ++ s.interfaces.values.map (·.toElement.text) ++
    s.classes.values.map (·.toElement.text)

/-- A path without leading points and slashes. -/
def relativePath (path : String) : String :=
  String.ofList (path.toList.dropWhile fun c => c == '.' || c == '/')

/-- The element that describes a file. -/
def rootElement (f : SourceFile.State) : Except DocumentError Element :=
  let root := .node "file"
    [("path", relativePath f.path), ("hash", f.digest.getD "")] (fileElements f.outline)
  (fragments f.outline.symbols).foldlM merge root

end Document

/-- The document of a file, laid out for readers if `pretty` (`build_document`). -/
def SourceFile.State.document (f : SourceFile.State) (pretty : Bool) : Except DocumentError String :=
  match Document.rootElement f with
  | .error e => .error e
  | .ok root =>
    match (if pretty then root.indent else root).render with
    | none => .error .malformedName
    | some text => .ok (Document.declaration ++ "\n" ++ text)

end PhpOutline
