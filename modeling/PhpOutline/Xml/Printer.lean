import PhpOutline.Xml.Element

/-!
# Printing elements

Elements as text. Character data escapes the ampersand and the angle brackets, attribute values
also the double quote and the controls that a reader would turn into spaces. An element without
children and character data is written as an empty tag.

A name may be qualified as `{space}local`. Then the name space gets the short name `ns0`, `ns1`
and so on, in the order in which the names are met, and the outermost element declares it. Names
are not checked otherwise.
-/

namespace PhpOutline.Xml

/-! ## Escaping -/

/-- One character of character data. -/
def escapeTextChar (c : Char) : List Char :=
  if c = '&' then "&amp;".toList
  else if c = '<' then "&lt;".toList
  else if c = '>' then "&gt;".toList
  else [c]

/-- Character data as it is written. -/
def escapeText (s : String) : List Char := s.toList.flatMap escapeTextChar

/-- One character of an attribute value. -/
def escapeValueChar (c : Char) : List Char :=
  if c = '"' then "&quot;".toList
  else if c = '\r' then "&#13;".toList
  else if c = '\n' then "&#10;".toList
  else if c = '\t' then "&#09;".toList
  else escapeTextChar c

/-- An attribute value as it is written between double quotes. -/
def escapeValue (s : String) : List Char := s.toList.flatMap escapeValueChar

/-! ## Elements -/

/-- An attribute with the blank before it. -/
def printAttribute (name : String → String) (a : Attribute) : List Char :=
  ' ' :: (name a.1).toList ++ ['=', '"'] ++ escapeValue a.2 ++ ['"']

/-- The start of a tag: its name and attributes. -/
def printOpening (name : String → String) (tag : String) (attributes : List Attribute) :
    List Char :=
  '<' :: (name tag).toList ++ attributes.flatMap (printAttribute name)

/-- What follows the attributes of a tag: nothing but the end of an empty tag, or the content and
    the closing tag. -/
def printRest (name : String → String) (tag : String) (isEmpty : Bool) (content : List Char) :
    List Char :=
  if isEmpty then " />".toList
  else '>' :: content ++ ['<', '/'] ++ (name tag).toList ++ ['>']

/-- Content as text; `name` gives the written form of a name. -/
def Content.print (name : String → String) : Content → List Char
  | .stop text => escapeText text
  | .child text tag attributes inner rest =>
    escapeText text ++ printOpening name tag attributes ++
      printRest name tag (inner = .empty) (inner.print name) ++ rest.print name

/-- An element as text, with the given attributes before its own. -/
def Element.print (name : String → String) (declarations : List Attribute) (e : Element) :
    List Char :=
  '<' :: (name e.tag).toList ++ declarations.flatMap (printAttribute id) ++
    e.attributes.flatMap (printAttribute name) ++
    printRest name e.tag (e.content = .empty) (e.content.print name)

/-- The text of an element all of whose names are plain. -/
def Element.text (e : Element) : String := String.ofList (e.print id [])

/-! ## Qualified names -/

/-- The name space and the local part of a qualified name. The inner `none` is a plain name, the
    outer one a name with an opening brace and no closing one. -/
def splitName? (name : String) : Option (Option (String × String)) :=
  match name.toList with
  | '{' :: r =>
    let back := r.reverse
    let before := back.dropWhile (· != '}')
    match before with
    | [] => none
    | _ :: space =>
      some (some (String.ofList space.reverse,
        String.ofList (back.takeWhile (· != '}')).reverse))
  | _ => some none

/-- Short names of name spaces, in the order of first use. -/
abbrev ShortNames := List (String × String)

/-- The short names after one more name has been met. -/
def ShortNames.meet (known : ShortNames) (name : String) : Option ShortNames :=
  match splitName? name with
  | none => none
  | some none => some known
  | some (some (space, _)) =>
    if (known.lookup space).isSome then some known
    else some (known ++ [(space, "ns" ++ toString known.length)])

/-- The short names after all names of a content have been met, in document order. -/
def Content.shortNames (known : ShortNames) : Content → Option ShortNames
  | .stop _ => some known
  | .child _ tag attributes inner rest => do
    let known ← (tag :: attributes.map Prod.fst).foldlM ShortNames.meet known
    rest.shortNames (← inner.shortNames known)

/-- The written form of a name. -/
def ShortNames.write (known : ShortNames) (name : String) : String :=
  match splitName? name with
  | some (some (space, part)) => (known.lookup space).getD "" ++ ":" ++ part
  | _ => name

/-- The attributes that declare short names, in the order of the short names. -/
def ShortNames.declarations (known : ShortNames) : List Attribute :=
  (known.mergeSort fun a b => a.2 ≤ b.2).map fun (space, short) => ("xmlns:" ++ short, space)

/-- The text of an element, unless it holds a name with an opening brace and no closing one. -/
def Element.render (e : Element) : Option String := do
  let known ← (e.tag :: e.attributes.map Prod.fst).foldlM ShortNames.meet []
  let known ← e.content.shortNames known
  some (String.ofList (e.print known.write known.declarations))

end PhpOutline.Xml
