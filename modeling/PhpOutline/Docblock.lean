import PhpOutline.Text.Blank
import PhpOutline.Text.Lines
import PhpOutline.Text.Quoted
import PhpOutline.Text.Word
import PhpOutline.Xml.Element

/-!
# Docblocks

A documentation comment: a short description (the first paragraph), a long description (the other
paragraphs) and tags. Every line loses its gutter, the blanks and the star at its start; a line
that then starts with an at sign opens a tag, and the lines after it continue that tag.
-/

namespace PhpOutline

open PhpOutline.Text

/-- One entry `@name description` of a docblock (`DocBlockTag`). -/
structure DocTag where
  name : String
  description : String := ""
  deriving DecidableEq, Repr

/-- A documentation comment that has been read (`DocBlock`). -/
structure Docblock where
  short : String := ""
  long : String := ""
  tags : List DocTag := []
  line : Int := 0
  deriving DecidableEq, Repr

/-- Why a comment is not a docblock. -/
inductive DocblockError.Cause where
  | notDocumentation
  | malformedTag (line : String)
  deriving DecidableEq, Repr

/-- A comment that cannot be read as a docblock, and its line (`DocBlockError`). -/
structure DocblockError where
  cause : DocblockError.Cause
  line : Int
  deriving DecidableEq, Repr

/-- The text of a docblock error. -/
def DocblockError.message (e : DocblockError) : String :=
  let text := match e.cause with
    | .notDocumentation => "Not a documentation comment"
    | .malformedTag line => "Malformed tag " ++ quoted line
  s!"Line {e.line}: {text}"

namespace Docblock

/-! ## Lines -/

/-- A line without its gutter: blanks, one optional star, one optional blank. -/
def stripGutter (cs : List Char) : List Char :=
  let afterStar := match cs.dropWhile isSpaceOrTab with
    | '*' :: r => r
    | r => r
  match afterStar with
  | c :: r => if isSpaceOrTab c then r else c :: r
  | [] => []

/-- The text between the opening and the closing of a documentation comment. -/
def body? (raw : List Char) : Option (List Char) :=
  let cs := trim raw
  if "/**".toList.isPrefixOf cs && "/*".toList.isPrefixOf cs.reverse && 5 ≤ cs.length then
    some ((cs.drop 3).take (cs.length - 5))
  else none

/-- The lines of a comment body without their gutters and trailing blanks (`_strip_gutter`). -/
def bodyLines (body : List Char) : List (List Char) :=
  (lines body).map fun line => trimEnd (stripGutter line)

/-! ## Tags -/

/-- The line opens a tag. -/
def opensTag (line : List Char) : Bool := line.head? == some '@'

/-- The first character of a tag name. -/
def isTagStart (c : Char) : Bool := c.isAlpha || c == '_' || c == '\\'

/-- A later character of a tag name. -/
def isTagPart (c : Char) : Bool := isWord c || c == '\\' || c == '-'

/-- The tag that a line opens: an at sign, a name, and then the end of the line or blanks and the
    description. -/
def tag? (line : List Char) : Option DocTag :=
  match line with
  | '@' :: c :: r =>
    let rest := r.dropWhile isTagPart
    if isTagStart c && rest.head?.all isBlank then
      some ⟨String.ofList (c :: r.takeWhile isTagPart), String.ofList (trim rest)⟩
    else none
  | _ => none

/-- The tag with a further line of description. -/
def extendTag (tag : DocTag) (line : List Char) : DocTag :=
  if line.isEmpty then tag
  else { tag with description := String.ofList (trim (tag.description.toList ++ ' ' :: trim line)) }

/-- The tags of the lines that follow the opening line of `tag`, which comes first. -/
def tagsFrom (tag : DocTag) : List (List Char) → Except DocblockError.Cause (List DocTag)
  | [] => .ok [tag]
  | line :: later =>
    if opensTag line then
      match tag? line with
      | none => .error (.malformedTag (String.ofList line))
      | some next => (tagsFrom next later).map (tag :: ·)
    else tagsFrom (extendTag tag line) later

/-- The tags of lines of which the first opens a tag. -/
def readTags : List (List Char) → Except DocblockError.Cause (List DocTag)
  | [] => .ok []
  | line :: later =>
    match tag? line with
    | none => .error (.malformedTag (String.ofList line))
    | some tag => tagsFrom tag later

/-! ## Descriptions -/

/-- The paragraphs of some lines, given the lines of the paragraph that is open. Blank lines stand
    between paragraphs, and every line is trimmed. -/
def paragraphsFrom (current : List (List Char)) : List (List Char) → List (List (List Char))
  | [] => if current.isEmpty then [] else [current]
  | line :: later =>
    let text := trim line
    if text.isEmpty then
      if current.isEmpty then paragraphsFrom [] later else current :: paragraphsFrom [] later
    else paragraphsFrom (current ++ [text]) later

/-- The text of a paragraph: its lines with line feeds between them. -/
def paragraphText (paragraph : List (List Char)) : List Char :=
  ['\n'].intercalate paragraph

/-- The paragraphs of some lines (`_paragraphs`). -/
def paragraphs (ls : List (List Char)) : List (List Char) :=
  (paragraphsFrom [] ls).map paragraphText

/-! ## Reading -/

/-- The docblock of a comment body. -/
def ofBody (body : List Char) (line : Int) : Except DocblockError.Cause Docblock :=
  let ls := bodyLines body
  match readTags (ls.dropWhile fun l => !opensTag l) with
  | .error cause => .error cause
  | .ok tags =>
    let paras := paragraphs (ls.takeWhile fun l => !opensTag l)
    .ok ⟨String.ofList (paras.head?.getD []), String.ofList (['\n', '\n'].intercalate paras.tail),
      tags, line⟩

/-- The docblock that a comment holds (`parse_docblock`). -/
def read (raw : String) (line : Int) : Except DocblockError Docblock :=
  match body? raw.toList with
  | none => .error ⟨.notDocumentation, line⟩
  | some body =>
    match ofBody body line with
    | .error cause => .error ⟨cause, line⟩
    | .ok block => .ok block

/-- The tags of a given name, in order (`get_tags`). -/
def tagsNamed (d : Docblock) (name : String) : List DocTag := d.tags.filter (·.name == name)

/-- There is a tag of the given name (`has_tag`). -/
def hasTag (d : Docblock) (name : String) : Bool := d.tags.any (·.name == name)

/-- The element that describes a docblock (`DocBlock.to_element`). -/
def toElement (d : Docblock) : Xml.Element :=
  .node "docblock" [("line", toString d.line)] <|
    [.leaf "description" [] d.short, .leaf "long-description" [] d.long] ++
      d.tags.map fun tag =>
        .leaf "tag" [("name", tag.name), ("description", tag.description)] ""

end Docblock

end PhpOutline
