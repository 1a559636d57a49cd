import PhpOutline.Text.Lines

/-!
# Paths

A path is a root and the parts below it. Written paths are tidied: empty parts and single dots do not
count. Two dots are kept, since only the disk knows where they lead.
-/

namespace PhpOutline

open Text

/-- A path. The root is empty for a path from the current directory. -/
structure Path where
  root : String := ""
  parts : List String
  deriving DecidableEq, Repr

namespace Path

/-- The root of a written path: one slash, or exactly two. -/
def rootOf (text : List Char) : String :=
  match (text.takeWhile (· == '/')).length with
  | 0 => ""
  | 2 => "//"
  | _ => "/"

/-- The path that a text writes. -/
def ofText (text : String) : Path where
  root := rootOf text.toList
  parts := ((splitOnChar '/' text.toList).map String.ofList).filter fun part =>
    part != "" && part != "."

/-- A path as a text. The path without parts is the current directory. -/
def text (p : Path) : String :=
  if p.root == "" && p.parts.isEmpty then "." else p.root ++ "/".intercalate p.parts

/-- Whether the system takes a path: no part holds the character that ends a text there. -/
def isUsable (p : Path) : Bool := p.parts.all fun part => !part.toList.contains '\x00'

/-- The path without its last part. -/
def parent (p : Path) : Path := { p with parts := p.parts.dropLast }

end Path

end PhpOutline
