import PhpOutline.Path
import PhpOutline.Text.Quoted

/-!
# Files on a disk

What can be seen at a path, why a file cannot be written, and a tree of files in memory.

* `saveError?`: what stands in the way of writing a file;
* `FileTree.look`: what a tree of files has at a path.
-/

namespace PhpOutline

/-- What is at a path. -/
inductive Sight where
  | missing
  /-- A part of the path above the last one is no directory. -/
  | blocked
  | directory
  | file (bytes : List UInt8)
  /-- A file whose bytes cannot be read, with the system's reason. -/
  | unreadable (reason : String)
  /-- The system does not say what is there, for instance since a name is too long or a directory
      cannot be searched. It gives a number and a text for that. -/
  | refused (code : Nat) (reason : String)
  /-- The device that is always empty: it can be read and written, but it is no file. -/
  | device
  deriving DecidableEq, Repr

/-- Why the system refuses to read or to write at a path. -/
inductive DiskError where
  | isDirectory (path : String)
  | notDirectory (path : String)
  | alreadyExists (path : String)
  | refused (path : String) (code : Nat) (reason : String)
  deriving DecidableEq, Repr

/-- The system's text for an error. -/
def DiskError.message : DiskError → String
  | .isDirectory path => "[Errno 21] Is a directory: " ++ Text.quoted path
  | .notDirectory path => "[Errno 20] Not a directory: " ++ Text.quoted path
  | .alreadyExists path => "[Errno 17] File exists: " ++ Text.quoted path
  | .refused path code reason => s!"[Errno {code}] {reason}: " ++ Text.quoted path

/-- What stands in the way of making a directory, with those above it. -/
def directoryError? (look : Path → Sight) (path : Path) : Option DiskError :=
  match look path with
  | .missing => none
  | .directory => none
  | .blocked => some (.notDirectory path.text)
  | .refused code reason => some (.refused path.text code reason)
  | _ => some (.alreadyExists path.text)

/-- What stands in the way of writing a file, where directories above it are made as needed. -/
def saveError? (look : Path → Sight) (path : Path) : Option DiskError :=
  match directoryError? look path.parent with
  | some e => some e
  | none =>
    match look path with
    | .directory => some (.isDirectory path.text)
    | .refused code reason => some (.refused path.text code reason)
    | _ => none

/-! ## Trees -/

/-- Files in memory: the parts of the path of each file with its bytes, and empty directories
    without bytes. A directory with something in it need not be listed. -/
abbrev FileTree := List (List String × Option (List UInt8))

namespace FileTree

/-- What a tree has at a place, given by the names from the top. -/
def sightAt (tree : FileTree) (place : List String) : Sight :=
  match tree.lookup place with
  | some (some bytes) => .file bytes
  | some none => .directory
  | none =>
    if place.isEmpty || tree.any fun entry => place.isPrefixOf entry.1 then .directory
    else .missing

/-- The greatest number of bytes in a name. -/
def greatestName : Nat := 255

/-- The greatest number of bytes in a path. -/
def greatestPath : Nat := 4095

/-- What is seen where a name or a path is too long. -/
def tooLong : Sight := .refused 36 "File name too long"

/-- What a tree has at a place from a place. Only directories lead on, and two dots lead back.
    Outside of the tree nothing is known but the directories above it. -/
def walk (tree : FileTree) (place : List String) : List String → Sight
  | [] => tree.sightAt place
  | part :: rest =>
    match tree.sightAt place with
    | .directory =>
      if part == ".." then
        if place.isEmpty then (if rest.all (· == "..") then .directory else .missing)
        else walk tree place.dropLast rest
      else if greatestName < part.utf8ByteSize then tooLong
      else walk tree (place ++ [part]) rest
    | .missing => .missing
    | _ => .blocked

/-- The parts of the path of the empty device. -/
def deviceParts : List String := ["dev", "null"]

/-- What a tree has at a path. -/
def look (tree : FileTree) (path : Path) : Sight :=
  if greatestPath < path.text.utf8ByteSize then tooLong
  else if path.root == "" then tree.walk [] path.parts
  else if path.parts.isEmpty then .directory
  else if path.parts == deviceParts then .device
  else if path.parts.head?.any (greatestName < ·.utf8ByteSize) then tooLong
  else .missing

/-- The place that a path leads to, if it does not lead out of the tree. -/
def place? (path : Path) : Option (List String) :=
  if path.root == "" then
    path.parts.foldlM
      (fun place part =>
        if part == ".." then (if place.isEmpty then none else some place.dropLast)
        else some (place ++ [part]))
      []
  else none

/-- A tree with a file written. -/
def save (tree : FileTree) (path : Path) (bytes : List UInt8) : FileTree :=
  match place? path with
  | none => tree
  | some place => tree.filter (fun entry => entry.1 != place) ++ [(place, some bytes)]

end FileTree

end PhpOutline
