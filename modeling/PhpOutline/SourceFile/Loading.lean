import PhpOutline.Disk
import PhpOutline.Log.Event
import PhpOutline.Md5
import PhpOutline.Text.Utf8

/-!
# Loading sources

The text of a file and the digest of its bytes. A file is read as UTF-8, a mark at its start left
out. If it is not in UTF-8, it is read in another encoding, and that is reported. The other
encodings are given from outside, by their names.

* `SourceText.decode`: the text of bytes;
* `SourceText.load`: the text of a file.
-/

namespace PhpOutline

open Text

/-- The encodings of texts by their names. An encoding gives the text of any bytes, unless it breaks
    off itself, which it does with a reason. -/
abbrev Codecs := String → Option (List UInt8 → Except String (List Char))

/-- The text of a file and the digest of its bytes. -/
structure SourceText where
  path : String
  contents : String
  digest : String
  deriving DecidableEq, Repr

/-- Why a file cannot be loaded (`SourceLoadError`). -/
inductive LoadError where
  | notFound (path : String)
  | unreadable (path reason : String)
  | unknownEncoding (name : String)
  /-- The system does not say whether there is a file. -/
  | refused (error : DiskError)
  /-- The system does not take the name of the encoding. -/
  | unusableName (name : String)
  /-- The encoding breaks off. -/
  | broken (name reason : String)
  deriving DecidableEq, Repr

/-- The text of an error. Failures that loading does not handle have no text of their own. -/
def LoadError.message? : LoadError → Option String
  | .notFound path => some s!"Source file not found: {path}"
  | .unreadable path reason => some s!"Cannot read source file '{path}': {reason}"
  | .unknownEncoding name => some s!"Unknown fallback encoding '{name}'"
  | .refused _ => none
  | .unusableName _ => none
  | .broken _ _ => none

namespace SourceText

/-- Whether the system takes the name of an encoding: it does not hold the character that ends a
    text there. -/
def isUsableName (name : String) : Bool := !name.toList.contains '\x00'

/-- The text of bytes in the encoding of a name. -/
def transcode (codecs : Codecs) (encoding : String) (bytes : List UInt8) :
    Except LoadError (List Char) :=
  if isUsableName encoding then
    match codecs encoding with
    | none => .error (.unknownEncoding encoding)
    | some codec => (codec bytes).mapError (.broken encoding)
  else .error (.unusableName encoding)

/-- The text of the bytes of the file at `path`, as `_decode` reads it; `encoding` names the
    encoding of bytes that are not in UTF-8, and is not looked at otherwise. -/
def decode (codecs : Codecs) (path encoding : String) (bytes : List UInt8) :
    List Event × Except LoadError String :=
  match Utf8.decode? bytes with
  | some cs => ([], .ok (String.ofList (Utf8.dropMark cs)))
  | none =>
    match transcode codecs encoding bytes with
    | .error e => ([], .error e)
    | .ok cs => ([.transcoded path encoding], .ok (String.ofList cs))

/-- The text of a file, as `load_source` reads it. -/
def load (codecs : Codecs) (look : Path → Sight) (path : Path) (encoding : String) :
    List Event × Except LoadError SourceText :=
  match look path with
  | .file bytes =>
    let (events, decoded) := decode codecs path.text encoding bytes
    (events, decoded.map fun contents => ⟨path.text, contents, Md5.digest bytes⟩)
  | .unreadable reason => ([], .error (.unreadable path.text reason))
  | .refused code reason => ([], .error (.refused (.refused path.text code reason)))
  | _ => ([], .error (.notFound path.text))

end SourceText

end PhpOutline
