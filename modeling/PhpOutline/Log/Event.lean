import PhpOutline.Docblock
import PhpOutline.Log

/-!
# Events

What is reported while a source file is loaded and read.
-/

namespace PhpOutline

/-- Something that is reported. -/
inductive Event where
  | transcoded (path encoding : String)
  | tokensFound (path : String) (count : Nat)
  | alreadyProcessed (path : String)
  | fileDocblockFailed (path : String) (error : DocblockError)
  | docblockFailed (error : DocblockError)
  | noFileDocblock (path : String)
  | processed (kind name : String) (line : Int)
  deriving DecidableEq, Repr

/-- The record of an event. -/
def Event.record : Event → Log.Record
  | .transcoded path encoding =>
    ⟨.warning, "source_transcoded", [("path", .text path), ("encoding", .text encoding)]⟩
  | .tokensFound path count =>
    ⟨.debug, "tokens_found", [("path", .text path), ("count", .whole count)]⟩
  | .alreadyProcessed path => ⟨.debug, "already_processed", [("path", .text path)]⟩
  | .fileDocblockFailed path e =>
    ⟨.error, "docblock_parse_failed",
      [("path", .text path), ("line", .whole e.line), ("error", .text e.message)]⟩
  | .docblockFailed e =>
    ⟨.error, "docblock_parse_failed", [("line", .whole e.line), ("error", .text e.message)]⟩
  | .noFileDocblock path => ⟨.error, "missing_file_docblock", [("path", .text path)]⟩
  | .processed kind name line =>
    ⟨.debug, "processed_entity",
      [("kind", .text kind), ("name", .text name), ("line", .whole line)]⟩

end PhpOutline
