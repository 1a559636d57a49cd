import PhpOutline.Text.Blank
import PhpOutline.Text.Lines

/-!
# Checks by the interpreter

The PHP interpreter can check a file without running it. Here is what is asked of it and what its
answer means; running it is left to the caller.
-/

namespace PhpOutline

open Text

/-- A call of the interpreter that checks a file. -/
structure CheckCall where
  interpreter : String := "php"
  path : String
  /-- The seconds to wait for an answer. -/
  timeout : Int := 60
  deriving DecidableEq, Repr

/-- The words of a call. -/
def CheckCall.words (call : CheckCall) : List String := [call.interpreter, "-l", call.path]

/-- What comes of a call. -/
inductive CheckOutcome where
  | finished (status : Int) (output errors : String)
  | notFound
  | timedOut
  deriving DecidableEq, Repr

/-- Why a file does not pass (`SourceValidationError`). -/
inductive CheckError where
  | notFound (interpreter : String)
  | timedOut (call : CheckCall)
  | rejected (path : String) (lines : List String)
  deriving DecidableEq, Repr

namespace CheckError

/-- The text of an error. -/
def message : CheckError → String
  | .notFound interpreter => s!"PHP executable '{interpreter}' not found on PATH"
  | .timedOut call => "PHP lint timed out: " ++ " ".intercalate call.words
  | .rejected path lines =>
    s!"The file '{path}' could not be interpreted as it contains errors: " ++ "\n".intercalate lines

/-- The lines that the interpreter reports. -/
def lines : CheckError → List String
  | .rejected _ lines => lines
  | _ => []

end CheckError

/-- The lines of what the interpreter writes that are not blank. -/
def reportedLines (output errors : String) : List String :=
  ((Text.lines (output ++ errors).toList).filter fun line => !line.all isBlank).map String.ofList

/-- Why a file does not pass, by the outcome of a call (`lint_source`). Any status other than zero
    rejects it. -/
def CheckCall.error? (call : CheckCall) : CheckOutcome → Option CheckError
  | .notFound => some (.notFound call.interpreter)
  | .timedOut => some (.timedOut call)
  | .finished status output errors =>
    if status = 0 then none else some (.rejected call.path (reportedLines output errors))

end PhpOutline
