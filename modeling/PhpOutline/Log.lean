import PhpOutline.Text.Case

/-!
# Log records

What a program reports besides its output: a level, the name of an event and named values. Records
below a chosen level are left out. How the others are written, for readers or as JSON, is given from
outside.
-/

namespace PhpOutline.Log

open PhpOutline.Text

/-- How serious a record is. -/
inductive Level where
  | debug | info | warning | error | critical
  deriving DecidableEq, Repr

namespace Level

/-- The place of a level in the order of severity. -/
def rank : Level → Nat
  | .debug => 10
  | .info => 20
  | .warning => 30
  | .error => 40
  | .critical => 50

/-- The word for a level in a record. -/
def word : Level → String
  | .debug => "debug"
  | .info => "info"
  | .warning => "warning"
  | .error => "error"
  | .critical => "critical"

/-- The name of a level in settings. -/
def name : Level → String
  | .debug => "DEBUG"
  | .info => "INFO"
  | .warning => "WARNING"
  | .error => "ERROR"
  | .critical => "CRITICAL"

/-- The levels in the order of their names. -/
def all : List Level := [.critical, .debug, .error, .info, .warning]

/-- The level with a name, in upper or lower case. -/
def ofName? (name : String) : Option Level :=
  (uppered? name).bind fun upper => all.find? (·.name == upper)

/-- The level with a name, in upper or lower case; any other name means warning. -/
def ofName (name : String) : Level := (ofName? name).getD .warning

end Level

/-- A value in a record. -/
inductive Value where
  | none
  | flag (value : Bool)
  | whole (value : Int)
  | text (value : String)
  | list (items : List Value)
  | table (entries : List (String × Value))
  deriving Inhabited

/-- A record. -/
structure Record where
  level : Level
  event : String
  context : List (String × Value)

/-! ## Writing -/

/-- How a log is written: from which level on, and in which form. -/
structure Style where
  level : Level := .warning
  asJson : Bool := false
  deriving DecidableEq, Repr

/-- The text that a record adds to a log, where `render` writes a record as JSON or for readers. -/
def Style.write (style : Style) (render : (asJson : Bool) → Record → String) (r : Record) : String :=
  if style.level.rank ≤ r.level.rank then render style.asJson r ++ "\n" else ""

end PhpOutline.Log
