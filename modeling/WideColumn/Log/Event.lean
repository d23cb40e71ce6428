import WideColumn.Value.Basic

/-!
# Log events

What happens is reported as events: a level, a fixed message and named fields. How an event is
written is decided elsewhere.
-/
namespace WideColumn.Log

/-- How severe an event is. -/
inductive Level where
  /-- Details of what goes on. -/
  | debug
  /-- Normal progress. -/
  | info
  /-- Something that a caller may want to know. -/
  | warning
  /-- A failure. -/
  | error
  /-- A failure that ends everything. -/
  | critical
deriving DecidableEq, Inhabited

/-- The printed name of a level. -/
def Level.name : Level → String
  | debug => "debug"
  | info => "info"
  | warning => "warning"
  | error => "error"
  | critical => "critical"

/-- The name of a level in settings. -/
def Level.capitals (level : Level) : String := level.name.toUpper

/-- All levels. -/
def Level.all : List Level := [.debug, .info, .warning, .error, .critical]

/-- Levels rise from details to failures. -/
def Level.rank : Level → Nat
  | debug => 10
  | info => 20
  | warning => 30
  | error => 40
  | critical => 50

/-- An event. -/
structure Event where
  /-- The logger that reports it. -/
  source : String
  /-- The level. -/
  level : Level
  /-- The message. -/
  message : Text
  /-- Named fields. -/
  fields : List (Text × Value)
  /-- Whether the error that led here is attached. -/
  withError : Bool

/-- An event without an attached error. -/
def Event.plain (source : String) (level : Level) (message : String)
    (fields : List (String × Value)) : Event :=
  ⟨source, level, message, fields.map fun (name, value) => (Text.ofString name, value), false⟩

/-- The same event with the error attached that led to it. -/
def Event.attached (event : Event) : Event := { event with withError := true }

/-- An event as a record: its message, its level and its fields. -/
def Event.inspect (event : Event) : Value :=
  let head : List (Text × Value) :=
    [("event", .text event.message), ("log_level", .string event.level.name)]
  let attached : List (Text × Value) := if event.withError then [("exc_info", .bool true)] else []
  .mapping (head ++ event.fields ++ attached)

end WideColumn.Log
