import WideColumn.Text.Basic

/-!
# Issues with settings

Settings are checked as a whole: everything that is wrong is reported, each issue with the path to
the setting it is about.
-/
namespace WideColumn

/-- What can be wrong with one setting. -/
inductive SettingFault where
  /-- Nothing that stands for an integer. -/
  | noInteger
  /-- A text that is no integer. -/
  | unreadableInteger
  /-- An integer of more digits than are read, or a double beyond the machine integers. -/
  | oversizedInteger
  /-- A double with a fraction where an integer is expected. -/
  | fractional
  /-- An infinity or no number where an integer is expected. -/
  | notFinite
  /-- Nothing that stands for a number. -/
  | noNumber
  /-- A text that is no number. -/
  | unreadableNumber
  /-- Nothing that stands for a truth value. -/
  | noFlag
  /-- A text or number that is no truth value. -/
  | unreadableFlag
  /-- A text with surrogates where a number or a truth value is expected. -/
  | notUnicode
  /-- Not the name of a log level. -/
  | noLevel
  /-- No mapping where a section is expected. -/
  | noSection (model : String)
  /-- A number that must be above a bound and is not. -/
  | notAbove (bound : Int)
  /-- A number that must not be below a bound and is. -/
  | below (bound : Int)
  /-- A name that no setting has. -/
  | unknownName
  /-- A change of settings that never change. -/
  | frozen
  /-- A flush threshold that could never be reached. -/
  | unreachable (threshold capacity : Int)
deriving DecidableEq

namespace SettingFault

/-- The name of the kind of a fault. -/
def kind : SettingFault → String
  | noInteger => "int_type"
  | unreadableInteger => "int_parsing"
  | oversizedInteger => "int_parsing_size"
  | fractional => "int_from_float"
  | notFinite => "finite_number"
  | noNumber => "float_type"
  | unreadableNumber => "float_parsing"
  | noFlag => "bool_type"
  | unreadableFlag => "bool_parsing"
  | notUnicode => "string_unicode"
  | noLevel => "literal_error"
  | noSection _ => "model_type"
  | notAbove _ => "greater_than"
  | below _ => "greater_than_equal"
  | unknownName => "extra_forbidden"
  | frozen => "frozen_instance"
  | unreachable .. => "value_error"

/-- The message of a fault. -/
def message : SettingFault → Text
  | noInteger => "Input should be a valid integer"
  | unreadableInteger =>
    "Input should be a valid integer, unable to parse string as an integer"
  | oversizedInteger => "Unable to parse input string as an integer, exceeded maximum size"
  | fractional => "Input should be a valid integer, got a number with a fractional part"
  | notFinite => "Input should be a finite number"
  | noNumber => "Input should be a valid number"
  | unreadableNumber => "Input should be a valid number, unable to parse string as a number"
  | noFlag => "Input should be a valid boolean"
  | unreadableFlag => "Input should be a valid boolean, unable to interpret input"
  | notUnicode =>
    "Input should be a valid string, unable to parse raw data as a unicode string"
  | noLevel => "Input should be 'DEBUG', 'INFO', 'WARNING' or 'ERROR'"
  | noSection model => "Input should be a valid dictionary or instance of " ++ model
  | notAbove bound => "Input should be greater than " ++ Text.ofInt bound
  | below bound => "Input should be greater than or equal to " ++ Text.ofInt bound
  | unknownName => "Extra inputs are not permitted"
  | frozen => "Instance is frozen"
  | unreachable threshold capacity =>
    "Value error, flush_threshold (" ++ Text.ofInt threshold ++
      ") cannot exceed max_pending_writes (" ++ Text.ofInt capacity ++ ")"

end SettingFault

/-- One thing wrong with settings. -/
structure Issue where
  /-- The names that lead to the setting; a whole section has its own path. -/
  path : List Text
  /-- What is wrong. -/
  fault : SettingFault
deriving DecidableEq

/-- The same issue of a section inside other settings. -/
def Issue.within (name : Text) (issue : Issue) : Issue :=
  { issue with path := name :: issue.path }

end WideColumn
