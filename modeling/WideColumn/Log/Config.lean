import WideColumn.Error
import WideColumn.Settings.Basic
import WideColumn.Text.Capital

/-!
# What is logged

A configuration sets the least level that is printed and the form of the lines. It replaces the one
before it.
-/
namespace WideColumn.Log

/-- The configuration of logging. -/
structure Config where
  /-- The least level that is printed; none prints everything. -/
  threshold : Option Level
  /-- Whether each line is one JSON object. -/
  isJson : Bool

namespace Config

/-- Thresholds by their names in capitals. -/
def thresholds : List (String × Option Level) :=
  [("DEBUG", some .debug), ("INFO", some .info), ("WARNING", some .warning),
    ("WARN", some .warning), ("ERROR", some .error), ("CRITICAL", some .critical),
    ("FATAL", some .critical), ("NOTSET", none)]

/-- The configuration with a level by name, in any case. -/
def ofName (level : Value) (isJson : Bool) : Except Error Config :=
  match level with
  | .text name =>
    let capitals := name.upper
    match thresholds.find? fun (known, _) => Text.ofString known == capitals with
    | some (_, threshold) => .ok ⟨threshold, isJson⟩
    | none => .error (.access (.unknownLevel capitals))
  | other => .error (.misuse (.noAttribute other.typeName "upper"))

/-- The configuration that settings ask for. -/
def ofSettings (settings : LoggingSettings) : Config := ⟨some settings.level, settings.jsonOutput⟩

/-- The name of the threshold. -/
def levelName (config : Config) : String := (config.threshold.map Level.capitals).getD "NOTSET"

/-- Whether events of a level are printed. -/
def prints (config : Config) (level : Level) : Bool :=
  config.threshold.all fun threshold => threshold.rank ≤ level.rank

end Config
end WideColumn.Log
