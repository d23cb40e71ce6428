import WideColumn.Settings.Document
import WideColumn.Settings.Layers
import WideColumn.Settings.Schema
import WideColumn.Settings.Template

/-!
# Loading settings

Settings come from a file, and variables of the environment override it. Variables with the prefix
belong to other programs as well, so a section that only they could have meant is dropped with a
warning. Which names those are is decided by the names of the variables alone, after both sources
have been merged.

Reading the file and merging the variables into it is the work of another library. What it does is
given to `ofMerged` as its result, with names in capitals at the top. `layered` and `Document.read`
do the same for plain files and variables, so that settings can be loaded here; they know only part
of what that library does.
-/
namespace WideColumn.Settings

/-- The prefix of variables that hold settings. -/
def variablePrefix : Text := "ASYNCTABLE_"

/-- The name of the setting behind a variable, if it has the prefix. -/
def settingName? (variableName : Text) : Option Text :=
  if variablePrefix.isPrefixOf variableName then some (variableName.drop variablePrefix.length)
  else none

/-- The settings that the environment holds, in its order. -/
def variableLayer (environment : Environment) : Entries :=
  environment.filterMap fun (name, text) =>
    (settingName? name).map fun setting => (setting, Scalar.ofVariable text)

/-- The part of a name before the first two underscores. -/
def sectionPart : Text → Text
  | [] => []
  | [c] => [c]
  | c :: d :: rest =>
    if c.isUnderscore ∧ d.isUnderscore then [] else c :: sectionPart (d :: rest)

/-- Whether a name is the name of a section. -/
def isSection (name : Text) : Bool := sections.any fun known => Text.ofString known == name

/-- The names that variables give to what is no section. -/
def strayNames (environment : Environment) : List Text :=
  let named := environment.filterMap fun (name, _) => settingName? name
  let nonempty := named.filter fun name => !name.isEmpty
  (nonempty.map fun name => (sectionPart name).lower).filter fun name => !isSection name

/-- Names that steer the loading itself and are no settings. -/
def reservedNames : List String := ["LOAD_DOTENV", "ENVIRONMENTS", "SETTINGS_FILES"]

/-- Whether a name steers the loading. -/
def isReserved (name : Text) : Bool := reservedNames.any fun known => Text.ofString known == name

/-- Merged settings without what steers the loading, with names in lower case. -/
def lowered (merged : Entries) : Entries :=
  Value.lowerEntries (merged.filter fun entry => !isReserved entry.1) []

/-- Whether a text comes before another or is the same, code point by code point. -/
def notAfter (a b : Text) : Bool := compareOfLessAndEq (a.map (·.val)) (b.map (·.val)) != .gt

/-- The names of sections that are dropped. -/
def ignored (environment : Environment) (entries : Entries) : List Text :=
  let stray := strayNames environment
  ((entries.map (·.1)).filter stray.contains).mergeSort notAfter

/-- The warning about sections that are dropped. -/
def ignoring (names : List Text) : Log.Event :=
  .plain "asynctable.core.config" .warning
    "Ignoring environment variables outside known sections"
    [("sections", .list (names.map Value.text))]

/-- The settings that a file and an environment have once they are merged, with the warnings on the
way. -/
def ofMerged (merged : Entries) (environment : Environment) :
    Except Error Settings × List Log.Event :=
  let entries := lowered merged
  let dropped := ignored environment entries
  let warnings := if dropped.isEmpty then [] else [ignoring dropped]
  let kept := entries.filter fun entry => !(strayNames environment).contains entry.1
  (ofEntries (Value.expandEntries environment kept), warnings)

/-- The settings of a file with those of the environment over them. -/
def layered (document : Entries) (environment : Environment) : Entries :=
  (Entries.assignAll [] document).assignAll (variableLayer environment)

/-- The settings of the text of a file and an environment, with the warnings on the way. -/
def loadText (file : Text) (environment : Environment) : Except Error Settings × List Log.Event :=
  match Document.read file with
  | .ok document => ofMerged (layered document environment) environment
  | .error error => (.error error, [])

end WideColumn.Settings
