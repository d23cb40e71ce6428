import WideColumn.Settings.Checked
import WideColumn.Text.Capital

/-!
# Layers of settings

A later layer of settings overrides an earlier one name by name: where both have a mapping, the
mappings are merged; where both have a list, the later items follow the earlier; anywhere else the
later value counts. Names are the same when they differ in case only. A name can be a path, whose
parts are separated by two underscores or by a point.

This is how the library that merges settings goes about plain names and values. Its directives for
single values, such as those that ask for a merge or for none, are not here.
-/
namespace WideColumn

namespace Entries

/-- The name under which a mapping has an entry, whatever the case. -/
def spelling? (entries : Entries) (name : Text) : Option Text :=
  if entries.any fun (known, _) => known == name then some name
  else (entries.find? fun (known, _) => known.lower == name.lower).map (·.1)

/-- Give a name a value, in the place it has if it is there already. -/
def put (name : Text) (value : Value) : Entries → Entries
  | [] => [(name, value)]
  | (known, old) :: rest =>
    if known = name then (known, value) :: rest else (known, old) :: put name value rest

end Entries

namespace Value

mutual

/-- What stands where a value is laid over an earlier one. Of two mappings the new names come first,
then those that both have in the spelling of the earlier, then the names of the earlier alone. The
order shows in reports of unknown names. -/
def overlay (old : Value) : Value → Value
  | .mapping new =>
    match old with
    | .mapping known =>
      let merged := overlayEntries known new
      let fresh := new.filter fun (name, _) => (Entries.spelling? known name).isNone
      let kept := known.filter fun (name, _) => !merged.any fun (taken, _) => taken == name
      .mapping (fresh ++ merged ++ kept)
    | _ => .mapping new
  | .list new =>
    match old with
    | .list items => .list (items ++ new)
    | _ => .list new
  | other => other

/-- The entries that an earlier mapping has as well, under the names it has for them. -/
def overlayEntries (known : Entries) : List (Text × Value) → List (Text × Value)
  | [] => []
  | (name, value) :: rest =>
    let rest := overlayEntries known rest
    match Entries.spelling? known name with
    | Option.none => rest
    | some spelling => (spelling, overlay ((known.lookup spelling).getD .none) value) :: rest

end

/-- A value below a path of names. -/
def atPath (value : Value) : List Text → Value
  | [] => value
  | name :: rest => .mapping [(name, value.atPath rest)]

end Value

/-- Whether a code point is an underscore. -/
def CodePoint.isUnderscore (c : CodePoint) : Bool := c.val = 95

/-- The parts of a path in a name. -/
def Text.pathParts : Text → List Text
  | [] => [[]]
  | [c] => if c.val = 46 then [[], []] else [[c]]
  | c :: d :: rest =>
    if c.isUnderscore ∧ d.isUnderscore then [] :: pathParts rest
    else if c.val = 46 then [] :: pathParts (d :: rest)
    else
      match pathParts (d :: rest) with
      | [] => [[c]]
      | first :: others => (c :: first) :: others

namespace Entries

/-- Set what a name stands for, which may be a path. Names at the top are kept in capitals. -/
def assign (entries : Entries) (name : Text) (value : Value) : Entries :=
  match name.pathParts with
  | [] => entries
  | first :: rest =>
    let top := first.upper
    entries.put top (((entries.lookup top).getD .none).overlay (value.atPath rest))

/-- Set what several names stand for, one after another. -/
def assignAll (entries : Entries) (layer : List (Text × Value)) : Entries :=
  layer.foldl (fun entries (name, value) => entries.assign name value) entries

end Entries

namespace Value

mutual

/-- The same value with all names in lower case. Of two names that become one, the later has the
value and the earlier the place. -/
def lowerNames : Value → Value
  | .mapping entries => .mapping (lowerEntries entries [])
  | .list items => .list (lowerAll items)
  | other => other

/-- The same values with all names in lower case. -/
def lowerAll : List Value → List Value
  | [] => []
  | item :: rest => item.lowerNames :: lowerAll rest

/-- Add entries with names in lower case to those that are done. -/
def lowerEntries : List (Text × Value) → Entries → Entries
  | [], done => done
  | (name, value) :: rest, done => lowerEntries rest (done.put name.lower value.lowerNames)

end

end Value
end WideColumn
