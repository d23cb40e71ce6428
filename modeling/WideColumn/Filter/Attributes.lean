import WideColumn.Filter.Basic

/-!
# Filters never change

The fields and methods of filters and comparators by the names under which callers see them. Writing
to any of them after construction is refused, so is adding a new one, and so is any removal.
-/
namespace WideColumn

/-- What every filter has. -/
def Filter.commonAttributes : List String := ["name", "to_backend_filter"]

/-- The fields and methods of a filter of its own. -/
def Filter.ownAttributes : Filter → List String
  | compare .. => ["_op", "_comparator", "_backend_class", "op", "comparator"]
  | columnPrefix _ => ["_prefix"]
  | columnRange .. => ["_start", "_start_inclusive", "_stop", "_stop_inclusive"]
  | keyOnly | firstKeyOnly | inconvertible .. => []
  | list .. => ["_filters", "_operator", "filters", "operator"]
  | keyRegexp _ =>
    ["_regexp", "_regexp_string", "_charset", "get_regexp", "get_charset", "regexp_string"]

/-- The fields and methods of a comparator. -/
def Comparator.attributes : Comparator → List String
  | binary _ | binaryPrefix _ => ["_value", "value", "to_backend_comparator"]
  | substring _ => ["_substr", "substr", "to_backend_comparator"]
  | regex _ => ["_expr", "_expr_string", "_charset", "expr", "charset", "to_backend_comparator"]

/-- A change that is tried on a finished object. -/
inductive Change where
  /-- Write to an attribute. -/
  | set
  /-- Remove an attribute. -/
  | delete
deriving DecidableEq

/-- Why a change to an attribute of an object is refused. -/
def Change.refusal (change : Change) (type : String) (attributes : List String) (name : Text) :
    Error :=
  match change with
  | .delete => .access (.deleted type name)
  | .set =>
    if attributes.any fun known => Text.ofString known = name then .access (.reassigned type name)
    else .access (.absent type name)

/-- Why a change to a filter is refused. -/
def Filter.refuse (filter : Filter) (change : Change) (name : Text) : Error :=
  change.refusal filter.className (filter.ownAttributes ++ Filter.commonAttributes) name

/-- Why a change to a comparator is refused. -/
def Comparator.refuse (comparator : Comparator) (change : Change) (name : Text) : Error :=
  change.refusal comparator.className comparator.attributes name

end WideColumn
