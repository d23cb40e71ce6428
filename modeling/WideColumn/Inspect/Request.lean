import WideColumn.Execution
import WideColumn.Filter.Conversion
import WideColumn.Inspect.Store

/-!
# Filters, requests and results as records

The record of a filter has its texts and the parts of its comparator; the record of a request has
its fields, with its filter as text.
-/
namespace WideColumn

namespace Comparator

/-- The parts of a comparator. -/
def inspectEntries : Comparator → List (String × Value)
  | binary value | binaryPrefix value => [("comparator_value", .raw value)]
  | substring value => [("comparator_substr", value)]
  | regex forms =>
    [("comparator_expr", .raw forms.raw), ("comparator_charset", .string forms.charset)]

end Comparator

namespace Filter

/-- The parts of a filter that depend on its kind. -/
def ownEntries : Filter → List (String × Value)
  | keyRegexp forms =>
    [("regexp", .raw forms.raw), ("charset", .string forms.charset),
      ("regexp_string", .text forms.text)]
  | compare _ op comparator =>
    [("cmp_op", .string op.name), ("comparator", .text comparator.display)] ++
      comparator.inspectEntries
  | list operator members =>
    [("operator", .string operator.name), ("size", .int members.length)]
  | _ => []

/-- The parts of a filter. -/
def inspectEntries (filter : Filter) : List (String × Value) :=
  [("class", .string filter.className), ("name", .raw (kindBytes filter.kindName)),
    ("str", .text filter.display), ("repr", .text filter.display)] ++ filter.ownEntries

end Filter

/-- The fields of a choice of columns. -/
def Columns.inspectEntries (columns : Columns) : List (String × Value) :=
  [("family", .rawOption columns.family),
    ("qualifiers", .ofOption (fun names => .list (names.map .raw)) columns.qualifiers)]

namespace Request

/-- The field of a filter that may be absent. -/
def filterEntry (filter : Option Filter) : List (String × Value) :=
  [("filter", .ofOption (fun filter => .text filter.display) filter)]

/-- The fields of a request that depend on its kind. -/
def ownEntries : Request → List (String × Value)
  | get _ _ columns filter => columns.inspectEntries ++ filterEntry filter
  | put _ _ coordinate value | append _ _ coordinate value =>
    [("family", .raw coordinate.family), ("qualifier", .raw coordinate.qualifier),
      ("value", .raw value)]
  | delete _ _ columns => columns.inspectEntries
  | scan _ range columns filter limit =>
    [("start_key", .raw range.start), ("stop_key", .raw range.stop)] ++ columns.inspectEntries ++
      filterEntry filter ++ [("max_rows", .ofOption RowLimit.value limit)]

/-- The fields of a request. -/
def inspectEntries (request : Request) : List (String × Value) :=
  [("cls", .string request.className), ("kind", .string request.kind.name),
    ("is_write", .bool request.kind.isWrite), ("table", .raw request.table),
    ("key", .raw request.key)] ++ request.ownEntries

end Request

/-- What a request resolved with. -/
def Result.inspect : Result → Value
  | nothing => .none
  | cells found => Cell.inspectAll found
  | rows found => .list (found.map Cell.inspectAll)
  | value given => given

end WideColumn
