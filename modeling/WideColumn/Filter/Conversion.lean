import WideColumn.Filter.Basic

/-!
# Converting filters

A filter becomes a filter of the store part by part, and a list fails as a whole with the first
failure among its members. Every regular expression goes through the store's text constructor and
then gets its raw bytes written over the reference, by way of the patch point.
-/
namespace WideColumn

/-- The place at which raw bytes are written into a store comparator. -/
structure PatchPoint where
  /-- The class that is asked for the field. -/
  owner : Patch.Owner
  /-- The name of the field. -/
  field : Text

/-- The patch point of the store. -/
def PatchPoint.standard : PatchPoint := ⟨.comparable, "_value"⟩

namespace Comparator

/-- A store comparator that matches the raw bytes of a pattern. -/
def convertRegex (point : PatchPoint) (filterKind : Bytes) (forms : PatternForms) :
    Except Error Store.Comparator := do
  let built ← Store.Comparator.ofRegex (.text forms.text)
  let recorded := built.setCharset (.string forms.charset)
  let patched ←
    Patch.inject (.comparator recorded) (.raw forms.raw) filterKind point.owner point.field
  match patched with
  | .comparator comparator => return comparator
  | .other _ => return recorded

/-- The store comparator of a comparator, inside a filter of the given kind. -/
def convert (point : PatchPoint) (filterKind : Bytes) :
    Comparator → Except Error Store.Comparator
  | binary value => .ok (.binary value)
  | binaryPrefix value => .ok (.binaryPrefix value)
  | substring value => Store.Comparator.ofSubstring value
  | regex forms => convertRegex point filterKind forms

end Comparator

namespace Filter

/-- The bytes of a kind name. -/
def kindBytes (name : String) : Bytes := Charset.asciiBytes name

mutual

/-- The store filter of a filter. -/
def convert (point : PatchPoint) : Filter → Except Error Store.Filter
  | compare component op comparator => do
    return .compare component op
      (← comparator.convert point (kindBytes component.filterName))
  | columnPrefix reference => .ok (.columnPrefix (.raw reference))
  | columnRange start startInclusive stop stopInclusive =>
    .ok (.columnRange start startInclusive stop stopInclusive)
  | keyOnly => .ok .keyOnly
  | firstKeyOnly => .ok .firstKeyOnly
  | list operator members => do return .list operator (← convertAll point members)
  | keyRegexp forms => do
    return .compare .row .equal
      (← Comparator.convertRegex point (kindBytes "RowFilter") forms)
  | inconvertible _ _ failure => .error failure

/-- The store filters of several filters. -/
def convertAll (point : PatchPoint) : List Filter → Except Error (List Store.Filter)
  | [] => .ok []
  | member :: rest => do
    let converted ← member.convert point
    return converted :: (← convertAll point rest)

end

/-- The store filter of a filter, by the patch point of the store. -/
def toStore (filter : Filter) : Except Error Store.Filter := filter.convert .standard

end Filter
end WideColumn
