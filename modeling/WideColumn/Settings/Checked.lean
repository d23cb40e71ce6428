import WideColumn.Error
import WideColumn.Settings.Coercion

/-!
# Checking settings

Settings are read field by field. Whatever is wrong with one field does not keep the others from
being read, so the outcome is either all values or all issues, in the order of the fields, with
unknown names last.
-/
namespace WideColumn

/-- Named values in order. -/
abbrev Entries := List (Text × Value)

/-- A value, or all issues that stand in its way. -/
inductive Checked (α : Type) where
  /-- Everything is right. -/
  | valid (value : α)
  /-- Something is wrong. -/
  | flawed (issues : List Issue)

namespace Checked

instance : Applicative Checked where
  pure := .valid
  seq f a :=
    match f, a () with
    | .valid f, .valid a => .valid (f a)
    | .flawed issues, .valid _ => .flawed issues
    | .valid _, .flawed issues => .flawed issues
    | .flawed first, .flawed second => .flawed (first ++ second)

/-- A check of the values as a whole, made only if each of them is right. -/
def ensure (checked : Checked α) (fault? : α → Option SettingFault) : Checked α :=
  match checked with
  | .valid value =>
    match fault? value with
    | some fault => .flawed [⟨[], fault⟩]
    | none => .valid value
  | .flawed issues => .flawed issues

/-- The outcome of a section inside other settings. -/
def within (name : Text) : Checked α → Checked α
  | .valid value => .valid value
  | .flawed issues => .flawed (issues.map (Issue.within name))

/-- The outcome as a result of a model with a title. -/
def toExcept (title : String) : Checked α → Except Error α
  | .valid value => .ok value
  | .flawed issues => .error (.invalidSettings title issues)

end Checked

namespace Entries

/-- A field, which has a value of its own when it is absent. -/
def field (entries : Entries) (name : String) (read : Value → Except SettingFault α)
    (fallback : α) : Checked α :=
  match entries.lookup (Text.ofString name) with
  | none => .valid fallback
  | some value =>
    match read value with
    | .ok a => .valid a
    | .error fault => .flawed [⟨[name], fault⟩]

/-- A section, which has values of its own when it is absent. -/
def part (entries : Entries) (name model : String) (read : Entries → Checked α) (fallback : α) :
    Checked α :=
  match entries.lookup (Text.ofString name) with
  | none => .valid fallback
  | some (.mapping inner) => (read inner).within name
  | some _ => .flawed [⟨[name], .noSection model⟩]

/-- Refuse every name but the known ones. -/
def only (entries : Entries) (known : List String) : Checked Unit :=
  let names := known.map Text.ofString
  match entries.filter fun (name, _) => !names.contains name with
  | [] => .valid ()
  | unknown => .flawed (unknown.map fun (name, _) => ⟨[name], .unknownName⟩)

end Entries
end WideColumn
