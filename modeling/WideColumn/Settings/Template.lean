import WideColumn.Value.Basic

/-!
# References to the environment

A text in a settings file can refer to variables of the environment, with or without a text to fall
back on. A reference is replaced once: what comes out of it is not looked at again. A reference to a
variable that is not set and that has no fallback stays as it is, so that whoever checks the setting
shows it.
-/
namespace WideColumn

/-- Variables with their values, each name at most once. -/
abbrev Environment := List (Text × Text)

/-- A reference to a variable. -/
structure EnvReference where
  /-- The name of the variable. -/
  name : Text
  /-- What stands in for a variable that is not set. -/
  fallback : Option Text
deriving DecidableEq

namespace EnvReference

/-- The written form of a reference. -/
def written (reference : EnvReference) : Text :=
  match reference.fallback with
  | none => "$\x7b" ++ reference.name ++ "\x7d"
  | some fallback => "$\x7b" ++ reference.name ++ ":-" ++ fallback ++ "\x7d"

/-- What a reference stands for. -/
def resolve (environment : Environment) (reference : EnvReference) : Text :=
  ((environment.lookup reference.name).or reference.fallback).getD reference.written

/-- Whether a code point can begin the name of a variable: a capital or an underscore. -/
def isNameStart (c : CodePoint) : Bool := (65 ≤ c.val && c.val ≤ 90) || c.val = 95

/-- Whether a code point can continue the name of a variable. -/
def isNamePart (c : CodePoint) : Bool := isNameStart c || (48 ≤ c.val && c.val ≤ 57)

/-- Whether a code point is the closing brace. -/
def isClose (c : CodePoint) : Bool := c.val = 125

/-- The end of a reference after its name: the closing brace, or a fallback and then the brace. -/
def ending? (name rest : Text) : Option (EnvReference × Text) :=
  match rest with
  | [] => none
  | c :: rest =>
    if isClose c then some (⟨name, none⟩, rest)
    else
      match rest with
      | dash :: rest =>
        if c.val = 58 ∧ dash.val = 45 then
          match rest.dropWhile (!isClose ·) with
          | [] => none
          | _ :: after => some (⟨name, some (rest.takeWhile (!isClose ·))⟩, after)
        else none
      | [] => none

/-- A reference after its opening, with what follows it. -/
def body? (text : Text) : Option (EnvReference × Text) :=
  match text with
  | [] => none
  | c :: rest =>
    if isNameStart c then ending? (c :: rest.takeWhile isNamePart) (rest.dropWhile isNamePart)
    else none

/-- A reference at the beginning of a text, with what follows it. -/
def parse? (text : Text) : Option (EnvReference × Text) :=
  match text with
  | dollar :: brace :: rest => if dollar.val = 36 ∧ brace.val = 123 then body? rest else none
  | _ => none

/-- The end of a reference takes up at least one code point. -/
theorem length_of_ending? {name rest after : Text} {reference : EnvReference}
    (h : ending? name rest = some (reference, after)) : after.length < rest.length := by
  unfold ending? at h
  split at h
  · simp at h
  · next c rest =>
    split at h
    · simp only [Option.some.injEq, Prod.mk.injEq] at h
      simp [h.2]
    · split at h
      · next dash rest =>
        split at h
        · split at h
          · simp at h
          · next found =>
            simp only [Option.some.injEq, Prod.mk.injEq] at h
            have bound := (List.dropWhile_suffix (l := rest) (!isClose ·)).length_le
            rw [found, h.2] at bound
            simp only [List.length_cons] at bound ⊢
            omega
        · simp at h
      · simp at h

/-- What follows a reference is shorter than what began with it. -/
theorem length_of_parse? {text after : Text} {reference : EnvReference}
    (h : parse? text = some (reference, after)) : after.length < text.length := by
  unfold parse? at h
  split at h
  · next rest =>
    split at h
    · unfold body? at h
      split at h
      · simp at h
      · next c rest =>
        split at h
        · have shorter := length_of_ending? h
          have bound := (List.dropWhile_suffix (l := rest) isNamePart).length_le
          simp only [List.length_cons]
          omega
        · simp at h
    · simp at h
  · simp at h

end EnvReference

/-- Replace the references in a text, from left to right. -/
def Text.expand (environment : Environment) (text : Text) : Text :=
  match h : EnvReference.parse? text with
  | some (reference, after) =>
    have := EnvReference.length_of_parse? h
    reference.resolve environment ++ expand environment after
  | none =>
    match text with
    | [] => []
    | c :: rest => c :: expand environment rest
termination_by text.length

namespace Value

mutual

/-- Replace the references in every text of a nested value. Keys are not looked at. -/
def expand (environment : Environment) : Value → Value
  | .text content => .text (content.expand environment)
  | .list items => .list (expandAll environment items)
  | .mapping entries => .mapping (expandEntries environment entries)
  | other => other

/-- Replace the references in several values. -/
def expandAll (environment : Environment) : List Value → List Value
  | [] => []
  | item :: rest => item.expand environment :: expandAll environment rest

/-- Replace the references in the values of a mapping. -/
def expandEntries (environment : Environment) : List (Text × Value) → List (Text × Value)
  | [] => []
  | (key, item) :: rest => (key, item.expand environment) :: expandEntries environment rest

end

end Value
end WideColumn
