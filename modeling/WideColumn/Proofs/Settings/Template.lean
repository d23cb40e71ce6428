import WideColumn.Proofs.Charset.Utf8
import WideColumn.Settings.Template

/-!
# What replacing references does

A text is made of literal stretches and references. Literal stretches are copied, each reference is
replaced by what it stands for, and what replaces it is not looked at again, whatever it contains.
In nested values nothing but texts changes: every place holds what it held, and every text in it is
replaced on its own.
-/
namespace WideColumn

/-! ## Texts made of literals and references -/

/-- What opens a reference: a dollar sign and a brace. -/
def Text.opening : Text := [.ofNat 36, .ofNat 123]

/-- A stretch of text that opens no reference. -/
def Text.IsLiteral (text : Text) : Prop := ¬ Text.opening <:+: text

instance : DecidablePred Text.IsLiteral := fun text =>
  inferInstanceAs (Decidable (¬ Text.opening <:+: text))

namespace EnvReference

/-- A reference that can be written down and read back. -/
structure WellFormed (reference : EnvReference) : Prop where
  /-- Its name begins as names do, and goes on as names do. -/
  name : ∃ first others, reference.name = first :: others ∧ isNameStart first = true ∧
    ∀ c ∈ others, isNamePart c = true
  /-- Its fallback does not close it. -/
  fallback : ∀ fallback, reference.fallback = some fallback → ∀ c ∈ fallback, isClose c = false

/-- What stands for a reference: the value of its variable, even an empty one, if the variable is
set, or else its fallback if it has one, or else the reference itself. -/
inductive StandsFor (environment : Environment) (reference : EnvReference) : Text → Prop where
  /-- The variable is set. -/
  | variable {value : Text} (found : environment.lookup reference.name = some value) :
    StandsFor environment reference value
  /-- The variable is not set, and there is a fallback. -/
  | fallback {fallback : Text} (unset : environment.lookup reference.name = none)
    (given : reference.fallback = some fallback) : StandsFor environment reference fallback
  /-- The variable is not set, and there is no fallback. -/
  | itself (unset : environment.lookup reference.name = none) (bare : reference.fallback = none) :
    StandsFor environment reference reference.written

/-- A reference is replaced by what stands for it. -/
theorem StandsFor.resolve_eq {environment : Environment} {reference : EnvReference} {value : Text}
    (stands : StandsFor environment reference value) : reference.resolve environment = value := by
  cases stands with
  | «variable» found => simp [resolve, found]
  | fallback unset given => simp [resolve, unset, given]
  | itself unset bare => simp [resolve, unset, bare]

/-- What a written reference goes on with after its name. -/
def tail (reference : EnvReference) : Text :=
  match reference.fallback with
  | none => [.ofNat 125]
  | some fallback => .ofNat 58 :: .ofNat 45 :: (fallback ++ [.ofNat 125])

/-- A reference is written as its opening, its name and its tail. -/
theorem written_eq (reference : EnvReference) :
    reference.written = Text.opening ++ (reference.name ++ reference.tail) := by
  rw [written, tail]
  cases reference.fallback with
  | none => rfl
  | some fallback =>
    simp only [List.append_assoc]
    rfl

/-- The tail of a reference begins with nothing that could continue its name. -/
theorem takeWhile_tail (reference : EnvReference) (after : Text) :
    (reference.tail ++ after).takeWhile isNamePart = [] := by
  rw [tail]
  cases reference.fallback <;> rfl

/-- Nor is anything of it skipped with its name. -/
theorem dropWhile_tail (reference : EnvReference) (after : Text) :
    (reference.tail ++ after).dropWhile isNamePart = reference.tail ++ after := by
  rw [tail]
  cases reference.fallback <;> rfl

/-- The tail of a reference is read up to the brace that closes it. -/
theorem ending?_tail {reference : EnvReference} (formed : reference.WellFormed) (after : Text) :
    ending? reference.name (reference.tail ++ after) = some (reference, after) := by
  obtain ⟨name, fallback⟩ := reference
  cases fallback with
  | none => rfl
  | some fallback =>
    have unclosed : ∀ c ∈ fallback, (!isClose c) = true := by
      simpa using formed.fallback fallback rfl
    have taken : (fallback ++ .ofNat 125 :: after).takeWhile (!isClose ·) = fallback := by
      rw [List.takeWhile_append_of_pos unclosed]
      exact List.append_nil _
    have dropped : (fallback ++ .ofNat 125 :: after).dropWhile (!isClose ·) =
        .ofNat 125 :: after := by
      rw [List.dropWhile_append_of_pos unclosed]
      rfl
    have spelled : tail ⟨name, some fallback⟩ ++ after =
        .ofNat 58 :: .ofNat 45 :: (fallback ++ .ofNat 125 :: after) := by
      simp [tail]
    rw [spelled, ending?]
    simp only [dropped, taken]
    rfl

/-- A written reference is read back, with what follows it. -/
theorem parse?_written {reference : EnvReference} (formed : reference.WellFormed) (after : Text) :
    parse? (reference.written ++ after) = some (reference, after) := by
  obtain ⟨first, others, spelled, start, parts⟩ := formed.name
  have taken : (others ++ (reference.tail ++ after)).takeWhile isNamePart = others := by
    rw [List.takeWhile_append_of_pos parts, takeWhile_tail, List.append_nil]
  have dropped : (others ++ (reference.tail ++ after)).dropWhile isNamePart =
      reference.tail ++ after := by
    rw [List.dropWhile_append_of_pos parts, dropWhile_tail]
  calc
    parse? (reference.written ++ after)
      = body? (first :: (others ++ (reference.tail ++ after))) := by
        rw [written_eq, spelled]
        simp only [List.append_assoc]
        rfl
    _ = ending? reference.name (reference.tail ++ after) := by
        rw [body?, if_pos start, taken, dropped, spelled]
    _ = some (reference, after) := ending?_tail formed after

/-- No reference begins inside a literal stretch, not even at a dollar sign that ends it, unless a
brace comes next. -/
theorem parse?_literal {c : CodePoint} {rest after : Text} (literal : Text.IsLiteral (c :: rest))
    (bounded : after.head? ≠ some (.ofNat 123)) : parse? (c :: (rest ++ after)) = none := by
  cases rest with
  | nil =>
    cases after with
    | nil => rfl
    | cons brace after =>
      have other : ¬ (c.val = 36 ∧ brace.val = 123) := by
        rintro ⟨_, same⟩
        exact bounded (congrArg some (Charset.ofNat_val brace same.symm).symm)
      exact if_neg other
  | cons brace rest =>
    have other : ¬ (c.val = 36 ∧ brace.val = 123) := by
      rintro ⟨dollar, same⟩
      rw [← Charset.ofNat_val c dollar.symm, ← Charset.ofNat_val brace same.symm] at literal
      exact literal ⟨[], rest, rfl⟩
    exact if_neg other

end EnvReference

namespace Text

/-- A text of literal stretches with references between them, and what is to become of it. -/
inductive Filled (environment : Environment) : Text → Text → Prop where
  /-- A literal stretch stays as it is. -/
  | literal {stretch : Text} (literal : stretch.IsLiteral) : Filled environment stretch stretch
  /-- A reference after a literal stretch is replaced by what stands for it. -/
  | reference {stretch rest filled value : Text} {reference : EnvReference}
    (literal : stretch.IsLiteral) (formed : reference.WellFormed)
    (stands : reference.StandsFor environment value) (others : Filled environment rest filled) :
    Filled environment (stretch ++ (reference.written ++ rest)) (stretch ++ (value ++ filled))

section

variable {environment : Environment}

/-- There is nothing to replace in the empty text. -/
theorem expand_nil : expand environment [] = [] := by
  rw [expand]
  rfl

/-- A reference at the beginning of a text is replaced. -/
theorem expand_of_parse? {text after : Text} {reference : EnvReference}
    (found : EnvReference.parse? text = some (reference, after)) :
    text.expand environment = reference.resolve environment ++ after.expand environment := by
  rw [expand]
  split
  · next other rest same =>
    cases found.symm.trans same
    rfl
  · next none => cases found.symm.trans none

/-- Where no reference begins, a code point is copied. -/
theorem expand_cons {c : CodePoint} {rest : Text} (plain : EnvReference.parse? (c :: rest) = none) :
    expand environment (c :: rest) = c :: expand environment rest := by
  rw [expand]
  split
  · next found => cases plain.symm.trans found
  · rfl

/-- By induction on a literal stretch: it is copied, up to whatever follows it. -/
theorem expand_literal {stretch after : Text} (literal : stretch.IsLiteral)
    (bounded : after.head? ≠ some (.ofNat 123)) :
    (stretch ++ after).expand environment = stretch ++ after.expand environment := by
  induction stretch with
  | nil => rfl
  | cons c rest ih =>
    have shorter : IsLiteral rest := fun opened =>
      literal (opened.trans (List.suffix_cons c rest).isInfix)
    rw [List.cons_append, expand_cons (EnvReference.parse?_literal literal bounded), ih shorter]
    rfl

/-- By induction on the stretches: every reference is replaced once, and everything else is
copied. -/
theorem expand_filled {text filled : Text} (fills : Filled environment text filled) :
    text.expand environment = filled := by
  induction fills with
  | literal literal =>
    have copied : expand environment (_ ++ []) = _ ++ expand environment [] :=
      expand_literal literal nofun
    simpa only [List.append_nil, expand_nil] using copied
  | @reference stretch rest filled value reference literal formed stands others ih =>
    have bounded : (reference.written ++ rest).head? ≠ some (.ofNat 123) := by
      rw [EnvReference.written_eq]
      simp [opening, CodePoint.ofNat]
    rw [expand_literal literal bounded, expand_of_parse? (EnvReference.parse?_written formed rest),
      stands.resolve_eq, ih]

end

end Text
/-! ## Nested values -/

namespace Value

/-- The part of a nested value at a place, which is the position in each list or mapping on the way
to it. -/
def part? (value : Value) : List Nat → Option Value
  | [] => some value
  | position :: place =>
    match value with
    | .list items => items[position]?.bind fun item => item.part? place
    | .mapping entries => entries[position]?.bind fun entry => entry.2.part? place
    | _ => Option.none

/-- Several values are expanded one by one. -/
theorem expandAll_eq_map (environment : Environment) (items : List Value) :
    expandAll environment items = items.map (expand environment) := by
  induction items with
  | nil => rfl
  | cons item rest ih => rw [expandAll, ih, List.map_cons]

/-- The values of a mapping are expanded one by one, under the same keys. -/
theorem expandEntries_eq_map (environment : Environment) (entries : List (Text × Value)) :
    expandEntries environment entries =
      entries.map fun entry => (entry.1, entry.2.expand environment) := by
  induction entries with
  | nil => rfl
  | cons entry rest ih =>
    obtain ⟨key, item⟩ := entry
    rw [expandEntries, ih, List.map_cons]

/-- By induction on the place: what stands there is expanded. -/
theorem part?_expand (environment : Environment) (value : Value) (place : List Nat) :
    (value.expand environment).part? place = (value.part? place).map (expand environment) := by
  induction place generalizing value with
  | nil => rfl
  | cons position place ih =>
    cases value with
    | list items =>
      simp only [expand, part?, expandAll_eq_map, List.getElem?_map]
      cases items[position]? with
      | none => rfl
      | some item => exact ih item
    | mapping entries =>
      simp only [expand, part?, expandEntries_eq_map, List.getElem?_map]
      cases entries[position]? with
      | none => rfl
      | some entry => exact ih entry.2
    | _ => rfl

/-- How a nested value and what it is replaced by are related. -/
structure Substitutes (environment : Environment) (value replaced : Value) : Prop where
  /-- Both have the same places. -/
  places (place : List Nat) : (replaced.part? place).isSome = (value.part? place).isSome
  /-- A list stays a list of the same length. -/
  lists {place : List Nat} {items : List Value} (here : value.part? place = some (.list items)) :
    ∃ others, replaced.part? place = some (.list others) ∧ others.length = items.length
  /-- A mapping stays a mapping with the same keys in the same order. -/
  mappings {place : List Nat} {entries : List (Text × Value)}
    (here : value.part? place = some (.mapping entries)) :
    ∃ others, replaced.part? place = some (.mapping others) ∧
      others.map Prod.fst = entries.map Prod.fst
  /-- A text stays a text, and it is expanded on its own. -/
  texts {place : List Nat} {text : Text} (here : value.part? place = some (.text text)) :
    replaced.part? place = some (.text (text.expand environment))
  /-- Everything else stays as it is. -/
  others {place : List Nat} {part : Value} (here : value.part? place = some part)
    (nested : ∀ items, part ≠ .list items) (keyed : ∀ entries, part ≠ .mapping entries)
    (spelled : ∀ text, part ≠ .text text) : replaced.part? place = some part
  /-- In a text of literal stretches and references, each reference is replaced once by what stands
  for it, and all else is copied. -/
  filled {text filled : Text} (fills : Text.Filled environment text filled) :
    text.expand environment = filled

/-- Replacing the references in a nested value changes its texts and nothing else. -/
theorem expand_substitutes (environment : Environment) (value : Value) :
    Substitutes environment value (value.expand environment) := by
  refine ⟨fun place => ?places, fun here => ?lists, fun here => ?mappings, fun here => ?texts,
    fun {_ part} here nested keyed spelled => ?others, Text.expand_filled⟩
  all_goals rw [part?_expand]
  case places => exact Option.isSome_map
  all_goals rw [here]
  case lists => exact ⟨_, rfl, by rw [expandAll_eq_map, List.length_map]⟩
  case mappings =>
    refine ⟨_, rfl, ?_⟩
    rw [expandEntries_eq_map, List.map_map]
    rfl
  case texts => rfl
  case others =>
    cases part with
    | list items => exact absurd rfl (nested items)
    | mapping entries => exact absurd rfl (keyed entries)
    | text text => exact absurd rfl (spelled text)
    | _ => rfl

/-- An environment with one variable, whose value looks like a reference. -/
def nestingEnvironment : Environment := [("HOME", "$\x7bPORT\x7d")]

/-- A dollar sign in front of a reference is copied, a value that looks like a reference is not
replaced again, an empty fallback stands in, and a reference to nothing stays. -/
theorem expand_substitutes_ofNesting :
    (Value.string "$$\x7bHOME\x7d-$\x7bPORT:-\x7d$\x7bKEY\x7d").expand nestingEnvironment =
      .string "$$\x7bPORT\x7d-$\x7bKEY\x7d" := by
  have home : EnvReference.WellFormed ⟨"HOME", Option.none⟩ :=
    ⟨⟨_, _, rfl, rfl, by decide⟩, nofun⟩
  have port : EnvReference.WellFormed ⟨"PORT", some []⟩ :=
    ⟨⟨_, _, rfl, rfl, by decide⟩, by simp⟩
  have key : EnvReference.WellFormed ⟨"KEY", Option.none⟩ :=
    ⟨⟨_, _, rfl, rfl, by decide⟩, nofun⟩
  have nothing : Text.IsLiteral [] := by decide
  have dollar : Text.IsLiteral "$" := by decide
  have dash : Text.IsLiteral "-" := by decide
  have fills : Text.Filled nestingEnvironment _ _ := .reference dollar home (.variable rfl)
    (.reference dash port (.fallback rfl rfl)
      (.reference nothing key (.itself rfl rfl) (.literal nothing)))
  exact congrArg Value.text ((expand_substitutes nestingEnvironment (.string
    "$$\x7bHOME\x7d-$\x7bPORT:-\x7d$\x7bKEY\x7d")).filled fills)

end Value
end WideColumn
