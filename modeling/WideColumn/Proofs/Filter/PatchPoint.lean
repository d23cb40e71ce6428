import WideColumn.Proofs.Filter.Patterns

/-!
# When the patch point breaks

The raw bytes of a pattern can only be written by way of the patch point. If the field is missing or
refuses the write, no pattern is converted, and neither is any filter that holds one at whatever
depth: conversion goes through the parts of a filter from left to right and ends at the first part
that fails. A filter without patterns does not depend on the patch point.
-/
namespace WideColumn

/-- How a patch point can be broken, the reason that conversion gives and the cause of it. -/
inductive PatchPoint.Breaks (point : PatchPoint) : PatchFailure → Error → Prop where
  /-- The class does not declare the field. -/
  | missing (absent : point.owner.declares point.field = none) :
    Breaks point .missingField (.access (.noField point.owner.name point.field))
  /-- The field cannot be written. -/
  | refusing (sealed : point.owner.declares point.field = some .property) :
    Breaks point .accessDenied
      (.access (.noSetter ((point.field.toString?).getD "") "RegexStringComparator"))

namespace Filter

/-! ## Parts -/

mutual

/-- The parts of a filter that are no lists, from left to right. -/
def leaves : Filter → List Filter
  | list _ members => leavesOf members
  | leaf => [leaf]

/-- The parts of several filters that are no lists, from left to right. -/
def leavesOf : List Filter → List Filter
  | [] => []
  | member :: rest => leaves member ++ leavesOf rest

end

/-- The pattern that a filter holds itself. -/
def pattern? : Filter → Option PatternForms
  | compare _ _ (.regex forms) | keyRegexp forms => some forms
  | _ => none

/-- Whether a filter holds a pattern at some depth. -/
def HoldsPattern (filter : Filter) : Prop := ∃ leaf ∈ filter.leaves, leaf.pattern?.isSome = true

/-- Whether the texts of all patterns have a UTF-8 form. -/
def PatternsEncodable (filter : Filter) : Prop :=
  ∀ leaf ∈ filter.leaves, ∀ forms ∈ leaf.pattern?, forms.text.IsOfCharacters

/-- What ends the conversion of a filter when the patch point is broken. -/
inductive StopsAt (reason : PatchFailure) (cause : Error) (filter : Filter) : Error → Prop where
  /-- It is a part that holds a pattern, after others that are converted and hold none. -/
  | pattern {before after : List Filter} {leaf : Filter}
    (split : filter.leaves = before ++ leaf :: after)
    (passed : ∀ earlier ∈ before, earlier.pattern? = none ∧
      ∃ converted, earlier.toStore = .ok converted)
    (holds : leaf.pattern?.isSome = true) :
    StopsAt reason cause filter (.filterConversion (kindBytes leaf.kindName) reason (some cause))
  /-- It is a part without a pattern that could not be converted anyway. -/
  | other {before after : List Filter} {leaf : Filter} {error : Error}
    (split : filter.leaves = before ++ leaf :: after)
    (passed : ∀ earlier ∈ before, earlier.pattern? = none ∧
      ∃ converted, earlier.toStore = .ok converted)
    (plain : leaf.pattern? = none) (fails : leaf.toStore = .error error) :
    StopsAt reason cause filter error

/-! ## Conversion from left to right -/

mutual

/-- By recursion on the filter: it fails as the first of its parts that fails. -/
theorem failure?_convert (point : PatchPoint) (filter : Filter) :
    Except.failure? (filter.convert point) =
      filter.leaves.findSome? fun leaf => Except.failure? (leaf.convert point) := by
  cases filter with
  | list operator members =>
    rw [convert, Except.failure?_bind_pure, leaves, failure?_convertAll]
  | _ => simp [leaves]

/-- Several filters fail as the first of all their parts that fails. -/
theorem failure?_convertAll (point : PatchPoint) (members : List Filter) :
    Except.failure? (convertAll point members) =
      (leavesOf members).findSome? fun leaf => Except.failure? (leaf.convert point) := by
  cases members with
  | nil => rfl
  | cons member rest =>
    rw [convertAll, Except.failure?_bind_bind, leavesOf, List.findSome?_append,
      failure?_convert point member, failure?_convertAll point rest]

end

mutual

/-- A part of a filter has no parts but itself. -/
theorem leaves_of_mem {leaf filter : Filter} (among : leaf ∈ filter.leaves) :
    leaf.leaves = [leaf] := by
  cases filter with
  | list operator members => exact @leaves_of_mem_all _ members among
  | _ =>
    obtain rfl := List.mem_singleton.1 among
    rfl

/-- A part of one of several filters has no parts but itself. -/
theorem leaves_of_mem_all {leaf : Filter} {members : List Filter} (among : leaf ∈ leavesOf members) :
    leaf.leaves = [leaf] := by
  cases members with
  | nil => cases among
  | cons member rest =>
    rcases List.mem_append.1 among with here | later
    · exact leaves_of_mem here
    · exact leaves_of_mem_all later

end

/-! ## Parts without patterns -/

mutual

/-- By recursion on the filter: without patterns it is converted by way of any patch point as by way
of that of the store. -/
theorem convert_of_plain (point : PatchPoint) {filter : Filter}
    (plain : ∀ leaf ∈ filter.leaves, leaf.pattern? = none) :
    filter.convert point = filter.toStore := by
  cases filter with
  | compare component op comparator =>
    cases comparator with
    | regex forms => cases plain _ (List.mem_singleton.2 rfl)
    | _ => rfl
  | keyRegexp forms => cases plain _ (List.mem_singleton.2 rfl)
  | list operator members =>
    rw [toStore, convert, convert, convertAll_of_plain point plain]
  | _ => rfl

/-- Several filters without patterns are converted as by way of the patch point of the store. -/
theorem convertAll_of_plain (point : PatchPoint) {members : List Filter}
    (plain : ∀ leaf ∈ leavesOf members, leaf.pattern? = none) :
    convertAll point members = convertAll .standard members := by
  cases members with
  | nil => rfl
  | cons member rest =>
    obtain ⟨here, later⟩ := List.forall_mem_append.1 plain
    have first : member.convert point = member.convert .standard := convert_of_plain point here
    rw [convertAll, convertAll, first, convertAll_of_plain point later]

end

/-! ## Parts with patterns -/

variable {point : PatchPoint} {reason : PatchFailure} {cause : Error}

/-- By way of a broken patch point no pattern is converted, although its text is taken. -/
theorem convertRegex_broken (breaks : point.Breaks reason cause) (kind : Bytes)
    {forms : PatternForms} (encodable : forms.text.IsOfCharacters) :
    Comparator.convertRegex point kind forms =
      .error (.filterConversion kind reason (some cause)) := by
  obtain ⟨data, taken⟩ := Store.Comparator.encodeText_characters encodable
  have refused (target : Store.Comparator) (regex : target.className = "RegexStringComparator") :
      Patch.inject (.comparator target) (.raw forms.raw) kind point.owner point.field =
        .error (.filterConversion kind reason (some cause)) := by
    cases breaks with
    | missing absent => rw [Patch.inject, absent]
    | refusing sealed =>
      rw [Patch.inject, sealed]
      simp only [Value.toBytes, Patch.write, Patch.Target.className, regex]
      rfl
  rw [Comparator.convertRegex, Store.Comparator.ofRegex_text, taken]
  refine Except.bind_eq_error.2 (.inr ⟨_, rfl, ?_⟩)
  exact Except.bind_eq_error.2 (.inl (refused (.regex data (.string forms.charset) .empty) rfl))

/-- By way of a broken patch point a part that holds a pattern fails under its own kind. -/
theorem convert_of_pattern (breaks : point.Breaks reason cause) {leaf : Filter}
    {forms : PatternForms} (holds : leaf.pattern? = some forms)
    (encodable : forms.text.IsOfCharacters) :
    leaf.convert point =
      .error (.filterConversion (kindBytes leaf.kindName) reason (some cause)) := by
  cases leaf with
  | compare component op comparator =>
    cases comparator with
    | regex own =>
      obtain rfl := Option.some.inj holds
      rw [convert, Comparator.convert, convertRegex_broken breaks _ encodable]
      rfl
    | _ => cases holds
  | keyRegexp own =>
    obtain rfl := Option.some.inj holds
    rw [convert, convertRegex_broken breaks _ encodable]
    rfl
  | _ => cases holds

/-- By way of a broken patch point a filter that holds a pattern is not converted, and where the
conversion stops is told. -/
theorem convert_broken (breaks : point.Breaks reason cause) {filter : Filter}
    (encodable : filter.PatternsEncodable) (holds : filter.HoldsPattern) :
    ∃ error, filter.StopsAt reason cause error ∧ filter.convert point = .error error := by
  -- Parts without patterns do as they would with the patch point of the store.
  have plain_part {leaf : Filter} (among : leaf ∈ filter.leaves) (plain : leaf.pattern? = none) :
      leaf.convert point = leaf.toStore := by
    refine convert_of_plain point fun part among_parts => ?_
    rw [leaves_of_mem among, List.mem_singleton] at among_parts
    rw [among_parts, plain]
  have pattern_part {leaf : Filter} (among : leaf ∈ filter.leaves)
      (pattern : leaf.pattern?.isSome = true) :
      leaf.convert point =
        .error (.filterConversion (kindBytes leaf.kindName) reason (some cause)) := by
    obtain ⟨forms, own⟩ := Option.isSome_iff_exists.1 pattern
    exact convert_of_pattern breaks own (encodable leaf among forms own)
  have first := failure?_convert point filter
  cases outcome : filter.convert point with
  | ok converted =>
    rw [outcome, eq_comm] at first
    obtain ⟨leaf, among, pattern⟩ := holds
    have converts := List.findSome?_eq_none_iff.1 first leaf among
    rw [pattern_part among pattern] at converts
    cases converts
  | error error =>
    rw [outcome, eq_comm] at first
    obtain ⟨before, leaf, after, split, fails, converts⟩ := List.findSome?_eq_some_iff.1 first
    have fails := Except.failure?_eq_some.1 fails
    have among : leaf ∈ filter.leaves := split ▸ List.mem_append_right before List.mem_cons_self
    have passed : ∀ earlier ∈ before, earlier.pattern? = none ∧
        ∃ converted, earlier.toStore = .ok converted := by
      intro earlier listed
      have among : earlier ∈ filter.leaves := split ▸ List.mem_append_left _ listed
      obtain ⟨converted, done⟩ := Except.failure?_eq_none.1 (converts earlier listed)
      cases own : earlier.pattern? with
      | none => exact ⟨rfl, converted, plain_part among own ▸ done⟩
      | some forms =>
        rw [pattern_part among (Option.isSome_iff_exists.2 ⟨forms, own⟩)] at done
        cases done
    refine ⟨error, ?_, rfl⟩
    cases own : leaf.pattern? with
    | none => exact .other split passed own (plain_part among own ▸ fails)
    | some forms =>
      have pattern : leaf.pattern?.isSome = true := Option.isSome_iff_exists.2 ⟨forms, own⟩
      rw [pattern_part among pattern] at fails
      cases fails
      exact .pattern split passed pattern

end Filter

end WideColumn
