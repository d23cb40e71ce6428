import Mathlib.Data.List.Forall2

/-!
# Computations that may fail

A computation made of parts succeeds exactly if its parts do, one after another. So does one that is
done to every member of a list. If it fails, then as the first of its parts that fails.
-/
namespace WideColumn.Except

variable {ε α β γ : Type}

/-- Two computations in a row succeed exactly if both do. -/
theorem bind_eq_ok {first : Except ε α} {next : α → Except ε β} {result : β} :
    first >>= next = .ok result ↔ ∃ value, first = .ok value ∧ next value = .ok result := by
  cases first with
  | error fault => exact ⟨nofun, fun ⟨_, other, _⟩ => nomatch other⟩
  | ok value =>
    exact ⟨fun done => ⟨value, rfl, done⟩, fun ⟨_, same, done⟩ => Except.ok.inj same ▸ done⟩

/-- Two computations in a row fail exactly if the first one does, or the second one after it. -/
theorem bind_eq_error {first : Except ε α} {next : α → Except ε β} {fault : ε} :
    first >>= next = .error fault ↔
      first = .error fault ∨ ∃ value, first = .ok value ∧ next value = .error fault := by
  cases first with
  | error other =>
    exact ⟨fun failed => .inl (congrArg _ (Except.error.inj failed)), fun
      | .inl same => congrArg _ (Except.error.inj same)
      | .inr ⟨_, other, _⟩ => nomatch other⟩
  | ok value =>
    exact ⟨fun failed => .inr ⟨value, rfl, failed⟩, fun
      | .inl other => nomatch other
      | .inr ⟨_, same, failed⟩ => Except.ok.inj same ▸ failed⟩

/-- A converted result is there exactly if the result is. -/
theorem map_eq_ok {first : Except ε α} {convert : α → β} {result : β} :
    first.map convert = .ok result ↔ ∃ value, first = .ok value ∧ convert value = result := by
  cases first with
  | error fault => exact ⟨nofun, fun ⟨_, other, _⟩ => nomatch other⟩
  | ok value =>
    exact ⟨fun done => ⟨value, rfl, Except.ok.inj done⟩,
      fun ⟨_, same, done⟩ => Except.ok.inj same ▸ congrArg _ done⟩

/-- What is done to every member of a list succeeds exactly if it does for each. -/
theorem mapM_eq_ok {convert : α → Except ε β} {items : List α} {results : List β} :
    items.mapM convert = .ok results ↔
      List.Forall₂ (fun item result => convert item = .ok result) items results := by
  induction items generalizing results with
  | nil =>
    rw [List.mapM_nil, List.forall₂_nil_left_iff]
    exact ⟨fun done => (Except.ok.inj done).symm, congrArg Except.ok ∘ Eq.symm⟩
  | cons item rest ih =>
    simp only [List.mapM_cons, bind_eq_ok, ih, List.forall₂_cons_left_iff]
    constructor
    · rintro ⟨first, one, others, remaining, done⟩
      exact ⟨first, others, one, remaining, (Except.ok.inj done).symm⟩
    · rintro ⟨first, others, one, remaining, rfl⟩
      exact ⟨first, one, others, remaining, rfl⟩

/-- Whether all failures of a computation are of a kind. -/
def FailsAs (kind : ε → Prop) (outcome : Except ε α) : Prop :=
  ∀ fault, outcome = .error fault → kind fault

section FailsAs

variable {kind : ε → Prop}

/-- What succeeds does not fail at all. -/
theorem failsAs_ok (value : α) : FailsAs kind (.ok value : Except ε α) := nofun

/-- A failure of the kind is one. -/
theorem failsAs_error {fault : ε} (known : kind fault) :
    FailsAs kind (.error fault : Except ε α) := by
  rintro _ ⟨⟩
  exact known

/-- Two computations in a row fail as both do. -/
theorem FailsAs.bind {first : Except ε α} {next : α → Except ε β} (one : FailsAs kind first)
    (other : ∀ value, first = .ok value → FailsAs kind (next value)) :
    FailsAs kind (first >>= next) := by
  intro fault failed
  rcases bind_eq_error.1 failed with here | ⟨value, done, later⟩
  · exact one fault here
  · exact other value done fault later

/-- A converted result fails as the result does. -/
theorem FailsAs.map {first : Except ε α} (one : FailsAs kind first) (convert : α → β) :
    FailsAs kind (first.map convert) := by
  cases first with
  | ok value => exact failsAs_ok _
  | error fault => exact failsAs_error (one fault rfl)

/-- What is done to every member of a list fails as it does for each. -/
theorem FailsAs.mapM {convert : α → Except ε β} {items : List α}
    (each : ∀ item ∈ items, FailsAs kind (convert item)) : FailsAs kind (items.mapM convert) := by
  induction items with
  | nil => exact failsAs_ok _
  | cons item rest ih =>
    obtain ⟨here, later⟩ := List.forall_mem_cons.1 each
    rw [List.mapM_cons]
    exact here.bind fun _ _ => (ih later).bind fun _ _ => failsAs_ok _

end FailsAs

/-- The failure of a computation, if it fails. -/
def failure? : Except ε α → Option ε
  | .ok _ => none
  | .error fault => some fault

/-- There is a failure exactly if the computation fails with it. -/
theorem failure?_eq_some {outcome : Except ε α} {fault : ε} :
    failure? outcome = some fault ↔ outcome = .error fault := by
  cases outcome with
  | ok value => exact ⟨nofun, nofun⟩
  | error other => simp [failure?]

/-- There is no failure exactly if the computation succeeds. -/
theorem failure?_eq_none {outcome : Except ε α} :
    failure? outcome = none ↔ ∃ value, outcome = .ok value := by
  cases outcome with
  | ok value => exact ⟨fun _ => ⟨value, rfl⟩, fun _ => rfl⟩
  | error fault => exact ⟨nofun, nofun⟩

/-- Going on without another chance to fail changes nothing about failing. -/
theorem failure?_bind_pure {first : Except ε α} {next : α → β} :
    failure? (first >>= fun value => pure (next value)) = failure? first := by
  cases first <;> rfl

/-- Of two computations in a row the first that fails decides. -/
theorem failure?_bind_bind {first : Except ε α} {second : Except ε β} {join : α → β → γ} :
    failure? (first >>= fun one => second >>= fun other => pure (join one other)) =
      (failure? first).or (failure? second) := by
  cases first with
  | error fault => rfl
  | ok one => cases second <;> rfl

end WideColumn.Except
