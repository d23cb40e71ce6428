import Mathlib.Data.List.Forall2
import Mathlib.Order.Bounds.Basic
import WideColumn.Proofs.Execution
import WideColumn.Retry

/-!
# Attempts at a call

A call is tried until an attempt is answered, until it fails in a way that is not worth another
attempt, or until the attempts that the policy allows are used up, whichever comes first. Between
two attempts the failure is reported once and one pause is made. What the surroundings do besides
has no part in this, so it is told over any surroundings whose call has given outcomes, from the
record of what is done.
-/
namespace WideColumn.Retry

variable {σ α : Type} {transient : Error → Bool} {around : Surroundings σ α} {state next : σ}
  {outcome : Except Error α} {error : Error}

/-! ## One attempt -/

/-- A retried call without a transient failure ends with its first attempt. -/
theorem attempts_final (called : around.call state = (outcome, next))
    (final : ∀ error, outcome = .error error → transient error = false) (further attempt : Nat) :
    attempts transient around further attempt state = (outcome, next) := by
  unfold attempts
  rw [called]
  cases outcome with
  | ok value => rfl
  | error error =>
    have lasting := final error rfl
    simp [judge, lasting]

/-- A retried call whose last attempt fails gives up. -/
theorem attempts_last (called : around.call state = (.error error, next))
    (passes : transient error = true) (attempt : Nat) :
    attempts transient around 0 attempt state =
      (.error (exhaust attempt error), (around.choose attempt next).2) := by
  unfold attempts
  rw [called]
  simp [judge, passes]

/-- A retried call with attempts left goes on after a pause. -/
theorem attempts_again (called : around.call state = (.error error, next))
    (passes : transient error = true) (further attempt : Nat) :
    attempts transient around (further + 1) attempt state =
      attempts transient around further (attempt + 1)
        (around.sleep (around.choose attempt next).1
          (around.report attempt error (around.choose attempt next).2)) := by
  rw [attempts, called]
  simp [judge, passes]

/-! ## What is done -/

/-- Something that is done for a retried call. -/
inductive Deed where
  /-- The call is made. -/
  | called
  /-- A failed attempt is reported. -/
  | reported (attempt : Nat) (failure : Error)
  /-- A pause is made. -/
  | slept (length : Number)

/-- The same surroundings with a record of what is done. -/
def Surroundings.recorded (around : Surroundings σ α) : Surroundings (σ × List Deed) α where
  call := fun (state, deeds) =>
    let (outcome, next) := around.call state
    (outcome, next, deeds ++ [.called])
  choose := fun attempt (state, deeds) =>
    let (length, next) := around.choose attempt state
    (length, next, deeds)
  report := fun attempt failure (state, deeds) =>
    (around.report attempt failure state, deeds ++ [.reported attempt failure])
  sleep := fun length (state, deeds) => (around.sleep length state, deeds ++ [.slept length])

/-- A call has given outcomes, one for each attempt, whatever is done in between. A state tells how
many attempts were made. -/
structure Surroundings.Follows (around : Surroundings σ α) (outcomes : Nat → Except Error α)
    (made : σ → Nat) : Prop where
  /-- The next attempt has the next outcome. -/
  outcome : ∀ state, (around.call state).1 = outcomes (made state + 1)
  /-- A call is one attempt more. -/
  call : ∀ state, made (around.call state).2 = made state + 1
  /-- The choice of a pause is no attempt. -/
  choose : ∀ attempt state, made (around.choose attempt state).2 = made state
  /-- A report is no attempt. -/
  report : ∀ attempt failure state, made (around.report attempt failure state) = made state
  /-- A pause is no attempt. -/
  sleep : ∀ length state, made (around.sleep length state) = made state

/-- An outcome that ends a call whatever attempts are left: an answer, or a failure that does not
count as transient. -/
def IsFinal (transient : Error → Bool) (outcome : Except Error α) : Prop :=
  ∀ failure, outcome = .error failure → transient failure = false

/-- What is done about an attempt that another one follows: the call is made, its failure is
reported under the number of the attempt, and one pause is made. -/
inductive Round (outcomes : Nat → Except Error α) (attempt : Nat) : List Deed → Prop
  /-- The attempt failed. -/
  | failed (failure : Error) (length : Number) (same : outcomes attempt = .error failure) :
    Round outcomes attempt [.called, .reported attempt failure, .slept length]

/-- How the outcome of the last attempt becomes that of the whole call, when so many attempts are
allowed. -/
inductive Concludes (transient : Error → Bool) (limit : Nat) :
    Except Error α → Except Error α → Prop
  /-- An answer is handed on. -/
  | answered (value : α) : Concludes transient limit (.ok value) (.ok value)
  /-- A failure that does not count as transient is raised itself. -/
  | lasting {failure : Error} (lasts : transient failure = false) :
    Concludes transient limit (.error failure) (.error failure)
  /-- A failed call of the store that might have passed becomes the cause of an error that says how
  often it was tried. -/
  | exhausted {failure : Error} (passes : transient failure = true)
    (failed : failure.IsA .backendOperation) :
    Concludes transient limit (.error failure) (.error (.exhausted limit failure true))
  /-- Any other failure that might have passed is raised itself, once more. -/
  | reraised {failure : Error} (passes : transient failure = true)
    (foreign : ¬ failure.IsA .backendOperation) :
    Concludes transient limit (.error failure) (.error (.reraised failure))

/-- A final outcome is the outcome of the whole call. -/
theorem concludes_of_isFinal (final : IsFinal transient outcome) (limit : Nat) :
    Concludes transient limit outcome outcome := by
  cases outcome with
  | ok value => exact .answered value
  | error failure => exact .lasting (final failure rfl)

/-- A call that used up its attempts ends with what is told of its last failure. -/
theorem concludes_exhaust (passes : transient error = true) (limit : Nat) :
    Concludes (α := α) transient limit (.error error) (.error (exhaust limit error)) := by
  unfold exhaust
  cases failed : error.isOperationFailure with
  | true => exact .exhausted passes (error.classes.1.2 failed)
  | false =>
    refine .reraised passes fun isA => ?_
    rw [error.classes.1.1 isA] at failed
    cases failed

/-- An outcome that does not end a call is a failure that counts as transient. -/
theorem exists_of_not_isFinal (goes_on : ¬ IsFinal transient outcome) :
    ∃ failure, outcome = .error failure ∧ transient failure = true := by
  unfold IsFinal at goes_on
  push Not at goes_on
  obtain ⟨failure, failed, passes⟩ := goes_on
  exact ⟨failure, failed, Bool.eq_true_of_not_eq_false passes⟩

/-! ## All attempts -/

/-- The attempts that can be the last one, from some attempt on, with so many left after it. -/
def lastAttempts (transient : Error → Bool) (outcomes : Nat → Except Error α)
    (attempt further : Nat) : Set Nat :=
  {n | attempt ≤ n ∧ (IsFinal transient (outcomes n) ∨ n = attempt + further)}

section Attempts

variable {outcomes : Nat → Except Error α} {made : σ → Nat} {attempt further last : Nat}

/-- An attempt that ends the call is its last. -/
theorem isLeast_of_isFinal (ends : IsFinal transient (outcomes attempt) ∨ further = 0) :
    IsLeast (lastAttempts transient outcomes attempt further) attempt := by
  refine ⟨⟨Nat.le_refl attempt, ?_⟩, fun n possible => possible.1⟩
  rcases ends with final | none_left
  · exact .inl final
  · exact .inr (by omega)

/-- After an attempt that does not end the call, the last one is the last one from the next on. -/
theorem isLeast_of_next (goes_on : ¬ IsFinal transient (outcomes attempt))
    (least : IsLeast (lastAttempts transient outcomes (attempt + 1) further) last) :
    IsLeast (lastAttempts transient outcomes attempt (further + 1)) last := by
  obtain ⟨⟨after, ends⟩, first⟩ := least
  have bound : attempt + 1 + further = attempt + (further + 1) := by omega
  rw [bound] at ends
  refine ⟨⟨by omega, ends⟩, fun n ⟨from_here, stops⟩ => first ⟨?_, by rwa [bound]⟩⟩
  have elsewhere : n ≠ attempt := by
    rintro rfl
    rcases stops with final | all
    · exact goes_on final
    · omega
  omega

/-- The attempt that ends the call, because of its outcome or because none is left, is its last
deed. -/
theorem attempts_ending (follows : around.Follows outcomes made) (fresh : made state + 1 = attempt)
    (ends : IsFinal transient (outcomes attempt) ∨ further = 0) (deeds : List Deed) :
    ∃ result after,
      attempts transient around further attempt state = (result, after) ∧
      attempts transient around.recorded further attempt (state, deeds) =
        (result, after, deeds ++ [.called]) ∧
      Concludes transient (attempt + further) (outcomes attempt) result := by
  cases called : around.call state with
  | mk outcome next =>
  have recorded : around.recorded.call (state, deeds) = (outcome, next, deeds ++ [.called]) := by
    simp only [Surroundings.recorded, called]
  obtain rfl : outcomes attempt = outcome := by rw [← fresh, ← follows.outcome, called]
  by_cases final : IsFinal transient (outcomes attempt)
  · exact ⟨_, next, attempts_final called final further attempt,
      attempts_final recorded final further attempt, concludes_of_isFinal final _⟩
  · obtain rfl : further = 0 := ends.resolve_left final
    obtain ⟨failure, failed, passes⟩ := exists_of_not_isFinal final
    rw [failed] at called recorded ⊢
    exact ⟨_, _, attempts_last called passes attempt, attempts_last recorded passes attempt,
      concludes_exhaust passes attempt⟩

/-- An attempt that does not end the call is one round, and the call goes on with the next. -/
theorem attempts_round (follows : around.Follows outcomes made) (fresh : made state + 1 = attempt)
    (goes_on : ¬ IsFinal transient (outcomes attempt)) (further : Nat) (deeds : List Deed) :
    ∃ next round, made next = attempt ∧ Round outcomes attempt round ∧
      attempts transient around (further + 1) attempt state =
        attempts transient around further (attempt + 1) next ∧
      attempts transient around.recorded (further + 1) attempt (state, deeds) =
        attempts transient around.recorded further (attempt + 1) (next, deeds ++ round) := by
  cases called : around.call state with
  | mk outcome next =>
  have recorded : around.recorded.call (state, deeds) = (outcome, next, deeds ++ [.called]) := by
    simp only [Surroundings.recorded, called]
  have counted : made next = attempt := by rw [← fresh, ← follows.call, called]
  obtain rfl : outcomes attempt = outcome := by rw [← fresh, ← follows.outcome, called]
  obtain ⟨failure, failed, passes⟩ := exists_of_not_isFinal goes_on
  rw [failed] at called recorded
  have round : Round outcomes attempt
      [.called, .reported attempt failure, .slept (around.choose attempt next).1] :=
    .failed failure _ failed
  refine ⟨_, _, ?_, round, attempts_again called passes further attempt, ?_⟩
  · rw [follows.sleep, follows.report, follows.choose, counted]
  · rw [attempts_again recorded passes]
    simp [Surroundings.recorded]

/-- From an attempt on, with so many left after it, a call is made up to the first attempt that ends
it or the last one allowed, and every attempt before that is one round. -/
theorem attempts_recorded (follows : around.Follows outcomes made) (transient : Error → Bool)
    (fresh : made state + 1 = attempt) (further : Nat) (deeds : List Deed) :
    ∃ last, IsLeast (lastAttempts transient outcomes attempt further) last ∧
      ∃ result after rounds,
        attempts transient around further attempt state = (result, after) ∧
        attempts transient around.recorded further attempt (state, deeds) =
          (result, after, deeds ++ rounds.flatten ++ [.called]) ∧
        Concludes transient (attempt + further) (outcomes last) result ∧
        List.Forall₂ (Round outcomes) (List.range' attempt (last - attempt)) rounds := by
  -- Each attempt that is tried again leaves one fewer, under the next number.
  induction further generalizing attempt state deeds with
  | zero =>
    have ends : IsFinal transient (outcomes attempt) ∨ 0 = 0 := .inr rfl
    obtain ⟨result, after, plain, recorded, concludes⟩ :=
      attempts_ending follows fresh ends deeds
    refine ⟨attempt, isLeast_of_isFinal ends, result, after, [], plain, ?_, concludes, ?_⟩
    · rw [List.flatten_nil, List.append_nil, recorded]
    · rw [Nat.sub_self]
      exact .nil
  | succ further ih =>
    by_cases final : IsFinal transient (outcomes attempt)
    · have ends : IsFinal transient (outcomes attempt) ∨ further + 1 = 0 := .inl final
      obtain ⟨result, after, plain, recorded, concludes⟩ :=
        attempts_ending follows fresh ends deeds
      refine ⟨attempt, isLeast_of_isFinal ends, result, after, [], plain, ?_, concludes, ?_⟩
      · rw [List.flatten_nil, List.append_nil, recorded]
      · rw [Nat.sub_self]
        exact .nil
    · obtain ⟨next, round, counted, is_round, plain, recorded⟩ :=
        attempts_round follows fresh final further deeds
      obtain ⟨last, least, result, after, rounds, ends, tells, concludes, each⟩ :=
        ih (congrArg (· + 1) counted) (deeds ++ round)
      have later : attempt + 1 ≤ last := least.1.1
      have one_more : last - attempt = last - (attempt + 1) + 1 := by omega
      refine ⟨last, isLeast_of_next final least, result, after, round :: rounds,
        plain.trans ends, ?_, ?_, ?_⟩
      · rw [recorded, tells, List.flatten_cons, List.append_assoc deeds]
      · rwa [show attempt + (further + 1) = attempt + 1 + further by omega]
      · rw [one_more, List.range'_succ]
        exact .cons is_round each

end Attempts

/-- A call that is retried under a policy is made up to the first attempt that is answered or fails
for good, or as often as the policy allows if there is none. Every attempt before the last is
reported once, under its number, and one pause follows; nothing else is done. The outcome is the
answer or the failure of the last attempt, except that a failed call of the store that used up the
attempts is told as the cause of an error with their number. -/
theorem made_until_final {policy : RetryPolicy} {limit : Nat} (bound : policy.maxAttempts = limit)
    (positive : 1 ≤ limit) (transient : Error → Bool) {around : Surroundings σ α}
    {outcomes : Nat → Except Error α} {made : σ → Nat} (follows : around.Follows outcomes made)
    {start : σ} (fresh : made start = 0) :
    ∃ last, IsLeast {n | 1 ≤ n ∧ (IsFinal transient (outcomes n) ∨ n = limit)} last ∧
      ∃ result after rounds,
        attempts transient around policy.further 1 start = (result, after) ∧
        attempts transient around.recorded policy.further 1 (start, []) =
          (result, after, rounds.flatten ++ [.called]) ∧
        Concludes transient limit (outcomes last) result ∧
        List.Forall₂ (Round outcomes) (List.range' 1 (last - 1)) rounds := by
  have allowed : 1 + policy.further = limit := by
    unfold RetryPolicy.further
    omega
  have run := attempts_recorded follows transient (congrArg (· + 1) fresh) policy.further []
  simpa only [lastAttempts, Nat.zero_add, allowed, List.nil_append] using run

/-- Two failures of the store that may pass, then an answer. -/
def recovering : Nat → Except Error Nat
  | 1 => .error (.operation .general .put [116] [97] (.plain .backendUnavailable none) true)
  | 2 => .error (.operation .general .put [116] [98] (.plain .backendUnavailable none) true)
  | _ => .ok 7

/-- A call with these outcomes, in a world that counts the attempts; pauses are as long as the
number of the attempt. -/
def counting : Surroundings Nat Nat :=
  ⟨fun made => (recovering (made + 1), made + 1), fun attempt made => (.int attempt, made),
    fun _ _ made => made, fun _ made => made⟩

/-- With three attempts the answer comes in time, after two reports with a pause each. -/
theorem made_until_final_recovering :
    RetryPolicy.standard.maxAttempts = 3 ∧ counting.Follows recovering id ∧
      ∃ first second,
        recovering 1 = .error first ∧ recovering 2 = .error second ∧
        attempts Error.isTransient counting.recorded RetryPolicy.standard.further 1 (0, []) =
          (.ok 7, 3, [.called, .reported 1 first, .slept (.int 1),
            .called, .reported 2 second, .slept (.int 2), .called]) ∧
        ∃ last, IsLeast {n | 1 ≤ n ∧ (IsFinal Error.isTransient (recovering n) ∨ n = 3)} last ∧
          Concludes Error.isTransient 3 (recovering last) (.ok 7) := by
  have follows : counting.Follows recovering id :=
    ⟨fun _ => rfl, fun _ => rfl, fun _ _ => rfl, fun _ _ _ => rfl, fun _ _ => rfl⟩
  have bound : RetryPolicy.standard.maxAttempts = 3 := rfl
  have fresh : (id : Nat → Nat) 0 = 0 := rfl
  obtain ⟨last, least, result, after, rounds, plain, -, concludes, -⟩ :=
    made_until_final bound (by decide) Error.isTransient follows fresh
  obtain ⟨rfl, rfl⟩ : Except.ok 7 = result ∧ 3 = after := Prod.mk.injEq .. ▸ plain
  exact ⟨bound, follows, _, _, rfl, rfl, rfl, last, least, concludes⟩

end WideColumn.Retry
