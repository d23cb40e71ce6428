import WideColumn.Proofs.Pipeline.Basic
import WideColumn.Proofs.Retry

/-!
# Attempts one by one

A session executes a task in one go, all attempts included, whereas here each call of the store is a
step of its own. A worker that nobody comes between makes the same attempts with the same end.
-/
namespace WideColumn.Pipeline

variable {task : Task} {session : Session} {s : Pipeline ClientCallback FaultyStore}
  {before after : List (Worker ClientCallback)}

/-- An attempt of a worker is that of a session with the same dispatcher and store. -/
theorem step_attempt {attempt further : Nat} (dispatcher : s.dispatcher = session.dispatcher)
    (backend : s.backend = session.backend)
    (split : s.workers = before ++ .calling task attempt further :: after) :
    let (outcome, next) := Session.attempt task session
    let (worker, event) := Worker.afterAttempt task attempt further outcome
    Step FaultyStore.answer s (.called task outcome)
      { s with
        dispatcher := next.dispatcher.logAny event
        backend := next.backend
        workers := before ++ worker :: after } := by
  have step : Step FaultyStore.answer s _ _ := .call task attempt further split
  rw [backend, dispatcher] at step
  exact step

/-- What a worker does alone from an attempt on is what the retry policy prescribes. -/
theorem run_attempts (policy : RetryPolicy) {further attempt : Nat}
    (dispatcher : s.dispatcher = session.dispatcher) (backend : s.backend = session.backend)
    (split : s.workers = before ++ .calling task attempt further :: after) :
    let (outcome, ended) := Retry.attempts Error.isTransient
      ⟨Session.attempt task, Session.choosePause policy, Session.reportRetry task, Session.sleep⟩
      further attempt session
    ∃ trace, Run FaultyStore.answer s trace
      { s with
        dispatcher := ended.dispatcher
        backend := ended.backend
        workers := before ++ .settling task outcome :: after } := by
  induction further generalizing attempt session s with
  | zero =>
    have step := step_attempt dispatcher backend split
    cases called : Session.attempt task session with
    | mk outcome next =>
    rw [called] at step
    by_cases again : ∃ error, outcome = .error error ∧ error.isTransient = true
    · obtain ⟨error, rfl, passes⟩ := again
      rw [Retry.attempts_last called passes]
      simp only [Worker.afterAttempt_last task attempt passes] at step
      exact ⟨_, .single step⟩
    · have final : ∀ error, outcome = .error error → error.isTransient = false := by
        intro error failed
        exact Bool.eq_false_iff.mpr fun passes => again ⟨error, failed, passes⟩
      rw [Retry.attempts_final called final]
      simp only [Worker.afterAttempt_final task attempt 0 final] at step
      exact ⟨_, .single step⟩
  | succ further ih =>
    have step := step_attempt dispatcher backend split
    cases called : Session.attempt task session with
    | mk outcome next =>
    rw [called] at step
    by_cases again : ∃ error, outcome = .error error ∧ error.isTransient = true
    · obtain ⟨error, rfl, passes⟩ := again
      rw [Retry.attempts_again called passes]
      simp only [Worker.afterAttempt_again task attempt further passes] at step
      let chosen := Session.choosePause policy attempt next
      let paused := Session.sleep chosen.1 (Session.reportRetry task attempt error chosen.2)
      let waiting : Pipeline ClientCallback FaultyStore :=
        { s with
          dispatcher := paused.dispatcher
          backend := paused.backend
          workers := before ++ .calling task (attempt + 1) further :: after }
      have step : Step FaultyStore.answer s (.called task (.error error)) waiting := step
      obtain ⟨trace, run⟩ := @ih paused waiting (attempt + 1) rfl rfl rfl
      exact ⟨_, (Run.single step).append run⟩
    · have final : ∀ error, outcome = .error error → error.isTransient = false := by
        intro error failed
        exact Bool.eq_false_iff.mpr fun passes => again ⟨error, failed, passes⟩
      rw [Retry.attempts_final called final]
      simp only [Worker.afterAttempt_final task attempt (further + 1) final] at step
      exact ⟨_, .single step⟩

/-- A worker that has taken a task, and that nobody comes between, executes it as a session does. -/
theorem run_executeTask (dispatcher : s.dispatcher = session.dispatcher)
    (backend : s.backend = session.backend)
    (split : s.workers =
      before ++ .calling task 1 s.dispatcher.settings.retry.policy.further :: after) :
    let (outcome, ended) := Session.executeTask task session
    ∃ trace, Run FaultyStore.answer s trace
      { s with
        dispatcher := ended.dispatcher
        backend := ended.backend
        workers := before ++ .settling task outcome :: after } := by
  rw [dispatcher] at split
  exact run_attempts session.dispatcher.settings.retry.policy dispatcher backend split

end WideColumn.Pipeline
