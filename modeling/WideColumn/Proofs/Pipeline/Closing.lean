import WideColumn.Proofs.Pipeline.Changes
import WideColumn.Proofs.Pipeline.History

/-!
# What closing leaves behind

Before the workers are waited for the pool is shut down, and nothing gets into a pool that is shut
down. Hence a complete close leaves no work behind, and every write that was ever accepted has been
released.
-/
namespace WideColumn.Pipeline

variable {β σ : Type} {s t : Pipeline β σ} {backend : Backend σ} {event : Event}

/-- The pool is shut down while its workers are waited for, and a complete close leaves it empty. -/
structure Ended (s : Pipeline β σ) : Prop where
  /-- The workers are waited for after the pool is shut down. -/
  shut : s.closing = .draining ∨ s.closing = .finished → s.dispatcher.isShutDown = true
  /-- Nothing waits after a complete close. -/
  queue : s.closing = .finished → s.dispatcher.queue = []
  /-- No worker is busy after a complete close. -/
  workers : s.closing = .finished → s.workers = []

/-- Where nobody is busy and nothing is queued, nobody gets busy. -/
theorem Step.workers_nil (step : Step backend s event t) (idle : s.workers = [])
    (empty : s.dispatcher.queue = []) : t.workers = [] := by
  cases step with
  | take task split =>
    rw [empty] at split
    simp at split
  | call task attempt further split | settle task outcome split | notify task notice rest split
  | release task split =>
    rw [idle] at split
    simp at split
  | submit | letIn | turnAway | queue | flush | poll | close | expire | drain | finish | watch
  | group | advance | deliver => exact idle

/-- Every step keeps what closing leaves behind. -/
theorem Ended.step (ended : s.Ended) (orderly : s.Orderly) (step : Step backend s event t) :
    t.Ended := by
  have changes := step.changes orderly
  have idle := step.workers_nil
  -- Unless closing goes on, what was shut down and empty stays so.
  have same (closing : t.closing = s.closing) : t.Ended := by
    refine ⟨?_, ?_, ?_⟩
    · rw [closing]
      exact fun ending => changes.isShutDown (ended.shut ending)
    · rw [closing]
      intro finished
      have shut := ended.shut (.inr finished)
      exact changes.queue_nil (orderly.closed shut) (orderly.accepts shut) shut
        (ended.queue finished)
    · rw [closing]
      exact fun finished => idle (ended.workers finished) (ended.queue finished)
  cases step with
  | close =>
    by_cases isClosed : s.dispatcher.isClosed = true
    · apply same
      unfold Dispatcher.beginClose
      rw [if_pos isClosed]
    · obtain ⟨journal, flushed⟩ := { s.dispatcher with isClosed := true }.flush_eq .shutdown
        (fun shut => absurd (orderly.closed shut) isClosed)
      unfold Dispatcher.beginClose
      simp only [isClosed, Bool.false_eq_true, ↓reduceIte, flushed]
      refine ⟨?_, fun finished => (nomatch finished), fun finished => (nomatch finished)⟩
      rintro (draining | finished)
      · cases draining
      · cases finished
  | expire waits =>
    exact ⟨fun _ => rfl, fun finished => (nomatch finished), fun finished => (nomatch finished)⟩
  | drain waits done =>
    exact ⟨fun _ => rfl, fun finished => (nomatch finished), fun finished => (nomatch finished)⟩
  | finish waits queue workers =>
    exact ⟨fun _ => ended.shut (.inl waits), fun _ => queue, fun _ => workers⟩
  | submit | letIn | turnAway | queue | flush | poll | watch | group | advance | take | call
  | settle | notify | deliver | release => exact same rfl

/-- What closing leaves behind, after any run. -/
theorem Run.ended {settings : Settings} {clock : Clock} {store : σ} {trace : List Event}
    (run : Run backend (start settings clock store) trace s) : s.Ended := by
  induction run with
  | nil =>
    refine ⟨?_, nofun, nofun⟩
    rintro (draining | finished)
    · cases draining
    · cases finished
  | snoc earlier step ih => exact ih.step earlier.owned.2 step

/-- A complete close leaves nothing to do. -/
theorem Run.nothing_left {settings : Settings} {clock : Clock} {store : σ} {trace : List Event}
    (run : Run backend (start settings clock store) trace s) (finished : s.closing = .finished) :
    s.workers = [] ∧ s.queued = [] ∧ s.buffered = [] := by
  have ended := run.ended
  have orderly := run.owned.2
  refine ⟨ended.workers finished, ?_, ?_⟩
  · unfold queued
    rw [ended.queue finished]
    rfl
  · unfold buffered
    rw [orderly.accepts (ended.shut (.inr finished))]
    rfl

end WideColumn.Pipeline
