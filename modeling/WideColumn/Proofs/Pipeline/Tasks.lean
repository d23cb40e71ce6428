import WideColumn.Proofs.Pipeline.Changes
import WideColumn.Proofs.Pipeline.Pending

/-!
# What becomes of a task

A task that was handed to the pool stays there until its worker releases it, and by then its
deferred result is terminal. Reads are followed by this: an accepted read is with the pool or
terminal. And a worker that took a task calls the store before it does anything else with it.
-/
namespace WideColumn.Pipeline

variable {β σ : Type} {s t : Pipeline β σ} {backend : Backend σ} {event : Event}

/-! ## Tasks stay until they are released -/

namespace Moves

variable {workers others : List (Worker β)}

/-- What a worker took is with a worker. -/
theorem mem_of_took {position : Nat} {task : Task}
    (moves : Moves workers (.took position task) others) : task ∈ others.map Worker.task := by
  cases moves with
  | foreign isForeign => cases isForeign
  | take position task further => simp

/-- What is with a worker stays there until it is released. -/
theorem task_stays (moves : Moves workers event others) {task : Task}
    (busy : task ∈ workers.map Worker.task) :
    task ∈ others.map Worker.task ∨ event = .released task := by
  cases moves with
  | foreign | client => exact .inl busy
  | take position other further =>
    left
    rw [List.map_append]
    exact List.mem_append_left _ busy
  | call other attempt further outcome =>
    left
    simpa [(Worker.afterAttempt_eq (β := β) other attempt further outcome).1] using busy
  | settle other outcome due =>
    left
    simpa using busy
  | notify other notice rest fresh =>
    left
    simpa using busy
  | release other =>
    rw [List.map_append, List.map_cons, List.mem_append, List.mem_cons] at busy
    rw [List.map_append, List.mem_append]
    rcases busy with early | rfl | late
    · exact .inl (.inl early)
    · exact .inr rfl
    · exact .inl (.inr late)

/-- A worker that is about to make its first call makes it next. -/
theorem first_call (moves : Moves workers event others) {task : Task} {further : Nat}
    (about : .calling task 1 further ∈ workers) :
    .calling task 1 further ∈ others ∨ ∃ outcome, event = .called task outcome := by
  cases moves with
  | foreign | client => exact .inl about
  | take => exact .inl (List.mem_append_left _ about)
  | call other attempt left outcome =>
    rcases List.mem_append.mp about with early | here
    · exact .inl (List.mem_append_left _ early)
    · rcases List.mem_cons.mp here with same | late
      · cases same
        exact .inr ⟨outcome, rfl⟩
      · exact .inl (List.mem_append_right _ (List.mem_cons_of_mem _ late))
  | settle other outcome due =>
    left
    simpa using about
  | notify other notice rest fresh =>
    left
    simpa using about
  | release other =>
    left
    simpa using about

/-- A worker that took a task is about to make its first call. -/
theorem calling_of_took {position : Nat} {task : Task}
    (moves : Moves workers (.took position task) others) :
    ∃ further, .calling task 1 further ∈ others := by
  cases moves with
  | foreign isForeign => cases isForeign
  | take position task further => exact ⟨further, by simp⟩

end Moves

/-- A task with the pool stays there until it is released. -/
theorem Step.task_stays (step : Step backend s event t) (orderly : s.Orderly) {task : Task}
    (held : task ∈ s.tasks) : task ∈ t.tasks ∨ event = .released task := by
  rcases List.mem_append.mp held with busy | waits
  · exact (step.moves.task_stays busy).imp_left (List.mem_append_left _)
  · left
    rcases (step.changes orderly).queue waits with still | ⟨position, rfl⟩
    · exact List.mem_append_right _ still
    · exact List.mem_append_left _ step.moves.mem_of_took

/-- What is released is terminal. -/
theorem Step.done_of_released {accepted released : List Ticket} {task : Task}
    (step : Step backend s (.released task) t) (owned : s.Owned accepted released) :
    s.deferreds.isDone task.deferred = true := by
  cases step with
  | release task split =>
    have busy : .notifying task [] ∈ s.workers := by
      rw [split]
      simp
    exact owned.isDone_worker busy

/-! ## Reads -/

/-- The reference of the read that reached the pool, if one did. -/
def Event.queued? : Event → Option DeferredId
  | .queued _ (.ok id) => some id
  | _ => none

/-- The references of the accepted reads, in order. -/
def acceptedReads (trace : List Event) : List DeferredId := trace.filterMap Event.queued?

/-- A read that was accepted is with the pool. -/
theorem Step.task_of_queued (step : Step backend s event t) (orderly : s.Orderly)
    {id : DeferredId} (accepted : event.queued? = some id) :
    ∃ task ∈ t.tasks, task.deferred = id := by
  have changes := step.changes orderly
  unfold tasks
  generalize t.dispatcher = after at changes
  cases changes with
  | queued submission filter running deferreds =>
    cases accepted
    exact ⟨_, List.mem_append_right _ (List.mem_append_right _ List.mem_cons_self), rfl⟩
  | @silent event isSilent =>
    cases event with
    | queued submission answer =>
      cases answer with
      | ok other => cases isSilent
      | error error => cases accepted
    | submitted | admitted | flushed | polled | closing | expired | drained | closed | watched
    | grouped | advanced | took | called | settled | delivered | released => cases accepted
  | shutDown ends => rcases ends with rfl | rfl <;> cases accepted
  | buffered | triggered | flushed | evaluated | polled | closed | again | took | released =>
    cases accepted

variable {settings : Settings} {clock : Clock} {store : σ} {trace : List Event}

/-- An accepted read is with the pool or terminal. -/
theorem Run.read_done (run : Run backend (start settings clock store) trace s) {id : DeferredId}
    (listed : id ∈ acceptedReads trace) :
    (∃ task ∈ s.tasks, task.deferred = id) ∨ s.deferreds.isDone id = true := by
  induction run with
  | nil => cases listed
  | @snoc trace u v event earlier step ih =>
    obtain ⟨owned, orderly⟩ := earlier.owned
    have grows := (step.evolves orderly).grows
    have stays {id : DeferredId} (done : u.deferreds.isDone id = true) :
        v.deferreds.isDone id = true := by
      obtain ⟨outcome, was⟩ := Option.isSome_iff_exists.mp done
      exact Option.isSome_iff_exists.mpr ⟨outcome, grows.outcome was⟩
    unfold acceptedReads at listed ih
    rw [List.filterMap_append] at listed
    rcases List.mem_append.mp listed with older | new
    · rcases ih older with ⟨task, held, same⟩ | done
      · rcases step.task_stays orderly held with still | rfl
        · exact .inl ⟨task, still, same⟩
        · have done := step.done_of_released owned
          rw [same] at done
          exact .inr (stays done)
      · exact .inr (stays done)
    · obtain ⟨other, present, accepted⟩ := List.mem_filterMap.mp new
      obtain rfl := List.mem_singleton.mp present
      exact .inl (step.task_of_queued orderly accepted)

/-! ## First calls -/

/-- For a write that was taken the store has been called, or its worker is about to make the first
call. -/
theorem Run.called_of_taken (run : Run backend (start settings clock store) trace s)
    {write : Ticket} (present : write ∈ Pipeline.taken trace) :
    write ∈ Pipeline.called trace ∨
      ∃ task further, task.ticket? = some write ∧ .calling task 1 further ∈ s.workers := by
  induction run with
  | nil => cases present
  | @snoc trace u v event earlier step ih =>
    rw [taken_append] at present
    rw [called_append]
    rcases List.mem_append.mp present with older | new
    · rcases ih older with called | ⟨task, further, found, about⟩
      · exact .inl (List.mem_append_left _ called)
      · rcases step.moves.first_call about with still | ⟨outcome, rfl⟩
        · exact .inr ⟨task, further, found, still⟩
        · left
          apply List.mem_append_right
          rw [called_called, found]
          exact List.mem_cons_self
    · obtain ⟨other, listed, took⟩ := List.mem_filterMap.mp new
      obtain rfl := List.mem_singleton.mp listed
      cases other with
      | took position task =>
        obtain ⟨further, about⟩ := step.moves.calling_of_took
        exact .inr ⟨task, further, took, about⟩
      | submitted | admitted | queued | flushed | polled | closing | expired | drained | closed
      | watched | grouped | advanced | called | settled | delivered | released => cases took

end WideColumn.Pipeline
