import WideColumn.Proofs.Pipeline.History
import WideColumn.Proofs.Store.Footprint

/-!
# A store without failures

Over a store without failures no attempt at a write is worth another one. Every write that a worker
takes is therefore executed once, and is completed with what that execution answered. Once all
accepted writes are terminal each of them has been executed, and what was executed since an earlier
such moment is what was accepted since.
-/
namespace WideColumn.Pipeline

variable {β : Type}

/-! ## What was executed -/

/-- The write that a worker executed, and what the attempt ended with. -/
def Event.performed? : Event → Option (Ticket × Outcome)
  | called task outcome => task.ticket?.map (·, outcome)
  | _ => none

/-- The writes that workers executed, with the ends of the attempts, in order. -/
def performed (trace : List Event) : List (Ticket × Outcome) := trace.filterMap Event.performed?

@[simp] theorem performed_append (first second : List Event) :
    performed (first ++ second) = performed first ++ performed second := List.filterMap_append

/-- Calling the store for a task is seen in what was executed. -/
theorem performed_called (task : Task) (outcome : Outcome) :
    performed [.called task outcome] = (task.ticket?.map (·, outcome)).toList := by
  unfold performed
  rw [List.filterMap_cons,
    show Event.performed? (.called task outcome) = task.ticket?.map (·, outcome) from rfl]
  cases task.ticket? <;> rfl

/-- What was executed is what the store was called for. -/
theorem map_performed (trace : List Event) : (performed trace).map Prod.fst = called trace := by
  unfold performed called
  rw [List.map_filterMap]
  congr 1
  funext event
  cases event with
  | called task outcome =>
    show Option.map Prod.fst (task.ticket?.map (·, outcome)) = task.ticket?
    cases task.ticket? <;> rfl
  | submitted | admitted | queued | flushed | polled | closing | expired | drained | closed
  | watched | grouped | advanced | took | settled | delivered | released => rfl

/-- What is none of the workers' business is no execution. -/
theorem performed_foreign {event : Event} (isForeign : event.isForeign = true) :
    performed [event] = [] := by
  cases event with
  | took | called | settled | delivered | released => cases isForeign
  | submitted | admitted | queued | flushed | polled | closing | expired | drained | closed
  | watched | grouped | advanced => rfl

/-- The write that a worker is about to execute. -/
def untriedBy : Worker β → Option Ticket
  | .calling task _ _ => task.ticket?
  | _ => none

/-- The write that a worker is about to complete, and its outcome. -/
def decidedBy : Worker β → Option (Ticket × Outcome)
  | .settling task outcome => task.ticket?.map (·, outcome)
  | _ => none

/-- The writes that workers are about to execute. -/
def untried (workers : List (Worker β)) : List Ticket := workers.filterMap untriedBy

/-- The writes that workers are about to complete, with their outcomes. -/
def decided (workers : List (Worker β)) : List (Ticket × Outcome) := workers.filterMap decidedBy

/-- A worker contributes its write if it is about to execute it. -/
theorem untried_middle (before after : List (Worker β)) (worker : Worker β) :
    untried (before ++ worker :: after) =
      untried before ++ ((untriedBy worker).toList ++ untried after) :=
  filterMap_middle untriedBy before after worker

/-- A worker contributes its write if it is about to complete it. -/
theorem decided_middle (before after : List (Worker β)) (worker : Worker β) :
    decided (before ++ worker :: after) =
      decided before ++ ((decidedBy worker).toList ++ decided after) :=
  filterMap_middle decidedBy before after worker

/-! ## One attempt for each write -/

/-- An attempt at a write, if the event is one, is not worth another one. -/
def Event.IsFinal : Event → Prop
  | called task outcome =>
    task.ticket?.isSome → ∀ error, outcome = .error error → error.isTransient = false
  | _ => True

/-- Of a worker with a read nothing is said. -/
theorem afterAttempt_read {task : Task} (isRead : task.ticket? = none) (attempt further : Nat)
    (outcome : Outcome) :
    untriedBy (Worker.afterAttempt (β := β) task attempt further outcome).1 = none ∧
      decidedBy (Worker.afterAttempt (β := β) task attempt further outcome).1 = none := by
  rcases afterAttempt_cases (β := β) task attempt further outcome with
    ⟨_, _, worker⟩ | ⟨_, _, ⟨_, worker⟩ | ⟨_, worker⟩⟩
  · rw [worker]
    exact ⟨rfl, by simp [decidedBy, isRead]⟩
  · rw [worker]
    exact ⟨rfl, by simp [decidedBy, isRead]⟩
  · rw [worker]
    exact ⟨isRead, rfl⟩

namespace Moves

variable {workers others : List (Worker β)} {event : Event}

/-- Every write that a worker takes is executed once. -/
theorem untried (moves : Moves workers event others) (final : event.IsFinal) :
    (Pipeline.untried workers ++ taken [event]).Perm
      (Pipeline.called [event] ++ Pipeline.untried others) := by
  cases moves with
  | foreign isForeign =>
    obtain ⟨none_taken, _, none_called, _⟩ := histories_foreign isForeign
    rw [none_taken, none_called, List.append_nil, List.nil_append]
  | client subject =>
    rw [show taken [.delivered subject] = [] from rfl, List.append_nil]
    exact .refl _
  | take position task further =>
    rw [untried_middle, taken_took]
    show (Pipeline.untried workers ++ task.ticket?.toList).Perm
      (Pipeline.untried workers ++ (task.ticket?.toList ++ []))
    rw [List.append_nil]
  | @call before after task attempt further outcome =>
    have tried : untriedBy (Worker.afterAttempt (β := β) task attempt further outcome).1 =
        none := by
      cases found : task.ticket? with
      | none => exact (afterAttempt_read found attempt further outcome).1
      | some write =>
        rw [Worker.afterAttempt_final task attempt further (final (by rw [found]; rfl))]
        rfl
    rw [untried_middle, untried_middle, tried, called_called,
      show taken [.called task outcome] = [] from rfl, List.append_nil]
    exact List.perm_append_comm_assoc _ _ _
  | settle task outcome due =>
    rw [untried_middle, untried_middle, show taken [.settled task outcome] = [] from rfl,
      List.append_nil]
    exact .refl _
  | notify task notice rest fresh =>
    rw [untried_middle, untried_middle, show taken [.delivered notice.subject] = [] from rfl,
      List.append_nil]
    exact .refl _
  | @release before after task =>
    rw [untried_middle, show taken [.released task] = [] from rfl, List.append_nil]
    show (Pipeline.untried before ++ Pipeline.untried after).Perm
      (Pipeline.untried (before ++ after))
    unfold Pipeline.untried
    rw [List.filterMap_append]

/-- Every execution of a write is completed with its outcome. -/
theorem decided (moves : Moves workers event others) (final : event.IsFinal) :
    (Pipeline.decided workers ++ performed [event]).Perm
      (settled [event] ++ Pipeline.decided others) := by
  cases moves with
  | foreign isForeign =>
    obtain ⟨_, none_settled, _, _⟩ := histories_foreign isForeign
    rw [none_settled, performed_foreign isForeign, List.append_nil, List.nil_append]
  | client subject =>
    rw [show performed [.delivered subject] = [] from rfl, List.append_nil]
    exact .refl _
  | take position task further =>
    rw [decided_middle]
    show (Pipeline.decided workers ++ []).Perm (Pipeline.decided workers ++ ([] ++ []))
    exact .refl _
  | @call before after task attempt further outcome =>
    have known : decidedBy (Worker.afterAttempt (β := β) task attempt further outcome).1 =
        task.ticket?.map (·, outcome) := by
      cases found : task.ticket? with
      | none => exact (afterAttempt_read found attempt further outcome).2
      | some write =>
        rw [Worker.afterAttempt_final task attempt further (final (by rw [found]; rfl))]
        simp [decidedBy, found]
    rw [decided_middle, decided_middle, known, performed_called]
    show (Pipeline.decided before ++ ([] ++ Pipeline.decided after) ++ _).Perm
      (Pipeline.decided before ++ (_ ++ Pipeline.decided after))
    rw [List.nil_append, List.append_assoc]
    exact List.perm_append_comm.append_left _
  | @settle before after task outcome due =>
    rw [decided_middle, decided_middle, settled_settled,
      show performed [.settled task outcome] = [] from rfl, List.append_nil]
    exact List.perm_append_comm_assoc _ _ _
  | notify task notice rest fresh =>
    rw [decided_middle, decided_middle, show performed [.delivered notice.subject] = [] from rfl,
      List.append_nil]
    exact .refl _
  | @release before after task =>
    rw [decided_middle, show performed [.released task] = [] from rfl, List.append_nil]
    show (Pipeline.decided before ++ Pipeline.decided after).Perm
      (Pipeline.decided (before ++ after))
    unfold Pipeline.decided
    rw [List.filterMap_append]

end Moves

/-! ## The store -/

variable {s t : Pipeline β FaultyStore} {event : Event} {trace : List Event}

/-- What a step or a run does to a store without failures. -/
structure Faultless (s : Pipeline β FaultyStore) (trace : List Event)
    (t : Pipeline β FaultyStore) : Prop where
  /-- There are still no failures. -/
  plans : t.backend.plans = []
  /-- No attempt at a write is worth another one. -/
  final : ∀ event ∈ trace, event.IsFinal
  /-- The store changes by the effects of the writes that were executed. -/
  effects : t.backend.store.timeless =
    Request.effects s.backend.store.timeless ((called trace).map Ticket.request)

/-- A step that calls nothing and leaves the store alone. -/
theorem Faultless.idle (calm : s.backend.plans = []) (none_called : called [event] = [])
    (final : event.IsFinal) (backend : t.backend = s.backend) : Faultless s [event] t := by
  refine ⟨?_, ?_, ?_⟩
  · rw [backend]
    exact calm
  · intro other present
    obtain rfl := List.mem_singleton.mp present
    exact final
  · rw [backend, none_called]
    rfl

/-- An execution of a write has its effect and ends with its answer; an attempt at anything else
leaves the store alone. -/
theorem Step.faultless (step : Step FaultyStore.answer s event t) (calm : s.backend.plans = []) :
    Faultless s [event] t ∧ ∀ entry ∈ performed [event],
      Outcome.timeless entry.2 = entry.1.request.answer s.backend.store.timeless := by
  cases step with
  | call task attempt further split =>
    rw [performed_called]
    cases found : task.ticket? with
    | none =>
      have kept := Submission.execute_other FaultyStore.answer_over
        (fun request described => Task.isRead_of_ticket found described) task.filter s.backend
      refine ⟨⟨Submission.plans_execute calm _ _, ?_, ?_⟩, fun entry present => nomatch present⟩
      · intro other present
        obtain rfl := List.mem_singleton.mp present
        intro isWrite
        rw [found] at isWrite
        cases isWrite
      · rw [called_called, found]
        exact congrArg Store.timeless kept
    | some write =>
      obtain ⟨described, isWrite⟩ := Task.submission_of_ticket found
      obtain ⟨answer, effect, final⟩ := Submission.execute_calm isWrite calm task.filter
      refine ⟨⟨Submission.plans_execute calm _ _, ?_, ?_⟩, ?_⟩
      · intro other present
        obtain rfl := List.mem_singleton.mp present
        intro _ error failed
        rw [described] at failed
        exact final error failed
      · rw [called_called, found]
        show (task.submission.execute FaultyStore.answer task.filter s.backend).2.store.timeless = _
        rw [described]
        exact effect
      · intro entry present
        obtain rfl := List.mem_singleton.mp present
        rw [described]
        exact answer
  | submit | letIn | turnAway | queue | flush | poll | close | expire | drain | finish | watch
  | group | advance | take | settle | notify | deliver | release =>
    exact ⟨.idle calm rfl trivial rfl, fun entry present => nomatch present⟩

/-- Over a store without failures a run has the effects of the writes that it executes. -/
theorem Run.faultless (run : Run FaultyStore.answer s trace t) (calm : s.backend.plans = []) :
    Faultless s trace t := by
  induction run with
  | nil => exact ⟨calm, fun event present => (nomatch present), rfl⟩
  | @snoc trace u v event earlier step ih =>
    obtain ⟨next, _⟩ := step.faultless ih.plans
    refine ⟨next.plans, ?_, ?_⟩
    · intro other present
      rcases List.mem_append.mp present with old | new
      · exact ih.final other old
      · exact next.final other new
    · rw [next.effects, ih.effects, called_append, List.map_append]
      exact (List.foldl_append ..).symm

/-- If no two of the writes that a run executes share a cell, each ends with what it would have
answered at the beginning. -/
theorem Run.answers (run : Run FaultyStore.answer s trace t) (calm : s.backend.plans = [])
    (disjoint : ((called trace).map Ticket.request).Pairwise Request.Disjoint) :
    ∀ entry ∈ performed trace,
      Outcome.timeless entry.2 = entry.1.request.answer s.backend.store.timeless := by
  induction run with
  | nil => exact fun entry present => nomatch present
  | @snoc trace u v event earlier step ih =>
    rw [called_append, List.map_append, List.pairwise_append] at disjoint
    obtain ⟨before, _, apart⟩ := disjoint
    intro entry present
    rw [performed_append] at present
    rcases List.mem_append.mp present with old | new
    · exact ih before entry old
    · have faultless := earlier.faultless calm
      obtain ⟨_, answer⟩ := step.faultless faultless.plans
      have here : entry.1.request ∈ (called [event]).map Ticket.request := by
        rw [← map_performed]
        exact List.mem_map_of_mem (List.mem_map_of_mem new)
      rw [answer entry new, faultless.effects]
      exact Request.answer_effects (fun other listed => apart other listed _ here) _

/-! ## Whole runs -/

variable {settings : Settings} {clock : Clock} {store : FaultyStore}

/-- Every write that was taken was executed once or is about to be. -/
theorem Run.untried (run : Run FaultyStore.answer (start settings clock store) trace s)
    (calm : store.plans = []) :
    (Pipeline.taken trace).Perm (called trace ++ Pipeline.untried s.workers) := by
  induction run with
  | nil => exact .nil
  | @snoc trace u v event earlier step ih =>
    have final := (step.faultless (earlier.faultless calm).plans).1.final event List.mem_cons_self
    rw [taken_append, called_append, List.append_assoc]
    have more := ih.append_right (Pipeline.taken [event])
    rw [List.append_assoc] at more
    exact more.trans ((step.moves.untried final).append_left _)

/-- Every execution was completed with its outcome or is about to be. -/
theorem Run.decided (run : Run FaultyStore.answer (start settings clock store) trace s)
    (calm : store.plans = []) :
    (performed trace).Perm (Pipeline.settled trace ++ Pipeline.decided s.workers) := by
  induction run with
  | nil => exact .nil
  | @snoc trace u v event earlier step ih =>
    have final := (step.faultless (earlier.faultless calm).plans).1.final event List.mem_cons_self
    rw [performed_append, settled_append, List.append_assoc]
    have more := ih.append_right (performed [event])
    rw [List.append_assoc] at more
    exact more.trans ((step.moves.decided final).append_left _)

/-- All accepted writes are terminal. -/
def Quiet (s : Pipeline β FaultyStore) (trace : List Event) : Prop :=
  ∀ write ∈ accepted trace, s.deferreds.isDone write.deferred = true

/-- No accepted write is pending once all are terminal. -/
theorem Quiet.not_pending (quiet : s.Quiet trace) {write : Ticket}
    (listed : write ∈ accepted trace) : s.deferreds.outcome? write.deferred ≠ none := by
  intro pending
  have done := quiet write listed
  unfold Deferreds.isDone at done
  rw [pending] at done
  cases done

/-- A worker that has not completed its task has no write, once all accepted writes are terminal. -/
theorem Quiet.none_busy (quiet : s.Quiet trace)
    (run : Run FaultyStore.answer (start settings clock store) trace s) {worker : Worker β}
    (busy : worker ∈ s.workers) (unsettled : worker.isSettled = false) :
    worker.task.ticket? = none := by
  obtain ⟨owned, _⟩ := run.owned
  cases found : worker.task.ticket? with
  | none => rfl
  | some write =>
    have executing : write ∈ s.executing := List.mem_filterMap.mpr ⟨worker, busy, found⟩
    have listed : write ∈ accepted trace := by
      rw [owned.custody.mem_iff, holdings_writes]
      exact .inr (.inl (List.mem_append_left _ executing))
    have held : (worker.task, false) ∈ s.holdings.workers := by
      rw [← unsettled]
      exact List.mem_map_of_mem busy
    have pending := owned.backed.busy held
    rw [← Task.deferred_of_ticket found] at pending
    exact absurd pending (quiet.not_pending listed)

/-- Once all accepted writes are terminal each has been executed once, and each execution has been
completed with its outcome. -/
theorem Quiet.executed (quiet : s.Quiet trace)
    (run : Run FaultyStore.answer (start settings clock store) trace s) (calm : store.plans = []) :
    (called trace).Perm (accepted trace) ∧ (performed trace).Perm (settled trace) := by
  obtain ⟨owned, _⟩ := run.owned
  have none_buffered : s.buffered = [] := by
    apply List.eq_nil_iff_forall_not_mem.mpr
    intro write waits
    apply quiet.not_pending ((owned.custody.mem_iff write).mpr (.inr (.inr waits)))
    obtain ⟨entry, held, rfl⟩ := List.mem_map.mp waits
    exact owned.backed.buffered held
  have none_queued : s.queued = [] := by
    apply List.eq_nil_iff_forall_not_mem.mpr
    intro write waits
    have held : write ∈ s.holdings.writes := by
      rw [holdings_writes]
      exact List.mem_append_right _ waits
    apply quiet.not_pending ((owned.custody.mem_iff write).mpr (.inr (.inl held)))
    obtain ⟨task, listed, found⟩ := List.mem_filterMap.mp waits
    rw [Task.deferred_of_ticket found]
    exact owned.backed.waits listed
  have none_untried : Pipeline.untried s.workers = [] := by
    apply List.filterMap_eq_nil_iff.mpr
    intro worker busy
    cases worker with
    | calling task attempt further => exact quiet.none_busy run busy rfl
    | settling | notifying => rfl
  have none_decided : Pipeline.decided s.workers = [] := by
    apply List.filterMap_eq_nil_iff.mpr
    intro worker busy
    cases worker with
    | settling task outcome =>
      have isRead : task.ticket? = none := quiet.none_busy run busy rfl
      simp [decidedBy, isRead]
    | calling | notifying => rfl
  have executed := run.untried calm
  have completed := run.decided calm
  rw [none_untried, List.append_nil] at executed
  rw [none_decided, List.append_nil] at completed
  refine ⟨?_, completed⟩
  have all := owned.custody.conserved
  rw [holdings_writes, none_queued, List.append_nil,
    show s.holdings.buffer.map BufferedWrite.ticket = s.buffered from rfl, none_buffered,
    List.append_nil] at all
  exact executed.symm.trans (run.taken.trans all.symm)

end WideColumn.Pipeline
