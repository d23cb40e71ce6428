import WideColumn.Proofs.Pipeline.Invariant

/-!
# What the trace tells about the workers

Seen from the workers alone a step takes a task, calls the store, completes, runs a callback,
releases or is none of their business. From this it follows for every run what the trace tells about
tasks: the writes that were taken are those released or with a worker, the writes that were
completed are those released or settled, each with the outcome that stands in the table, and
whatever the store was called for had been taken.
-/
namespace WideColumn.Pipeline

variable {β σ : Type}

/-! ## The workers' side of a step -/

namespace Event

/-- Whether an event is none of the workers' business. -/
def isForeign : Event → Bool
  | took .. | called .. | settled .. | delivered _ | released _ => false
  | _ => true

/-- The write whose task a worker took. -/
def took? : Event → Option Ticket
  | took _ task => task.ticket?
  | _ => none

/-- The write whose deferred result a worker completed, and its outcome. -/
def settled? : Event → Option (Ticket × Outcome)
  | settled task outcome => task.ticket?.map (·, outcome)
  | _ => none

/-- The write for which a worker called the store. -/
def called? : Event → Option Ticket
  | called task _ => task.ticket?
  | _ => none

end Event

/-- What a step does to the workers. -/
inductive Moves : List (Worker β) → Event → List (Worker β) → Prop where
  /-- Somebody else did something. -/
  | foreign {workers : List (Worker β)} {event : Event} (isForeign : event.isForeign = true) :
    Moves workers event workers
  /-- A client ran a callback. -/
  | client {workers : List (Worker β)} (subject : DeferredId) :
    Moves workers (.delivered subject) workers
  /-- A worker took a task. -/
  | take {workers : List (Worker β)} (position : Nat) (task : Task) (further : Nat) :
    Moves workers (.took position task) (workers ++ [.calling task 1 further])
  /-- A worker called the store. -/
  | call {before after : List (Worker β)} (task : Task) (attempt further : Nat)
    (outcome : Outcome) :
    Moves (before ++ .calling task attempt further :: after) (.called task outcome)
      (before ++ (Worker.afterAttempt task attempt further outcome).1 :: after)
  /-- A worker completed the deferred result of its task. -/
  | settle {before after : List (Worker β)} (task : Task) (outcome : Outcome)
    (due : List (Notice β)) :
    Moves (before ++ .settling task outcome :: after) (.settled task outcome)
      (before ++ .notifying task due :: after)
  /-- A worker ran a callback. -/
  | notify {before after : List (Worker β)} (task : Task) (notice : Notice β)
    (rest fresh : List (Notice β)) :
    Moves (before ++ .notifying task (notice :: rest) :: after) (.delivered notice.subject)
      (before ++ .notifying task (fresh ++ rest) :: after)
  /-- A worker released its task. -/
  | release {before after : List (Worker β)} (task : Task) :
    Moves (before ++ .notifying task [] :: after) (.released task) (before ++ after)

/-- After an attempt that resolved the worker completes the task with the result. After one that
failed it tries again or completes the task with an error. -/
theorem afterAttempt_cases (task : Task) (attempt further : Nat) (outcome : Outcome) :
    (∃ result, outcome = .ok result ∧
      (Worker.afterAttempt (β := β) task attempt further outcome).1 = .settling task (.ok result)) ∨
    ∃ error, outcome = .error error ∧
      ((∃ last, (Worker.afterAttempt (β := β) task attempt further outcome).1 =
        .settling task (.error last)) ∨
      ∃ left, (Worker.afterAttempt (β := β) task attempt further outcome).1 =
        .calling task (attempt + 1) left) := by
  cases outcome with
  | ok result => exact .inl ⟨result, rfl, rfl⟩
  | error error =>
    refine .inr ⟨error, rfl, ?_⟩
    cases passes : error.isTransient with
    | false =>
      rw [Worker.afterAttempt_lasting task attempt further passes]
      exact .inl ⟨error, rfl⟩
    | true =>
      cases further with
      | zero =>
        rw [Worker.afterAttempt_last task attempt passes]
        exact .inl ⟨_, rfl⟩
      | succ left =>
        rw [Worker.afterAttempt_again task attempt left passes]
        exact .inr ⟨left, rfl⟩

variable {s t : Pipeline β σ} {backend : Backend σ} {event : Event}

/-- Every step does one of these to the workers. -/
theorem Step.moves (step : Step backend s event t) : Moves s.workers event t.workers := by
  cases step with
  | take task split free => exact .take _ task _
  | call task attempt further split =>
    rw [split]
    exact .call task attempt further _
  | settle task outcome split =>
    rw [split]
    exact .settle task outcome _
  | notify task notice rest split =>
    rw [split]
    exact .notify task notice rest _
  | deliver notice split => exact .client notice.subject
  | release task split =>
    rw [split]
    exact .release task
  | submit | letIn | turnAway | queue | flush | poll | close | expire | drain | finish | watch
  | group | advance => exact .foreign rfl

/-! ## Histories -/

/-- The writes that workers took, in order. -/
def taken (trace : List Event) : List Ticket := trace.filterMap Event.took?

/-- The writes that workers completed, with their outcomes, in order. -/
def settled (trace : List Event) : List (Ticket × Outcome) := trace.filterMap Event.settled?

/-- The writes that workers called the store for, in order of the calls. -/
def called (trace : List Event) : List Ticket := trace.filterMap Event.called?

@[simp] theorem taken_append (first second : List Event) :
    taken (first ++ second) = taken first ++ taken second := List.filterMap_append

@[simp] theorem settled_append (first second : List Event) :
    settled (first ++ second) = settled first ++ settled second := List.filterMap_append

@[simp] theorem called_append (first second : List Event) :
    called (first ++ second) = called first ++ called second := List.filterMap_append

/-- What is none of the workers' business is in no history. -/
theorem histories_foreign (isForeign : event.isForeign = true) :
    taken [event] = [] ∧ settled [event] = [] ∧ called [event] = [] ∧ released [event] = [] := by
  cases event with
  | took | called | settled | delivered | released => cases isForeign
  | submitted | admitted | queued | flushed | polled | closing | expired | drained | closed
  | watched | grouped | advanced => exact ⟨rfl, rfl, rfl, rfl⟩

/-- Taking a task is seen in what was taken. -/
theorem taken_took (position : Nat) (task : Task) :
    taken [.took position task] = task.ticket?.toList := by
  unfold taken
  rw [List.filterMap_cons, show Event.took? (.took position task) = task.ticket? from rfl]
  cases task.ticket? <;> rfl

/-- Completing a task is seen in what was completed. -/
theorem settled_settled (task : Task) (outcome : Outcome) :
    settled [.settled task outcome] = (task.ticket?.map (·, outcome)).toList := by
  unfold settled
  rw [List.filterMap_cons,
    show Event.settled? (.settled task outcome) = task.ticket?.map (·, outcome) from rfl]
  cases task.ticket? <;> rfl

/-- Calling the store for a task is seen in the calls. -/
theorem called_called (task : Task) (outcome : Outcome) :
    called [.called task outcome] = task.ticket?.toList := by
  unfold called
  rw [List.filterMap_cons, show Event.called? (.called task outcome) = task.ticket? from rfl]
  cases task.ticket? <;> rfl

/-- The writes that workers are busy with. -/
def held (workers : List (Worker β)) : List Ticket :=
  workers.filterMap fun worker => worker.task.ticket?

/-- The write of a worker that has completed it and not released it. -/
def completedBy (worker : Worker β) : Option Ticket :=
  if worker.isSettled then worker.task.ticket? else none

/-- The writes that workers have completed and not released. -/
def completed (workers : List (Worker β)) : List Ticket := workers.filterMap completedBy

/-- One entry of a list contributes to what is collected from it where it stands. -/
theorem filterMap_middle {α γ : Type} (collect : α → Option γ) (before after : List α)
    (entry : α) :
    (before ++ entry :: after).filterMap collect =
      before.filterMap collect ++ ((collect entry).toList ++ after.filterMap collect) := by
  rw [List.filterMap_append, List.filterMap_cons]
  cases collect entry with
  | none => rfl
  | some found => rfl

/-- A worker contributes its write. -/
theorem held_middle (before after : List (Worker β)) (worker : Worker β) :
    held (before ++ worker :: after) =
      held before ++ (worker.task.ticket?.toList ++ held after) :=
  filterMap_middle (fun worker : Worker β => worker.task.ticket?) before after worker

/-- A worker contributes its write if it has completed it. -/
theorem completed_middle (before after : List (Worker β)) (worker : Worker β) :
    completed (before ++ worker :: after) =
      completed before ++ ((completedBy worker).toList ++ completed after) :=
  filterMap_middle completedBy before after worker

namespace Moves

variable {workers others : List (Worker β)}

/-- Workers get writes by taking them and lose them by releasing them. -/
theorem held (moves : Moves workers event others) :
    (Pipeline.held workers ++ taken [event]).Perm
      (released [event] ++ Pipeline.held others) := by
  cases moves with
  | foreign isForeign =>
    obtain ⟨none_taken, _, _, none_released⟩ := histories_foreign isForeign
    rw [none_taken, none_released, List.append_nil, List.nil_append]
  | client subject =>
    rw [show taken [.delivered subject] = [] from rfl, List.append_nil]
    exact .refl _
  | take position task further =>
    rw [held_middle, taken_took]
    show (Pipeline.held workers ++ task.ticket?.toList).Perm
      (Pipeline.held workers ++ (task.ticket?.toList ++ []))
    rw [List.append_nil]
  | call task attempt further outcome =>
    rw [held_middle, held_middle, (Worker.afterAttempt_eq ..).1,
      show taken [.called task outcome] = [] from rfl, List.append_nil]
    exact .refl _
  | settle task outcome due =>
    rw [held_middle, held_middle, show taken [.settled task outcome] = [] from rfl,
      List.append_nil]
    exact .refl _
  | notify task notice rest fresh =>
    rw [held_middle, held_middle, show taken [.delivered notice.subject] = [] from rfl,
      List.append_nil]
    exact .refl _
  | @release before after task =>
    rw [held_middle, released_single, show taken [.released task] = [] from rfl, List.append_nil,
      Worker.task_notifying, show Event.released? (.released task) = task.ticket? from rfl]
    unfold Pipeline.held
    rw [List.filterMap_append]
    exact List.perm_append_comm_assoc _ _ _

/-- Workers complete each write that they hold once, before they release it. -/
theorem completed (moves : Moves workers event others) :
    (Pipeline.completed workers ++ (settled [event]).map Prod.fst).Perm
      (released [event] ++ Pipeline.completed others) := by
  cases moves with
  | foreign isForeign =>
    obtain ⟨_, none_settled, _, none_released⟩ := histories_foreign isForeign
    rw [none_settled, none_released, List.map_nil, List.append_nil, List.nil_append]
  | client subject =>
    rw [show settled [.delivered subject] = [] from rfl, List.map_nil, List.append_nil]
    exact .refl _
  | take position task further =>
    rw [completed_middle]
    show (Pipeline.completed workers ++ []).Perm (Pipeline.completed workers ++ ([] ++ []))
    exact .refl _
  | call task attempt further outcome =>
    have open_ : completedBy (Worker.afterAttempt (β := β) task attempt further outcome).1 =
        none := by
      unfold completedBy
      rw [(Worker.afterAttempt_eq ..).2.1]
      rfl
    rw [completed_middle, completed_middle, open_,
      show settled [.called task outcome] = [] from rfl, List.map_nil, List.append_nil]
    exact .refl _
  | @settle before after task outcome due =>
    have seen : (settled [.settled task outcome]).map Prod.fst = task.ticket?.toList := by
      rw [settled_settled]
      cases task.ticket? <;> rfl
    rw [completed_middle, completed_middle, seen]
    show (Pipeline.completed before ++ ([] ++ Pipeline.completed after) ++
      task.ticket?.toList).Perm
        (Pipeline.completed before ++ (task.ticket?.toList ++ Pipeline.completed after))
    rw [List.nil_append, List.append_assoc]
    exact List.perm_append_comm.append_left _
  | notify task notice rest fresh =>
    rw [completed_middle, completed_middle, show settled [.delivered notice.subject] = [] from rfl,
      List.map_nil, List.append_nil]
    exact .refl _
  | @release before after task =>
    rw [completed_middle, released_single, show settled [.released task] = [] from rfl,
      List.map_nil, List.append_nil, show Event.released? (.released task) = task.ticket? from rfl]
    show (Pipeline.completed before ++ (task.ticket?.toList ++ Pipeline.completed after)).Perm _
    unfold Pipeline.completed
    rw [List.filterMap_append]
    exact List.perm_append_comm_assoc _ _ _

/-- The store is called for writes that workers hold. -/
theorem called (moves : Moves workers event others) {write : Ticket}
    (present : write ∈ called [event]) : write ∈ Pipeline.held workers := by
  cases moves with
  | foreign isForeign =>
    obtain ⟨_, _, none_called, _⟩ := histories_foreign isForeign
    rw [none_called] at present
    cases present
  | @call before after task attempt further outcome =>
    rw [called_called] at present
    rw [held_middle]
    exact List.mem_append_right _ (List.mem_append_left _ present)
  | client | take | settle | notify | release => cases present

end Moves

/-! ## Histories of runs -/

variable {settings : Settings} {clock : Clock} {store : σ} {trace : List Event}

/-- The writes that were taken are those that are released or with a worker. -/
theorem Run.taken (run : Run backend (start settings clock store) trace s) :
    (taken trace).Perm (released trace ++ s.executing) := by
  induction run with
  | nil => exact .nil
  | @snoc trace u v event earlier step ih =>
    rw [taken_append, released_append, List.append_assoc]
    have more := ih.append_right (Pipeline.taken [event])
    rw [List.append_assoc] at more
    exact more.trans (step.moves.held.append_left _)

/-- The writes that were completed are those that are released or completed by a worker that has not
released them. -/
theorem Run.settled (run : Run backend (start settings clock store) trace s) :
    ((settled trace).map Prod.fst).Perm (released trace ++ completed s.workers) := by
  induction run with
  | nil => exact .nil
  | @snoc trace u v event earlier step ih =>
    rw [settled_append, released_append, List.map_append, List.append_assoc]
    have more := ih.append_right ((Pipeline.settled [event]).map Prod.fst)
    rw [List.append_assoc] at more
    exact more.trans (step.moves.completed.append_left _)

/-- What a worker completed has the outcome it was completed with. -/
theorem Run.outcome_of_completion (run : Run backend (start settings clock store) trace s)
    {task : Task} {outcome : Outcome} (present : .settled task outcome ∈ trace) :
    s.outcome? task.deferred = some outcome := by
  induction run with
  | nil => cases present
  | @snoc trace u v event earlier step ih =>
    obtain ⟨owned, orderly⟩ := earlier.owned
    rcases List.mem_append.mp present with older | new
    · exact (step.evolves orderly).grows.outcome (ih older)
    · obtain rfl := List.mem_singleton.mp new
      cases step with
      | settle task outcome split => exact owned.outcome_settle (by rw [split]; simp)

/-- A write that was completed has the outcome it was completed with. -/
theorem Run.outcome_of_settled (run : Run backend (start settings clock store) trace s)
    {write : Ticket} {outcome : Outcome} (present : (write, outcome) ∈ Pipeline.settled trace) :
    s.outcome? write.deferred = some outcome := by
  obtain ⟨event, listed, seen⟩ := List.mem_filterMap.mp present
  cases event with
  | settled task other =>
    obtain ⟨ticket, found, same⟩ := Option.map_eq_some_iff.mp seen
    cases same
    rw [Task.deferred_of_ticket found]
    exact run.outcome_of_completion listed
  | submitted | admitted | queued | flushed | polled | closing | expired | drained | closed
  | watched | grouped | advanced | took | called | delivered | released => cases seen

/-- What the store was called for had been taken. -/
theorem Run.taken_of_called (run : Run backend (start settings clock store) trace s)
    {write : Ticket} (present : write ∈ Pipeline.called trace) : write ∈ Pipeline.taken trace := by
  induction run with
  | nil => cases present
  | @snoc trace u v event earlier step ih =>
    rw [called_append] at present
    rw [taken_append]
    apply List.mem_append_left
    rcases List.mem_append.mp present with older | new
    · exact ih older
    · rw [earlier.taken.mem_iff]
      exact List.mem_append_right _ (step.moves.called new)

end WideColumn.Pipeline
