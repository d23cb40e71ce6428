import WideColumn.Proofs.Pipeline.Sections

/-!
# Who holds an accepted write

At any time an accepted write is held by exactly one of four: the buffer, the queue of the pool, a
worker, or nobody any more, once its worker released it. `Custody` says so of the lists alone, and
each way in which a write changes hands keeps it. What is in flight is exactly what the queue and
the workers hold.
-/
namespace WideColumn

/-- Who holds what: workers with their tasks and whether these are settled, the queue of the pool,
the buffer, and what counts as in flight. -/
structure Holdings where
  /-- Workers. -/
  workers : List (Task × Bool)
  /-- Tasks that wait for a worker. -/
  queue : List Task
  /-- Writes that wait for a flush. -/
  buffer : List BufferedWrite
  /-- Writes that were handed over and are not released. -/
  inFlight : List DeferredId

namespace Holdings

/-- The tasks that were handed to the pool and are not released. -/
def tasks (holdings : Holdings) : List Task := holdings.workers.map (·.1) ++ holdings.queue

/-- The writes among the tasks. -/
def writes (holdings : Holdings) : List Ticket := holdings.tasks.filterMap Task.ticket?

/-- The references whose requests somebody holds. -/
def owners (holdings : Holdings) : List DeferredId :=
  holdings.tasks.map Task.deferred ++ holdings.buffer.map BufferedWrite.deferred

/-- Whoever is before or after one in a list is in the list. -/
theorem mem_of_split {α : Type} {whole before after : List α} {one other : α}
    (split : whole = before ++ one :: after) (listed : other ∈ before ++ after) :
    other ∈ whole := by
  rw [split]
  rcases List.mem_append.mp listed with early | late
  · exact List.mem_append_left _ early
  · exact List.mem_append_right _ (List.mem_cons_of_mem _ late)

/-- Every accepted write is held by exactly one, or is released. -/
structure Custody (accepted released : List Ticket) (holdings : Holdings) : Prop where
  /-- Nothing is lost and nothing doubled. -/
  conserved : accepted.Perm
    (released ++ holdings.writes ++ holdings.buffer.map BufferedWrite.ticket)
  /-- No reference is given to two accepted writes. -/
  once : (accepted.map Ticket.deferred).Nodup
  /-- No reference is held twice. -/
  distinct : holdings.owners.Nodup
  /-- What is in flight is what was handed over and not released. -/
  inFlight : holdings.inFlight.Perm (holdings.writes.map Ticket.deferred)
  /-- The buffer holds writes only. -/
  isWrite : ∀ write ∈ holdings.buffer, write.request.kind.isWrite = true

end Holdings

/-- The ticket of a task carries the reference of the task. -/
theorem Task.deferred_of_ticket {task : Task} {ticket : Ticket}
    (found : task.ticket? = some ticket) : ticket.deferred = task.deferred := by
  obtain ⟨request, _, rfl⟩ := Option.map_eq_some_iff.mp found
  rfl

/-- The ticket of a task carries the request of the task, which is a write. -/
theorem Task.submission_of_ticket {task : Task} {ticket : Ticket}
    (found : task.ticket? = some ticket) :
    task.submission = .request ticket.request ∧ ticket.request.kind.isWrite = true := by
  obtain ⟨request, write, rfl⟩ := Option.map_eq_some_iff.mp found
  unfold Submission.write? at write
  split at write
  · rename_i described same
    split at write
    · rename_i isWrite
      cases write
      exact ⟨same, isWrite⟩
    · cases write
  · cases write

/-- A request without a ticket is no write. -/
theorem Task.isRead_of_ticket {task : Task} (absent : task.ticket? = none) {request : Request}
    (described : task.submission = .request request) : request.kind.isWrite = false := by
  simpa [Task.ticket?, Submission.write?, described] using absent

/-- A task with a ticket is a write. -/
theorem Task.isWrite_of_ticket {task : Task} {ticket : Ticket}
    (found : task.ticket? = some ticket) : task.submission.isWrite = true := by
  obtain ⟨described, isWrite⟩ := Task.submission_of_ticket found
  rw [described]
  simpa [Submission.isWrite, Submission.kind?] using isWrite

/-- A submission that is no write makes a task without a ticket. -/
theorem Task.ticket_of_read {task : Task} (isRead : task.submission.write? = none) :
    task.ticket? = none := by
  unfold Task.ticket?
  rw [isRead]
  rfl

/-- A buffered write and the task it becomes are the same accepted write. -/
theorem BufferedWrite.ticket_toTask {write : BufferedWrite}
    (isWrite : write.request.kind.isWrite = true) :
    write.toTask.ticket? = some write.ticket := by
  simp [Task.ticket?, BufferedWrite.toTask, Submission.write?, isWrite, BufferedWrite.ticket]

/-- Buffered writes and the tasks they become are the same accepted writes. -/
theorem BufferedWrite.tickets_toTask {writes : List BufferedWrite}
    (isWrite : ∀ write ∈ writes, write.request.kind.isWrite = true) :
    (writes.map BufferedWrite.toTask).filterMap Task.ticket? = writes.map BufferedWrite.ticket := by
  induction writes with
  | nil => rfl
  | cons first rest ih =>
    have here := BufferedWrite.ticket_toTask (isWrite first List.mem_cons_self)
    have others := ih fun write listed => isWrite write (List.mem_cons_of_mem first listed)
    rw [List.map_cons, List.filterMap_cons, here, others, List.map_cons]

namespace Holdings.Custody

variable {accepted released : List Ticket} {holdings : Holdings}

/-- An accepted write is buffered, held by the pool or released, and nothing else is. -/
theorem mem_iff (custody : holdings.Custody accepted released) (ticket : Ticket) :
    ticket ∈ accepted ↔ ticket ∈ released ∨ ticket ∈ holdings.writes ∨
      ticket ∈ holdings.buffer.map BufferedWrite.ticket := by
  rw [custody.conserved.mem_iff, List.mem_append, List.mem_append, or_assoc]

/-- A write is accepted. -/
theorem accept (custody : holdings.Custody accepted released) {write : BufferedWrite}
    (isWrite : write.request.kind.isWrite = true)
    (unknown : write.deferred ∉ accepted.map Ticket.deferred)
    (free : write.deferred ∉ holdings.owners) :
    ({ holdings with buffer := holdings.buffer ++ [write] }).Custody
      (accepted ++ [write.ticket]) released where
  conserved := by
    have grown := custody.conserved.append_right [write.ticket]
    rw [List.append_assoc] at grown
    simpa [writes, tasks] using grown
  once := by
    rw [List.map_append, List.nodup_append]
    refine ⟨custody.once, by simp, ?_⟩
    intro id known other fresh
    obtain rfl := List.mem_singleton.mp fresh
    rintro rfl
    exact unknown known
  distinct := by
    have same : ({ holdings with buffer := holdings.buffer ++ [write] }).owners =
        holdings.owners ++ [write.deferred] := by
      simp [owners, tasks]
    rw [same, List.nodup_append]
    refine ⟨custody.distinct, by simp, ?_⟩
    intro id known other fresh
    obtain rfl := List.mem_singleton.mp fresh
    rintro rfl
    exact free known
  inFlight := custody.inFlight
  isWrite other held := by
    rcases List.mem_append.mp held with older | fresh
    · exact custody.isWrite other older
    · obtain rfl := List.mem_singleton.mp fresh
      exact isWrite

/-- Everything that is buffered is handed to the pool. -/
theorem handOver (custody : holdings.Custody accepted released) :
    ({ holdings with
      queue := holdings.queue ++ holdings.buffer.map BufferedWrite.toTask
      buffer := []
      inFlight := holdings.inFlight ++ holdings.buffer.map BufferedWrite.deferred }).Custody
      accepted released where
  conserved := by
    have moved := BufferedWrite.tickets_toTask custody.isWrite
    have all := custody.conserved
    simp only [writes, tasks, List.filterMap_append] at all ⊢
    rw [moved]
    simpa [List.append_assoc] using all
  once := custody.once
  distinct := by
    have same := custody.distinct
    simp only [owners, tasks, List.map_append, List.map_map] at same ⊢
    simpa [List.append_assoc, Function.comp_def, BufferedWrite.toTask] using same
  inFlight := by
    have moved := BufferedWrite.tickets_toTask custody.isWrite
    have before := custody.inFlight.append_right (holdings.buffer.map BufferedWrite.deferred)
    simp only [writes, tasks, List.filterMap_append, List.map_append] at before ⊢
    rw [moved]
    simpa [List.append_assoc, Function.comp_def, BufferedWrite.ticket] using before
  isWrite _ held := nomatch held

/-- A read is queued. -/
theorem queueRead (custody : holdings.Custody accepted released) {task : Task}
    (isRead : task.ticket? = none) (free : task.deferred ∉ holdings.owners) :
    ({ holdings with queue := holdings.queue ++ [task] }).Custody accepted released where
  conserved := by
    simpa [writes, tasks, List.filterMap_append, isRead] using custody.conserved
  once := custody.once
  distinct := by
    have same : ({ holdings with queue := holdings.queue ++ [task] }).owners.Perm
        (task.deferred :: holdings.owners) := by
      simp only [owners, tasks, List.map_append, List.map_cons, List.map_nil]
      rw [← List.append_assoc, List.append_assoc]
      exact List.perm_middle
    rw [same.nodup_iff, List.nodup_cons]
    exact ⟨free, custody.distinct⟩
  inFlight := by
    simpa [writes, tasks, List.filterMap_append, isRead] using custody.inFlight
  isWrite := custody.isWrite

/-- Custody looks at the tasks of the pool as a whole and not at their order. -/
theorem reorder {workers : List (Task × Bool)} {queue : List Task}
    (custody : holdings.Custody accepted released)
    (same : holdings.tasks.Perm ({ holdings with workers, queue }).tasks) :
    ({ holdings with workers, queue }).Custody accepted released where
  conserved := by
    have moved := same.filterMap Task.ticket?
    exact custody.conserved.trans ((moved.append_left released).append_right _)
  once := custody.once
  distinct := ((same.map Task.deferred).append_right _).nodup_iff.mp custody.distinct
  inFlight := custody.inFlight.trans ((same.filterMap Task.ticket?).map Ticket.deferred)
  isWrite := custody.isWrite

/-- A worker takes a task of the queue. -/
theorem take (custody : holdings.Custody accepted released) {before after : List Task}
    {task : Task} (split : holdings.queue = before ++ task :: after) (settled : Bool) :
    ({ holdings with
      workers := holdings.workers ++ [(task, settled)]
      queue := before ++ after }).Custody accepted released := by
  apply custody.reorder
  simp only [tasks, split, List.map_append, List.map_cons, List.map_nil]
  rw [List.append_assoc]
  exact List.perm_middle.append_left _

/-- A worker gets on with its task. -/
theorem settle (custody : holdings.Custody accepted released)
    {before after : List (Task × Bool)} {task : Task} {was : Bool}
    (split : holdings.workers = before ++ (task, was) :: after) (settled : Bool) :
    ({ holdings with workers := before ++ (task, settled) :: after }).Custody
      accepted released := by
  apply custody.reorder
  simp [tasks, split]

/-- A worker releases its task. -/
theorem release (custody : holdings.Custody accepted released)
    {before after : List (Task × Bool)} {task : Task} {settled : Bool}
    (split : holdings.workers = before ++ (task, settled) :: after) :
    ({ holdings with
      workers := before ++ after
      inFlight := if task.submission.isWrite then holdings.inFlight.erase task.deferred
        else holdings.inFlight }).Custody accepted (released ++ task.ticket?.toList) := by
  let rest : Holdings := { holdings with workers := before ++ after }
  have tasksSplit : holdings.tasks.Perm (task :: rest.tasks) := by
    simp only [tasks, split, rest, List.map_append, List.map_cons, List.append_assoc]
    exact List.perm_middle
  have writesSplit : holdings.writes.Perm (task.ticket?.toList ++ rest.writes) := by
    have moved := tasksSplit.filterMap Task.ticket?
    unfold writes
    cases found : task.ticket? with
    | none => simpa [found] using moved
    | some ticket => simpa [found] using moved
  have ownersSplit : holdings.owners.Perm (task.deferred :: rest.owners) := by
    have moved := (tasksSplit.map Task.deferred).append_right
      (holdings.buffer.map BufferedWrite.deferred)
    exact moved
  have apart := ownersSplit.nodup_iff.mp custody.distinct
  rw [List.nodup_cons] at apart
  refine ⟨?_, custody.once, apart.2, ?_, custody.isWrite⟩
  · have moved := (writesSplit.append_left released).append_right
      (holdings.buffer.map BufferedWrite.ticket)
    have all := custody.conserved.trans moved
    rw [← List.append_assoc] at all
    exact all
  · show (if task.submission.isWrite then holdings.inFlight.erase task.deferred
        else holdings.inFlight).Perm (rest.writes.map Ticket.deferred)
    cases found : task.ticket? with
    | some ticket =>
      rw [if_pos (Task.isWrite_of_ticket found)]
      have before := custody.inFlight.trans (writesSplit.map Ticket.deferred)
      rw [found] at before
      simp only [Option.toList_some, List.singleton_append, List.map_cons,
        Task.deferred_of_ticket found] at before
      simpa using before.erase task.deferred
    | none =>
      -- What is no buffered write was never in flight, whatever it claims to be.
      have before := custody.inFlight.trans (writesSplit.map Ticket.deferred)
      rw [found] at before
      simp only [Option.toList_none, List.nil_append] at before
      have absent : task.deferred ∉ holdings.inFlight := by
        intro flying
        obtain ⟨ticket, held, same⟩ := List.mem_map.mp (before.mem_iff.mp flying)
        obtain ⟨other, listed, owns⟩ := List.mem_filterMap.mp held
        apply apart.1
        apply List.mem_append_left
        rw [← same, Task.deferred_of_ticket owns]
        exact List.mem_map_of_mem listed
      split
      · rw [List.erase_of_not_mem absent]
        exact before
      · exact before

end Holdings.Custody
end WideColumn
