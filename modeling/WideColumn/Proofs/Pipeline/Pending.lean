import WideColumn.Proofs.Pipeline.Conservation

/-!
# What the number of pending writes counts

A write counts as pending until its worker releases it, and a worker releases a write after it has
run all callbacks of the completion. The count is therefore the number of accepted writes that are
not terminal, plus the number of writes that are terminal while their worker runs callbacks. A
callback sees the write it is about still counted, and a write submitted then may be refused
although nothing is left to wait for.
-/
namespace WideColumn.Pipeline

variable {β σ : Type} {accepted released : List Ticket} {s t : Pipeline β σ}

/-- The accepted writes that are not terminal. -/
def outstanding (trace : List Event) (s : Pipeline β σ) : List Ticket :=
  (Pipeline.accepted trace).filter fun write => !s.deferreds.isDone write.deferred

/-- What counts as pending is buffered, queued or with a worker. -/
theorem Owned.pendingWrites_eq (owned : s.Owned accepted released) :
    s.dispatcher.pendingWrites = s.buffered.length + s.queued.length + s.executing.length := by
  have flying : s.dispatcher.inFlight.length = s.executing.length + s.queued.length := by
    have same := owned.custody.inFlight.length_eq
    rw [holdings_writes, List.length_map, List.length_append] at same
    exact same
  have waiting : s.dispatcher.buffer.size = s.buffered.length := by
    unfold WriteBuffer.size buffered
    rw [List.length_map]
  unfold Dispatcher.pendingWrites
  omega

/-- Among the writes of workers those are not terminal that nobody has completed. -/
theorem length_filter_held {table : Deferreds β} {workers : List (Worker β)}
    (told : ∀ worker ∈ workers, table.isDone worker.task.deferred = worker.isSettled) :
    ((held workers).filter fun write => !table.isDone write.deferred).length +
      (completed workers).length = (held workers).length := by
  induction workers with
  | nil => rfl
  | cons worker rest ih =>
    have others := ih fun other listed => told other (List.mem_cons_of_mem worker listed)
    have here := told worker List.mem_cons_self
    rw [show held (worker :: rest) = worker.task.ticket?.toList ++ held rest from
        held_middle [] rest worker,
      show completed (worker :: rest) = (completedBy worker).toList ++ completed rest from
        completed_middle [] rest worker,
      List.filter_append, List.length_append, List.length_append, List.length_append]
    unfold completedBy
    cases found : worker.task.ticket? with
    | none =>
      simp only [ite_self, Option.toList_none, List.filter_nil, List.length_nil]
      omega
    | some ticket =>
      have same := Task.deferred_of_ticket found
      cases settled : worker.isSettled with
      | true =>
        simp only [same, here, settled, ↓reduceIte, Option.toList_some, List.filter_cons,
          Bool.not_true, Bool.false_eq_true, List.filter_nil, List.length_nil, List.length_cons]
        omega
      | false =>
        simp only [same, here, settled, ↓reduceIte, Option.toList_some, Option.toList_none,
          List.filter_cons, Bool.not_false, Bool.false_eq_true, List.filter_nil, List.length_nil,
          List.length_cons]
        omega

/-- The deferred result of a task with a worker is terminal once the worker has completed it. -/
theorem Owned.isDone_worker (owned : s.Owned accepted released) {worker : Worker β}
    (busy : worker ∈ s.workers) : s.deferreds.isDone worker.task.deferred = worker.isSettled := by
  have held : (worker.task, worker.isSettled) ∈ s.holdings.workers :=
    List.mem_map.mpr ⟨worker, busy, rfl⟩
  unfold Deferreds.isDone
  cases settled : worker.isSettled with
  | true =>
    rw [settled] at held
    exact Option.isSome_iff_exists.mpr (owned.backed.settled held)
  | false =>
    rw [settled] at held
    rw [owned.backed.busy held]
    rfl

/-- Every write that counts as pending is not terminal, or its worker has completed it and not
released it. -/
theorem Owned.length_outstanding (owned : s.Owned accepted released) :
    s.dispatcher.pendingWrites =
      (accepted.filter fun write => !s.deferreds.isDone write.deferred).length +
        (completed s.workers).length := by
  let isPending : Ticket → Bool := fun write => !s.deferreds.isDone write.deferred
  have gone : released.filter isPending = [] := by
    apply List.filter_eq_nil_iff.mpr
    intro write present
    have done : s.deferreds.isDone write.deferred = true :=
      Option.isSome_iff_exists.mpr (owned.backed.released present)
    simp [isPending, done]
  have queued : s.queued.filter isPending = s.queued := by
    apply List.filter_eq_self.mpr
    intro write present
    obtain ⟨task, waits, found⟩ := List.mem_filterMap.mp present
    simp [isPending, Deferreds.isDone, Task.deferred_of_ticket found, owned.backed.waits waits]
  have buffered : s.buffered.filter isPending = s.buffered := by
    apply List.filter_eq_self.mpr
    intro write present
    obtain ⟨entry, waits, rfl⟩ := List.mem_map.mp present
    simp [isPending, Deferreds.isDone, BufferedWrite.ticket, owned.backed.buffered waits]
  have executing : (s.executing.filter isPending).length + (completed s.workers).length =
      s.executing.length := length_filter_held fun worker busy => owned.isDone_worker busy
  have total := (owned.custody.conserved.filter isPending).length_eq
  rw [holdings_writes, List.filter_append, List.filter_append, List.filter_append, gone, queued,
    show s.holdings.buffer.map BufferedWrite.ticket = s.buffered from rfl, buffered,
    List.nil_append, List.length_append, List.length_append] at total
  rw [owned.pendingWrites_eq]
  show _ = (accepted.filter isPending).length + _
  omega

/-- With everything released nothing counts as pending. -/
theorem Owned.pendingWrites_eq_zero (owned : s.Owned accepted released)
    (done : ∀ write ∈ accepted, write ∈ released) : s.dispatcher.pendingWrites = 0 := by
  have nobody : s.executing ++ s.queued ++ s.buffered = [] := by
    apply List.eq_nil_iff_forall_not_mem.mpr
    intro write held
    have listed : write ∈ accepted := by
      rw [owned.custody.mem_iff, holdings_writes, ← List.mem_append]
      exact .inr held
    have total := owned.occurrences listed
    have gone := occurrences_pos (done write listed)
    have here := occurrences_pos held
    rw [occurrences_append, occurrences_append] at here
    omega
  have none_held := congrArg List.length nobody
  rw [List.length_append, List.length_append, List.length_nil] at none_held
  rw [owned.pendingWrites_eq]
  omega

/-- An open dispatcher with room accepts a write, which may trigger a flush. -/
theorem Orderly.enqueue_ok (orderly : s.Orderly) (request : Request)
    (isOpen : s.dispatcher.isClosed = false)
    (room : (s.dispatcher.pendingWrites : Int) < s.dispatcher.settings.buffer.maxPendingWrites) :
    (s.dispatcher.enqueue request).1 = .ok s.deferreds.size := by
  have ended := s.dispatcher.enqueues request
  generalize s.dispatcher.enqueue request = result at ended
  cases ended with
  | late isClosed =>
    rw [isOpen] at isClosed
    cases isClosed
  | full isOpen reached => exact absurd room (Int.not_lt.mpr reached)
  | buffered isOpen below quiet => rfl
  | triggered isOpen below reason fired =>
    obtain ⟨journal, flushed⟩ := (s.dispatcher.accept request).2.flush_eq reason
      (orderly.accepts_more request isOpen)
    rw [flushed]
    rfl

/-- A write is refused for want of room only while the count of pending writes is at the bound. -/
theorem Step.refused_full {backend : Backend σ} (orderly : s.Orderly) {request : Request}
    {pending : Nat} {capacity : Int}
    (step : Step backend s (.submitted request (.error (.bufferFull pending capacity))) t) :
    pending = s.dispatcher.pendingWrites ∧
      capacity = s.dispatcher.settings.buffer.maxPendingWrites ∧ capacity ≤ pending := by
  rcases (step.refused orderly).1 with ⟨_, late⟩ | ⟨reached, full⟩
  · cases late
  · cases full
    exact ⟨rfl, rfl, reached⟩

variable {backend : Backend σ} {settings : Settings} {clock : Clock} {store : σ}
  {trace : List Event}

/-- The count of pending writes is the number of accepted writes that are not terminal plus the
number of writes that a worker has completed and not released, and it is this sum that has reached
the bound when a write is refused for want of room. Once every accepted write is released, whether
its outcome is a success or not, an open dispatcher accepts the next. -/
theorem pending_writes_counted
    (run : Run backend (start settings clock store : Pipeline β σ) trace s) :
    s.dispatcher.pendingWrites = (outstanding trace s).length + (completed s.workers).length ∧
      (∀ {request : Request} {pending : Nat} {capacity : Int} {t : Pipeline β σ},
        Step backend s (.submitted request (.error (.bufferFull pending capacity))) t →
          pending = (outstanding trace s).length + (completed s.workers).length ∧
            capacity = s.dispatcher.settings.buffer.maxPendingWrites ∧ capacity ≤ pending) ∧
      (s.dispatcher.isClosed = false → 0 < s.dispatcher.settings.buffer.maxPendingWrites →
        (∀ write ∈ Pipeline.accepted trace, write ∈ Pipeline.released trace) →
          ∀ request : Request, (s.dispatcher.enqueue request).1 = .ok s.deferreds.size) := by
  obtain ⟨owned, orderly⟩ := run.owned
  have counted := owned.length_outstanding
  refine ⟨counted, ?_, ?_⟩
  · intro request pending capacity t step
    obtain ⟨same, bound, reached⟩ := step.refused_full orderly
    exact ⟨same.trans counted, bound, reached⟩
  · intro isOpen positive done request
    apply orderly.enqueue_ok request isOpen
    rw [owned.pendingWrites_eq_zero done]
    exact positive

/-- Settings with room for one write. -/
def cramped : Settings := { manual with buffer := ⟨none, none, 1⟩ }

/-- A put was submitted and flushed and its call is over. The worker has completed it, with it the
barrier of the flush, and is about to report the end of the flush. -/
def reporting : List Event × Pipeline Unit Unit :=
  played forgetful (start cramped ⟨.int 0⟩ ())
    [.submit (smallPut [97]), .flush .explicit, .take 0, .work 0, .work 0, .work 0]

/-- While the worker reports, the one write counts, and another is refused on its account. -/
theorem pending_writes_counted_reporting :
    Run forgetful (start cramped ⟨.int 0⟩ ()) reporting.1 reporting.2 ∧
      Step forgetful reporting.2 (.submitted (smallPut [98]) (.error (.bufferFull 1 1)))
        (reporting.2.after (reporting.2.dispatcher.enqueue (smallPut [98])).2) ∧
      1 = (outstanding reporting.1 reporting.2).length + (completed reporting.2.workers).length ∧
      outstanding reporting.1 reporting.2 = [] := by
  have run : Run forgetful (start cramped ⟨.int 0⟩ ()) reporting.1 reporting.2 := run_played rfl
  have refused : Step forgetful reporting.2
      (.submitted (smallPut [98]) (.error (.bufferFull 1 1)))
      (reporting.2.after (reporting.2.dispatcher.enqueue (smallPut [98])).2) :=
    .submit (smallPut [98]) rfl
  exact ⟨run, refused, ((pending_writes_counted run).2.1 refused).1, rfl⟩

/-- Every accepted write is terminal and so is the barrier of the flush, yet one write counts as
pending and the next is refused for want of room. -/
theorem pending_writes_inexact :
    Run forgetful (start cramped ⟨.int 0⟩ ()) reporting.1 reporting.2 ∧
      Pipeline.accepted reporting.1 = [⟨0, smallPut [97]⟩] ∧
      reporting.2.outcome? 0 = some (.ok .nothing) ∧
      reporting.2.outcome? 1 = some (.ok .nothing) ∧
      outstanding reporting.1 reporting.2 = [] ∧
      reporting.2.dispatcher.pendingWrites = 1 ∧
      (reporting.2.dispatcher.enqueue (smallPut [98])).1 = .error (.bufferFull 1 1) :=
  ⟨run_played rfl, rfl, rfl, rfl, rfl, rfl, rfl⟩

end WideColumn.Pipeline
