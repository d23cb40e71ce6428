import WideColumn.Proofs.Deferred.Group
import WideColumn.Proofs.Pipeline.Basic

/-!
# What each section under the lock does

One equation for each way a section can end. A flush hands over everything that is buffered, which
cannot fail as long as the pool is open or nothing is buffered. A submission is refused and leaves
only a line in the journal, or the write is buffered and possibly flushed at once.
-/
namespace WideColumn

/-- The work that a buffered write becomes. -/
def BufferedWrite.toTask (write : BufferedWrite) : Task :=
  ⟨.request write.request, write.deferred, none⟩

namespace Dispatcher

variable {β : Type}

/-- Handing over is adding to what is in flight and to the queue. -/
theorem handOver_eq (writes : List BufferedWrite) (dispatcher : Dispatcher β)
    (accepts : dispatcher.isShutDown = true → writes = []) :
    handOver writes dispatcher =
      (.ok (), { dispatcher with
        inFlight := dispatcher.inFlight ++ writes.map (·.deferred)
        queue := dispatcher.queue ++ writes.map BufferedWrite.toTask }) := by
  induction writes generalizing dispatcher with
  | nil => simp [handOver]
  | cons write rest ih =>
    have running : dispatcher.isShutDown = false := by
      cases shut : dispatcher.isShutDown with
      | false => rfl
      | true => cases accepts shut
    have next := ih { dispatcher with
      inFlight := dispatcher.inFlight ++ [write.deferred]
      queue := dispatcher.queue ++ [write.toTask] } (fun shut => by simp [running] at shut)
    simp only [handOver, running, Bool.false_eq_true, ↓reduceIte]
    rw [show (⟨.request write.request, write.deferred, none⟩ : Task) = write.toTask from rfl]
    rw [running] at next
    rw [next]
    simp only [List.append_assoc, List.cons_append, List.nil_append, List.map_cons]

/-- The members of the barrier of a flush: what is drained, then what is in flight. -/
def flushMembers (dispatcher : Dispatcher β) : List DeferredId :=
  dispatcher.buffer.entries.map (·.deferred) ++ dispatcher.inFlight

/-- The table after a flush, with its barrier, and what became due. -/
def flushTable (reason : FlushReason) (dispatcher : Dispatcher β) :
    Deferreds β × List (Notice β) :=
  let grouped := (dispatcher.deferreds.group dispatcher.flushMembers
    dispatcher.settings.timeouts.flushTimeout).2
  if dispatcher.buffer.entries.isEmpty then (grouped, [])
  else grouped.register dispatcher.deferreds.size
    (.flushed reason dispatcher.buffer.entries.length)

/-- The dispatcher after a flush. -/
def flushed (reason : FlushReason) (dispatcher : Dispatcher β) (journal : List Log.Event) :
    Dispatcher β :=
  { dispatcher with
    deferreds := (dispatcher.flushTable reason).1
    buffer := .empty
    triggers := .start dispatcher.clock.now
    inFlight := dispatcher.inFlight ++ dispatcher.buffer.entries.map (·.deferred)
    queue := dispatcher.queue ++ dispatcher.buffer.entries.map BufferedWrite.toTask
    journal }

/-- A flush gives a barrier and hands over everything that is buffered. -/
theorem flush_eq (reason : FlushReason) (dispatcher : Dispatcher β)
    (accepts : dispatcher.isShutDown = true → dispatcher.buffer.entries = []) :
    ∃ journal, dispatcher.flush reason =
      (.ok dispatcher.deferreds.size, (dispatcher.flushTable reason).2,
        dispatcher.flushed reason journal) := by
  have handed := handOver_eq dispatcher.buffer.entries { dispatcher with
    buffer := .empty, triggers := dispatcher.triggers.reset dispatcher.clock.now } accepts
  unfold flush
  simp only [WriteBuffer.swap]
  rw [handed]
  unfold flushed flushTable flushMembers
  by_cases empty : dispatcher.buffer.entries.isEmpty = true
  · refine ⟨dispatcher.journal, ?_⟩
    simp only [empty, ↓reduceIte, Deferreds.group_fst, Triggers.reset]
  · simp only [empty, Deferreds.group_fst, Triggers.reset, log]
    exact ⟨_, rfl⟩

/-- A submission of a write is refused and changes nothing but the journal, or it is accepted, and
flushed together with all that is buffered if a trigger fires. -/
inductive Enqueues (request : Request) (dispatcher : Dispatcher β) :
    Except Error DeferredId × List (Notice β) × Dispatcher β → Prop where
  /-- Closing has begun. -/
  | late (isClosed : dispatcher.isClosed = true) :
    Enqueues request dispatcher (.error (.closed request.kind false), [], dispatcher)
  /-- As many writes are outstanding as may be. -/
  | full (isOpen : dispatcher.isClosed = false)
    (reached : dispatcher.settings.buffer.maxPendingWrites ≤ dispatcher.pendingWrites) :
    Enqueues request dispatcher
      (.error (.bufferFull dispatcher.pendingWrites dispatcher.settings.buffer.maxPendingWrites),
        [], dispatcher.log (rejected request dispatcher.pendingWrites
          dispatcher.settings.buffer.maxPendingWrites))
  /-- The write is buffered. -/
  | buffered (isOpen : dispatcher.isClosed = false)
    (below : ¬ dispatcher.settings.buffer.maxPendingWrites ≤ dispatcher.pendingWrites)
    (quiet : (dispatcher.accept request).2.triggers.found = none) :
    Enqueues request dispatcher
      (.ok dispatcher.deferreds.size, [], (dispatcher.accept request).2)
  /-- The write is buffered and a trigger fires. -/
  | triggered (isOpen : dispatcher.isClosed = false)
    (below : ¬ dispatcher.settings.buffer.maxPendingWrites ≤ dispatcher.pendingWrites)
    (reason : FlushReason)
    (fired : (dispatcher.accept request).2.triggers.found = some reason) :
    Enqueues request dispatcher
      (((dispatcher.accept request).2.flush reason).1.map fun _ => dispatcher.deferreds.size,
        ((dispatcher.accept request).2.flush reason).2)

/-- Every submission of a write ends in one of these ways. -/
theorem enqueues (request : Request) (dispatcher : Dispatcher β) :
    Enqueues request dispatcher (dispatcher.enqueue request) := by
  unfold enqueue
  by_cases isClosed : dispatcher.isClosed = true
  · simp only [isClosed, ↓reduceIte]
    exact .late isClosed
  · have isOpen : dispatcher.isClosed = false := Bool.eq_false_iff.mpr isClosed
    simp only [isClosed]
    by_cases reached : dispatcher.settings.buffer.maxPendingWrites ≤ dispatcher.pendingWrites
    · simp only [reached, ↓reduceIte]
      exact .full isOpen reached
    · simp only [reached, ↓reduceIte]
      cases fired : (dispatcher.accept request).2.triggers.found with
      | none => exact .buffered isOpen reached fired
      | some reason => exact .triggered isOpen reached reason fired

/-- A poll evaluates the triggers, and flushes if one has fired. -/
inductive Polls (dispatcher : Dispatcher β) :
    Except Error (Option FlushReason) × List (Notice β) × Dispatcher β → Prop where
  /-- No trigger has fired. -/
  | quiet (triggers : Triggers Number) :
    Polls dispatcher (.ok none, [], { dispatcher with triggers })
  /-- A trigger has fired. -/
  | fired (triggers : Triggers Number) (reason : FlushReason) :
    Polls dispatcher
      (({ dispatcher with triggers }.flush reason).1.map fun _ => some reason,
        ({ dispatcher with triggers }.flush reason).2)

/-- Every poll ends in one of these ways. -/
theorem polls (dispatcher : Dispatcher β) : Polls dispatcher dispatcher.poll := by
  unfold poll
  let triggers := dispatcher.triggers.evaluate dispatcher.settings.buffer.bounds
    dispatcher.clock.now
  cases fired : triggers.found with
  | none =>
    simp only [triggers] at fired
    simp only [fired]
    exact .quiet triggers
  | some reason =>
    simp only [triggers] at fired
    simp only [fired]
    exact .fired triggers reason

end Dispatcher
end WideColumn
