import WideColumn.Proofs.Pipeline.Ownership

/-!
# What a step does to the dispatcher

Deferred results, the time and the journal change all the time. What else there is, the buffer and
its triggers, what is in flight, the queue of the pool and whether anything is closed, changes in
few ways, and the event tells which. An invariant of these parts needs one case for each way.
-/
namespace WideColumn.Pipeline

variable {β σ : Type}

/-- Whether an event leaves everything alone but deferred results, the time and the journal. -/
def Event.isSilent : Event → Bool
  | submitted _ (.ok _) | queued _ (.ok _) | flushed .. | polled _ | closing _ | expired | drained
  | took .. | released _ => false
  | _ => true

/-- What a step does to the dispatcher. -/
inductive Changes (d : Dispatcher β) : Event → Dispatcher β → Prop where
  /-- Nothing but deferred results, the time and the journal changes. -/
  | silent {event : Event} (isSilent : event.isSilent = true) (clock : Clock)
    (deferreds : Deferreds β) (journal : List Log.Event) :
    Changes d event { d with clock, deferreds, journal }
  /-- A write is buffered. -/
  | buffered (request : Request) (isOpen : d.isClosed = false)
    (below : ¬ d.settings.buffer.maxPendingWrites ≤ d.pendingWrites)
    (quiet : (d.accept request).2.triggers.found = none) :
    Changes d (.submitted request (.ok d.deferreds.size)) (d.accept request).2
  /-- A write is buffered and everything is flushed. -/
  | triggered (request : Request) (isOpen : d.isClosed = false)
    (below : ¬ d.settings.buffer.maxPendingWrites ≤ d.pendingWrites)
    (reason : FlushReason) (journal : List Log.Event) :
    Changes d (.submitted request (.ok d.deferreds.size))
      ((d.accept request).2.flushed reason journal)
  /-- Everything is flushed. -/
  | flushed (reason : FlushReason) (journal : List Log.Event) :
    Changes d (.flushed reason (.ok d.deferreds.size)) (d.flushed reason journal)
  /-- The triggers are evaluated, and none has fired. -/
  | evaluated (found : Option FlushReason) :
    Changes d (.polled (.ok none)) { d with triggers := { d.triggers with found } }
  /-- The triggers are evaluated, and everything is flushed. -/
  | polled (reason : FlushReason) (journal : List Log.Event) :
    Changes d (.polled (.ok (some reason))) (d.flushed reason journal)
  /-- Closing begins, and everything is flushed. -/
  | closed (isOpen : d.isClosed = false) (journal : List Log.Event) :
    Changes d (.closing (.ok (some d.deferreds.size)))
      ({ d with isClosed := true }.flushed .shutdown journal)
  /-- Closing had begun before, and nothing changes. -/
  | again (isClosed : d.isClosed = true) : Changes d (.closing (.ok none)) d
  /-- The pool is shut down. -/
  | shutDown {event : Event} (ends : event = .expired ∨ event = .drained)
    (isClosed : d.isClosed = true) :
    Changes d event d.shutDownPool
  /-- A read is queued. -/
  | queued (submission : Submission) (filter : Option Store.Filter)
    (running : d.isShutDown = false) (deferreds : Deferreds β) :
    Changes d (.queued submission (.ok d.deferreds.size))
      { d with deferreds, queue := d.queue ++ [⟨submission, d.deferreds.size, filter⟩] }
  /-- A task leaves the queue. -/
  | took {before after : List Task} (task : Task) (split : d.queue = before ++ task :: after) :
    Changes d (.took before.length task) { d with queue := before ++ after }
  /-- A task is released. -/
  | released (task : Task) : Changes d (.released task) (d.release task)

variable {s t : Pipeline β σ} {backend : Backend σ} {event : Event}

/-- What a submission of a write does to the dispatcher. -/
theorem changes_submit (orderly : s.Orderly) (request : Request) :
    Changes s.dispatcher (.submitted request (s.dispatcher.enqueue request).1)
      (s.dispatcher.enqueue request).2.2 := by
  have ended := s.dispatcher.enqueues request
  generalize s.dispatcher.enqueue request = result at ended
  cases ended with
  | late isClosed => exact .silent rfl s.dispatcher.clock s.dispatcher.deferreds _
  | full isOpen reached => exact .silent rfl s.dispatcher.clock s.dispatcher.deferreds _
  | buffered isOpen below quiet => exact .buffered request isOpen below quiet
  | triggered isOpen below reason fired =>
    obtain ⟨journal, flushed⟩ := (s.dispatcher.accept request).2.flush_eq reason
      (orderly.accepts_more request isOpen)
    rw [flushed]
    exact .triggered request isOpen below reason journal

/-- What a poll does to the dispatcher. -/
theorem changes_poll (orderly : s.Orderly) :
    Changes s.dispatcher (.polled s.dispatcher.poll.1) s.dispatcher.poll.2.2 := by
  unfold Dispatcher.poll
  simp only [Triggers.evaluate]
  split
  · exact .evaluated _
  · rename_i reason fired
    obtain ⟨journal, flushed⟩ := Dispatcher.flush_eq reason { s.dispatcher with
      triggers := { s.dispatcher.triggers with
        found := s.dispatcher.triggers.reason s.dispatcher.settings.buffer.bounds
          s.dispatcher.clock.now } } orderly.accepts
    rw [flushed]
    exact .polled reason journal

/-- What beginning to close does to the dispatcher. -/
theorem changes_close (orderly : s.Orderly) :
    Changes s.dispatcher (.closing s.dispatcher.beginClose.1) s.dispatcher.beginClose.2.2 := by
  unfold Dispatcher.beginClose
  by_cases isClosed : s.dispatcher.isClosed = true
  · rw [if_pos isClosed]
    exact .again isClosed
  · obtain ⟨journal, flushed⟩ := { s.dispatcher with isClosed := true }.flush_eq .shutdown
      (fun shut => absurd (orderly.closed shut) isClosed)
    simp only [isClosed, Bool.false_eq_true, ↓reduceIte, flushed]
    exact .closed (Bool.eq_false_iff.mpr isClosed) journal

/-- Every step does one of these to the dispatcher. -/
theorem Step.changes (step : Step backend s event t) (orderly : s.Orderly) :
    Changes s.dispatcher event t.dispatcher := by
  cases step with
  | submit request isWrite => exact changes_submit orderly request
  | flush reason =>
    obtain ⟨journal, flushed⟩ := s.dispatcher.flush_eq reason orderly.accepts
    rw [flushed]
    exact .flushed reason journal
  | poll => exact changes_poll orderly
  | close => exact changes_close orderly
  | expire waits => exact .shutDown (.inl rfl) (orderly.begun (by rw [waits]; nofun))
  | drain waits done => exact .shutDown (.inr rfl) (orderly.begun (by rw [waits]; nofun))
  | queue submission filter split =>
    unfold Dispatcher.queueRead
    by_cases shut : s.dispatcher.isShutDown = true
    · rw [if_pos shut]
      exact .silent rfl s.dispatcher.clock s.dispatcher.deferreds s.dispatcher.journal
    · rw [if_neg shut]
      exact .queued submission filter (Bool.eq_false_iff.mpr shut) _
  | call task attempt further split =>
    obtain ⟨journal, logged⟩ := s.dispatcher.logAny_eq
      (Worker.afterAttempt (β := β) task attempt further
        (task.submission.execute backend task.filter s.backend).1).2
    rw [logged]
    exact .silent rfl s.dispatcher.clock s.dispatcher.deferreds journal
  | settle task outcome split =>
    obtain ⟨deferreds, journal, settled, _⟩ := s.dispatcher.settle_frame task outcome
    rw [settled]
    exact .silent rfl s.dispatcher.clock deferreds journal
  | notify task notice rest split =>
    obtain ⟨journal, delivered⟩ := s.dispatcher.deliver_eq notice
    rw [delivered]
    exact .silent rfl s.dispatcher.clock _ journal
  | deliver notice split =>
    obtain ⟨journal, delivered⟩ := s.dispatcher.deliver_eq notice
    rw [delivered]
    exact .silent rfl s.dispatcher.clock _ journal
  | take task split free => exact .took task split
  | release task split => exact .released task
  | letIn | turnAway | finish | watch | group | advance => exact .silent rfl _ _ _

namespace Changes

variable {d d' : Dispatcher β}

/-- Settings never change. -/
theorem settings (changes : Changes d event d') : d'.settings = d.settings := by
  cases changes with
  | released task =>
    obtain ⟨inFlight, released⟩ := d.release_eq task
    rw [released]
  | silent | buffered | triggered | flushed | evaluated | polled | closed | again | shutDown
  | queued | took => rfl

/-- Closing is for good. -/
theorem isClosed (changes : Changes d event d') (closed : d.isClosed = true) :
    d'.isClosed = true := by
  cases changes with
  | released task =>
    obtain ⟨inFlight, released⟩ := d.release_eq task
    rw [released]
    exact closed
  | closed => rfl
  | silent | buffered | triggered | flushed | evaluated | polled | again | shutDown | queued
  | took => exact closed

/-- A pool that is shut down stays so. -/
theorem isShutDown (changes : Changes d event d') (shut : d.isShutDown = true) :
    d'.isShutDown = true := by
  cases changes with
  | released task =>
    obtain ⟨inFlight, released⟩ := d.release_eq task
    rw [released]
    exact shut
  | shutDown => rfl
  | silent | buffered | triggered | flushed | evaluated | polled | closed | again | queued
  | took => exact shut

/-- Nothing gets into an empty pool after everything was flushed and the pool was shut down. -/
theorem queue_nil (changes : Changes d event d') (isClosed : d.isClosed = true)
    (drained : d.buffer.entries = []) (shut : d.isShutDown = true) (empty : d.queue = []) :
    d'.queue = [] := by
  -- A flush hands over what is buffered.
  have flushed : d.queue ++ d.buffer.entries.map BufferedWrite.toTask = [] := by
    rw [drained, empty]
    rfl
  cases changes with
  | flushed | polled => exact flushed
  | triggered request isOpen =>
    rw [isOpen] at isClosed
    cases isClosed
  | closed isOpen =>
    rw [isOpen] at isClosed
    cases isClosed
  | queued submission filter running =>
    rw [running] at shut
    cases shut
  | took task split =>
    rw [empty] at split
    simp at split
  | released task =>
    obtain ⟨inFlight, released⟩ := d.release_eq task
    rw [released]
    exact empty
  | silent | buffered | evaluated | again | shutDown => exact empty

/-- Nothing is accepted after closing has begun. -/
theorem accepted_eq_none (changes : Changes d event d') (closed : d.isClosed = true) :
    event.accepted? = none := by
  cases changes with
  | buffered request isOpen =>
    rw [isOpen] at closed
    cases closed
  | triggered request isOpen =>
    rw [isOpen] at closed
    cases closed
  | @silent event isSilent =>
    cases event with
    | submitted request answer =>
      cases answer with
      | ok id => cases isSilent
      | error error => rfl
    | admitted | queued | flushed | polled | closing | expired | drained | closed | watched
    | grouped | advanced | took | called | settled | delivered | released => rfl
  | @shutDown event ends =>
    rcases ends with rfl | rfl
    · rfl
    · rfl
  | flushed | evaluated | polled | closed | again | queued | took | released => rfl

/-- What waits in the queue stays there until it is taken. -/
theorem queue (changes : Changes d event d') {task : Task} (waits : task ∈ d.queue) :
    task ∈ d'.queue ∨ ∃ position, event = .took position task := by
  cases changes with
  | took other split =>
    rw [split] at waits
    rcases List.mem_append.mp waits with early | late
    · exact .inl (List.mem_append_left _ early)
    · rcases List.mem_cons.mp late with rfl | late
      · exact .inr ⟨_, rfl⟩
      · exact .inl (List.mem_append_right _ late)
  | released other =>
    obtain ⟨inFlight, released⟩ := d.release_eq other
    rw [released]
    exact .inl waits
  | triggered | flushed | polled | closed | queued => exact .inl (List.mem_append_left _ waits)
  | silent | buffered | evaluated | again | shutDown => exact .inl waits

end Changes
end WideColumn.Pipeline
