import WideColumn.Proofs.Pipeline.Ownership

/-!
# Every step keeps the invariant

One lemma for each kind of step, then one for all, and from it by induction what holds after any
run. The lists of accepted and of released writes are read off the trace.
-/
namespace WideColumn.Pipeline

variable {β σ : Type} {accepted released : List Ticket} {s t : Pipeline β σ}

namespace Owned

/-- A pool that asks for a read gets it, or is shut down. -/
theorem queueRead (owned : s.Owned accepted released)
    {before after : List (Submission × Option Store.Filter)} {submission : Submission}
    {filter : Option Store.Filter} (split : s.reads = before ++ (submission, filter) :: after) :
    ({ s with
      reads := before ++ after
      dispatcher := (s.dispatcher.queueRead submission filter).2 } :
      Pipeline β σ).Owned accepted released := by
  have isRead : submission.write? = none :=
    owned.reads (submission, filter) (split ▸ List.mem_append_cons_self)
  have others : ∀ read ∈ before ++ after, read.1.write? = none := by
    intro read listed
    exact owned.reads read (Holdings.mem_of_split split listed)
  unfold Dispatcher.queueRead
  by_cases shut : s.dispatcher.isShutDown = true
  · simp only [shut, ↓reduceIte]
    exact ⟨owned.sound, owned.truthful, owned.custody, owned.backed, others⟩
  · simp only [shut, Bool.false_eq_true, ↓reduceIte]
    let added := (s.deferreds.create s.dispatcher.settings.timeouts.joinTimeout).2
    have evolution : Deferreds.Evolves none s.deferreds added := Deferreds.evolves_add _ _
    have pending : added.outcome? s.deferreds.size = none := Deferreds.outcome?_add_self _ _
    have single : added.members? s.deferreds.size = none := by
      unfold Deferreds.members?
      rw [show added.fanIn? s.deferreds.size = none from Deferreds.fanIn?_add_self _ _]
      rfl
    have grown : s.deferreds.size < added.size := by
      rw [show added.size = s.deferreds.size + 1 from Deferreds.size_add _ _]
      exact Nat.lt_succ_self _
    have free := (owned.fresh (Nat.le_refl s.deferreds.size)).2
    have known := owned.backed.evolves owned.custody evolution
    have isNoWrite : Task.ticket? ⟨submission, s.deferreds.size, filter⟩ = none :=
      Task.ticket_of_read isRead
    exact ⟨owned.sound.add_plain rfl rfl, owned.truthful.evolves evolution,
      owned.custody.queueRead isNoWrite free, known.queueRead grown single pending, others⟩

/-- A worker takes a task. -/
theorem take (owned : s.Owned accepted released) {before after : List Task} {task : Task}
    (split : s.dispatcher.queue = before ++ task :: after) (attempt further : Nat) :
    ({ s with
      dispatcher := { s.dispatcher with queue := before ++ after }
      workers := s.workers ++ [.calling task attempt further] } :
      Pipeline β σ).Owned accepted released := by
  have inQueue : s.holdings.queue = before ++ task :: after := split
  have same : ({ s with
      dispatcher := { s.dispatcher with queue := before ++ after }
      workers := s.workers ++ [.calling task attempt further] } :
      Pipeline β σ).holdings = { s.holdings with
        workers := s.holdings.workers ++ [(task, false)]
        queue := before ++ after } := by
    simp [holdings]
  have due : ({ s with
      dispatcher := { s.dispatcher with queue := before ++ after }
      workers := s.workers ++ [.calling task attempt further] } :
      Pipeline β σ).allDue = s.allDue := by
    simp [allDue]
  refine ⟨?_, ?_, ?_, ?_, owned.reads⟩
  · rw [due]
    exact owned.sound
  · rw [due]
    exact owned.truthful
  · rw [same]
    exact owned.custody.take inQueue false
  · rw [same]
    exact owned.backed.take inQueue

/-- A worker made an attempt. -/
theorem call (owned : s.Owned accepted released) {before after : List (Worker β)} {task : Task}
    {attempt further : Nat} (split : s.workers = before ++ .calling task attempt further :: after)
    (outcome : Outcome) (backend : σ) :
    ({ s with
      backend
      workers := before ++ (Worker.afterAttempt task attempt further outcome).1 :: after
      dispatcher := s.dispatcher.logAny
        (Worker.afterAttempt (β := β) task attempt further outcome).2 } :
      Pipeline β σ).Owned accepted released := by
  obtain ⟨same, open_, quiet⟩ := Worker.afterAttempt_eq (β := β) task attempt further outcome
  obtain ⟨journal, logged⟩ := s.dispatcher.logAny_eq
    (Worker.afterAttempt (β := β) task attempt further outcome).2
  rw [logged]
  apply owned.idle
  · simp [holdings, split, same, open_]
  · rfl
  · rfl
  · simp [allDue, split, quiet]

/-- What a worker is about to complete is known, pending and no barrier. -/
theorem settling_pending (owned : s.Owned accepted released) {task : Task} {outcome : Outcome}
    (settling : .settling task outcome ∈ s.workers) :
    task.deferred < s.deferreds.size ∧ s.deferreds.outcome? task.deferred = none ∧
      s.deferreds.fanIn? task.deferred = none := by
  have busy : (task, false) ∈ s.holdings.workers :=
    List.mem_map.mpr ⟨.settling task outcome, settling, rfl⟩
  have owns : task ∈ s.holdings.tasks :=
    List.mem_append_left _ (List.mem_map.mpr ⟨(task, false), busy, rfl⟩)
  obtain ⟨known, free⟩ := owned.backed.plain (.inr (List.mem_map_of_mem owns))
  exact ⟨known, owned.backed.busy busy, Option.map_eq_none_iff.mp free⟩

/-- The outcome of a task is the one that it is completed with. -/
theorem outcome_settle (owned : s.Owned accepted released) {task : Task} {outcome : Outcome}
    (settling : .settling task outcome ∈ s.workers) :
    (s.dispatcher.settle task outcome).2.deferreds.outcome? task.deferred = some outcome := by
  obtain ⟨known, pending, _⟩ := owned.settling_pending settling
  obtain ⟨journal, settled⟩ := s.dispatcher.settle_eq outcome known pending
  rw [settled]
  exact Deferreds.outcome?_completed_self known outcome

/-- A worker completes the deferred result of its task. -/
theorem settle (owned : s.Owned accepted released) {before after : List (Worker β)} {task : Task}
    {outcome : Outcome} (split : s.workers = before ++ .settling task outcome :: after) :
    ({ s with
      dispatcher := (s.dispatcher.settle task outcome).2
      workers := before ++ .notifying task (s.dispatcher.settle task outcome).1 :: after } :
      Pipeline β σ).Owned accepted released := by
  let early := before.map fun worker => (worker.task, worker.isSettled)
  let late := after.map fun worker => (worker.task, worker.isSettled)
  have held : s.holdings.workers = early ++ (task, false) :: late := by
    simp [holdings, split, early, late]
  have settling : .settling task outcome ∈ s.workers := by
    rw [split]
    simp
  obtain ⟨known, pending, single⟩ := owned.settling_pending settling
  obtain ⟨journal, settled⟩ := s.dispatcher.settle_eq outcome known pending
  rw [settled]
  have evolution := Deferreds.evolves_completed s.deferreds pending outcome
  have done := Deferreds.outcome?_completed_self known outcome
  let told := Deferreds.notices task.deferred outcome (s.deferreds.callbacksOf task.deferred)
  have same : ({ s with
      dispatcher := { s.dispatcher with
        deferreds := s.deferreds.completed task.deferred outcome, journal }
      workers := before ++ .notifying task told :: after } : Pipeline β σ).holdings =
      { s.holdings with workers := early ++ (task, true) :: late } := by
    simp [holdings, early, late]
  have rearranged : (told ++ s.allDue).Perm ({ s with
      dispatcher := { s.dispatcher with
        deferreds := s.deferreds.completed task.deferred outcome, journal }
      workers := before ++ .notifying task told :: after } : Pipeline β σ).allDue := by
    have moved := List.perm_append_comm_assoc told (s.due ++ before.flatMap Worker.due)
      (after.flatMap Worker.due)
    simpa [allDue, split] using moved
  refine ⟨(owned.sound.complete known pending single outcome).perm rearranged, ?_, ?_, ?_,
    owned.reads⟩
  · apply Deferreds.Truthful.perm _ rearranged
    exact Deferreds.truthful_append.mpr
      ⟨Deferreds.truthful_notices done _, owned.truthful.evolves evolution⟩
  · rw [same]
    exact owned.custody.settle held true
  · rw [same]
    exact owned.backed.settle owned.custody held outcome

/-- A worker runs a callback. -/
theorem notify (owned : s.Owned accepted released) {before after : List (Worker β)} {task : Task}
    {notice : Notice β} {rest : List (Notice β)}
    (split : s.workers = before ++ .notifying task (notice :: rest) :: after) :
    ({ s with
      dispatcher := (s.dispatcher.deliver notice).2
      workers := before ++ .notifying task ((s.dispatcher.deliver notice).1 ++ rest) :: after } :
      Pipeline β σ).Owned accepted released := by
  obtain ⟨journal, delivered⟩ := s.dispatcher.deliver_eq notice
  rw [delivered]
  let early := s.due ++ before.flatMap Worker.due
  let late := rest ++ after.flatMap Worker.due
  have front : s.allDue.Perm (notice :: (early ++ late)) := by
    have whole : s.allDue = early ++ notice :: late := by
      simp [allDue, split, early, late]
    rw [whole]
    exact List.perm_middle
  have moved : ((s.deferreds.deliver notice).2.1 ++ (early ++ late)).Perm
      (early ++ ((s.deferreds.deliver notice).2.1 ++ late)) :=
    List.perm_append_comm_assoc _ _ _
  obtain ⟨sound, truthful, _⟩ := (owned.sound.perm front).deliver (owned.truthful.perm front)
  apply owned.evolve
  · simp [holdings, split]
  · rfl
  · exact Deferreds.evolves_deliver _ _
  · have last := sound.perm moved
    simpa [allDue, early, late] using last
  · have last := truthful.perm moved
    simpa [allDue, early, late] using last

/-- A client runs a callback. -/
theorem deliver (owned : s.Owned accepted released) {before after : List (Notice β)}
    {notice : Notice β} (split : s.due = before ++ notice :: after) :
    ({ s with
      dispatcher := (s.dispatcher.deliver notice).2
      due := before ++ (s.dispatcher.deliver notice).1 ++ after } :
      Pipeline β σ).Owned accepted released := by
  obtain ⟨journal, delivered⟩ := s.dispatcher.deliver_eq notice
  rw [delivered]
  let late := after ++ s.workers.flatMap Worker.due
  have front : s.allDue.Perm (notice :: (before ++ late)) := by
    have whole : s.allDue = before ++ notice :: late := by simp [allDue, split, late]
    rw [whole]
    exact List.perm_middle
  have moved : ((s.deferreds.deliver notice).2.1 ++ (before ++ late)).Perm
      (before ++ ((s.deferreds.deliver notice).2.1 ++ late)) :=
    List.perm_append_comm_assoc _ _ _
  obtain ⟨sound, truthful, _⟩ := (owned.sound.perm front).deliver (owned.truthful.perm front)
  apply owned.evolve
  · rfl
  · rfl
  · exact Deferreds.evolves_deliver _ _
  · have last := sound.perm moved
    simpa [allDue, late] using last
  · have last := truthful.perm moved
    simpa [allDue, late] using last

/-- A worker releases its task. -/
theorem release (owned : s.Owned accepted released) {before after : List (Worker β)} {task : Task}
    (split : s.workers = before ++ .notifying task [] :: after) :
    ({ s with dispatcher := s.dispatcher.release task, workers := before ++ after } :
      Pipeline β σ).Owned accepted (released ++ task.ticket?.toList) := by
  let early := before.map fun worker => (worker.task, worker.isSettled)
  let late := after.map fun worker => (worker.task, worker.isSettled)
  have held : s.holdings.workers = early ++ (task, true) :: late := by
    simp [holdings, split, early, late]
  have same : ({ s with dispatcher := s.dispatcher.release task, workers := before ++ after } :
      Pipeline β σ).holdings = { s.holdings with
        workers := early ++ late
        inFlight := if task.submission.isWrite then s.holdings.inFlight.erase task.deferred
          else s.holdings.inFlight } := by
    unfold Dispatcher.release
    split <;> simp_all [holdings, early, late]
  have table : ({ s with dispatcher := s.dispatcher.release task, workers := before ++ after } :
      Pipeline β σ).deferreds = s.deferreds := by
    obtain ⟨inFlight, released⟩ := s.dispatcher.release_eq task
    rw [released]
  have due : ({ s with dispatcher := s.dispatcher.release task, workers := before ++ after } :
      Pipeline β σ).allDue = s.allDue := by
    simp [allDue, split]
  refine ⟨?_, ?_, ?_, ?_, owned.reads⟩
  · rw [table, due]
    exact owned.sound
  · rw [table, due]
    exact owned.truthful
  · rw [same]
    exact owned.custody.release held
  · rw [same, table]
    exact owned.backed.release held _

/-- A client submits a write. It is accepted exactly if the answer says so. -/
theorem submit (owned : s.Owned accepted released) (orderly : s.Orderly) (request : Request)
    (isWrite : request.kind.isWrite = true) :
    (s.after (s.dispatcher.enqueue request).2).Owned
      (accepted ++
        (Event.submitted request (s.dispatcher.enqueue request).1).accepted?.toList)
      released := by
  have ended := s.dispatcher.enqueues request
  generalize s.dispatcher.enqueue request = result at ended
  cases ended with
  | late isClosed =>
    rw [show (Event.submitted request (.error _)).accepted?.toList = [] from rfl, List.append_nil]
    exact owned.idle rfl rfl rfl (by simp [allDue, after])
  | full isOpen reached =>
    rw [show (Event.submitted request (.error _)).accepted?.toList = [] from rfl, List.append_nil]
    exact owned.idle rfl rfl rfl (by simp [allDue, after])
  | buffered isOpen below quiet =>
    exact (owned.accept request isWrite).idle rfl rfl rfl (by simp [allDue, after])
  | triggered isOpen below reason fired =>
    have running := orderly.accepts_more request isOpen
    have flushed := (owned.accept request isWrite).flush running reason
    obtain ⟨journal, answer⟩ := (s.dispatcher.accept request).2.flush_eq reason running
    rw [show ((s.dispatcher.accept request).2.flush reason).1 = _ from congrArg Prod.fst answer]
    exact flushed

/-- A client or the timer polls the triggers. -/
theorem poll (owned : s.Owned accepted released) (orderly : s.Orderly) :
    (s.after s.dispatcher.poll.2).Owned accepted released := by
  have ended := s.dispatcher.polls
  generalize s.dispatcher.poll = result at ended
  cases ended with
  | quiet triggers => exact owned.idle rfl rfl rfl (by simp [allDue, after])
  | fired triggers reason =>
    have evaluated : ({ s with dispatcher := { s.dispatcher with triggers } } :
        Pipeline β σ).Owned accepted released := owned.idle rfl rfl rfl rfl
    exact evaluated.flush orderly.accepts reason

/-- A client begins to close. -/
theorem close (owned : s.Owned accepted released) (orderly : s.Orderly) (closing : Closing) :
    ({ s.after s.dispatcher.beginClose.2 with closing } : Pipeline β σ).Owned
      accepted released := by
  unfold Dispatcher.beginClose
  by_cases isClosed : s.dispatcher.isClosed = true
  · simp only [isClosed, ↓reduceIte]
    exact owned.idle rfl rfl rfl (by simp [allDue, after])
  · simp only [isClosed]
    have begun : ({ s with dispatcher := { s.dispatcher with isClosed := true } } :
        Pipeline β σ).Owned accepted released := owned.idle rfl rfl rfl rfl
    have flushed := begun.flush (fun shut => absurd (orderly.closed shut) isClosed) .shutdown
    exact flushed.idle rfl rfl rfl rfl

/-- A client registers a callback. -/
theorem watch (owned : s.Owned accepted released) {id : DeferredId}
    (known : id < s.deferreds.size) (scope : Scope) (body : β) :
    (s.after ((s.deferreds.register id (.client scope body)).2,
      { s.dispatcher with
        deferreds := (s.deferreds.register id (.client scope body)).1 })).Owned
      accepted released := by
  let fresh := (s.deferreds.register id (.client scope body)).2
  have moved : (fresh ++ s.allDue).Perm
      (s.due ++ fresh ++ s.workers.flatMap Worker.due) := by
    unfold allDue
    rw [← List.append_assoc]
    exact List.perm_append_comm.append_right _
  have evolution := Deferreds.evolves_register s.deferreds id (.client scope body)
  have told := Deferreds.truthful_register s.deferreds id (.client scope body)
  apply owned.evolve
  · rfl
  · rfl
  · exact evolution
  · exact (owned.sound.register known fun _ => rfl).perm moved
  · exact (Deferreds.truthful_append.mpr ⟨told, owned.truthful.evolves evolution⟩).perm moved

/-- A client builds a barrier. -/
theorem group (owned : s.Owned accepted released) {members : List DeferredId}
    (known : ∀ member ∈ members, member < s.deferreds.size) (timeout : Option Number) :
    ({ s with
      dispatcher :=
        { s.dispatcher with deferreds := (s.deferreds.group members timeout).2 } } :
      Pipeline β σ).Owned accepted released := by
  have evolution := Deferreds.evolves_group s.deferreds members timeout
  exact owned.evolve rfl rfl evolution (owned.sound.group known timeout).1
    (owned.truthful.evolves evolution)

/-- Every step keeps what holds in every state. -/
theorem step {backend : Backend σ} {event : Event} (owned : s.Owned accepted released)
    (orderly : s.Orderly) (step : Step backend s event t) :
    t.Owned (accepted ++ event.accepted?.toList) (released ++ event.released?.toList) := by
  -- All events but two leave both lists alone.
  have unseen {event : Event} (none_accepted : event.accepted? = none)
      (none_released : event.released? = none) (next : t.Owned accepted released) :
      t.Owned (accepted ++ event.accepted?.toList) (released ++ event.released?.toList) := by
    rw [none_accepted, none_released]
    simpa using next
  cases step with
  | submit request isWrite =>
    have next := owned.submit orderly request isWrite
    simpa [Event.released?] using next
  | letIn submission isRead filter admitted =>
    apply unseen rfl rfl
    refine ⟨owned.sound, owned.truthful, owned.custody, owned.backed, ?_⟩
    intro read listed
    rcases List.mem_append.mp listed with older | new
    · exact owned.reads read older
    · obtain rfl := List.mem_singleton.mp new
      exact isRead
  | turnAway submission isRead error refused => exact unseen rfl rfl owned
  | queue submission filter split => exact unseen rfl rfl (owned.queueRead split)
  | flush reason => exact unseen rfl rfl (owned.flush orderly.accepts reason)
  | poll => exact unseen rfl rfl (owned.poll orderly)
  | close => exact unseen rfl rfl (owned.close orderly _)
  | expire waits => exact unseen rfl rfl (owned.idle rfl rfl rfl rfl)
  | drain waits done => exact unseen rfl rfl (owned.idle rfl rfl rfl rfl)
  | finish waits queue workers => exact unseen rfl rfl (owned.idle rfl rfl rfl rfl)
  | watch id known scope body => exact unseen rfl rfl (owned.watch known scope body)
  | group members known timeout => exact unseen rfl rfl (owned.group known timeout)
  | advance seconds clock passed => exact unseen rfl rfl (owned.idle rfl rfl rfl rfl)
  | take task split free => exact unseen rfl rfl (owned.take split _ _)
  | call task attempt further split => exact unseen rfl rfl (owned.call split _ _)
  | settle task outcome split => exact unseen rfl rfl (owned.settle split)
  | notify task notice rest split => exact unseen rfl rfl (owned.notify split)
  | deliver notice split => exact unseen rfl rfl (owned.deliver split)
  | release task split =>
    have next := owned.release split
    simpa [Event.accepted?, Event.released?] using next

end Owned

namespace Orderly

/-- A step that touches none of what order is about. -/
theorem same (orderly : s.Orderly) (isClosed : t.dispatcher.isClosed = s.dispatcher.isClosed)
    (isShutDown : t.dispatcher.isShutDown = s.dispatcher.isShutDown)
    (buffer : t.dispatcher.buffer = s.dispatcher.buffer) (closing : t.closing = s.closing) :
    t.Orderly := by
  refine ⟨?_, ?_, ?_⟩
  · rw [isClosed, buffer]
    exact orderly.drained
  · rw [isShutDown, isClosed]
    exact orderly.closed
  · rw [closing, isClosed]
    exact orderly.begun

/-- A flush leaves nothing buffered. -/
theorem flush (orderly : s.Orderly) (reason : FlushReason) :
    (s.after (s.dispatcher.flush reason).2).Orderly := by
  obtain ⟨journal, flushed⟩ := s.dispatcher.flush_eq reason orderly.accepts
  rw [flushed]
  exact ⟨fun _ => rfl, orderly.closed, orderly.begun⟩

/-- A client submits a write. -/
theorem submit (orderly : s.Orderly) (request : Request) :
    (s.after (s.dispatcher.enqueue request).2).Orderly := by
  have ended := s.dispatcher.enqueues request
  generalize s.dispatcher.enqueue request = result at ended
  -- Only an open dispatcher accepts, and of one nothing is asked about the buffer.
  have accepted (isOpen : s.dispatcher.isClosed = false) : ({ s with
      dispatcher := (s.dispatcher.accept request).2 } : Pipeline β σ).Orderly := by
    refine ⟨?_, orderly.closed, orderly.begun⟩
    intro isClosed
    rw [show (s.dispatcher.accept request).2.isClosed = s.dispatcher.isClosed from rfl,
      isOpen] at isClosed
    cases isClosed
  cases ended with
  | late isClosed => exact orderly.same rfl rfl rfl rfl
  | full isOpen reached => exact orderly.same rfl rfl rfl rfl
  | buffered isOpen below quiet => exact (accepted isOpen).same rfl rfl rfl rfl
  | triggered isOpen below reason fired => exact (accepted isOpen).flush reason

/-- A client or the timer polls the triggers. -/
theorem poll (orderly : s.Orderly) : (s.after s.dispatcher.poll.2).Orderly := by
  have ended := s.dispatcher.polls
  generalize s.dispatcher.poll = result at ended
  cases ended with
  | quiet triggers => exact orderly.same rfl rfl rfl rfl
  | fired triggers reason =>
    have evaluated : ({ s with dispatcher := { s.dispatcher with triggers } } :
        Pipeline β σ).Orderly := orderly.same rfl rfl rfl rfl
    exact evaluated.flush reason

/-- A client begins to close. -/
theorem close (orderly : s.Orderly) : ({ s.after s.dispatcher.beginClose.2 with
      closing := match s.dispatcher.beginClose.1 with
        | .ok (some barrier) => .waiting barrier
        | _ => s.closing } : Pipeline β σ).Orderly := by
  unfold Dispatcher.beginClose
  by_cases isClosed : s.dispatcher.isClosed = true
  · simp only [isClosed, ↓reduceIte]
    exact orderly.same rfl rfl rfl rfl
  · simp only [isClosed]
    obtain ⟨journal, flushed⟩ := { s.dispatcher with isClosed := true }.flush_eq .shutdown
      (fun shut => absurd (orderly.closed shut) isClosed)
    simp only [Bool.false_eq_true, ↓reduceIte, flushed]
    exact ⟨fun _ => rfl, fun _ => rfl, fun _ => rfl⟩

/-- The pool is shut down by a caller of close that waited. -/
theorem shutDown (orderly : s.Orderly) {barrier : DeferredId} (waits : s.closing = .waiting barrier)
    (closing : Closing) :
    ({ s with dispatcher := s.dispatcher.shutDownPool, closing } : Pipeline β σ).Orderly := by
  have isClosed : s.dispatcher.isClosed = true := orderly.begun (by rw [waits]; nofun)
  exact ⟨orderly.drained, fun _ => isClosed, fun _ => isClosed⟩

/-- Every step keeps the order of closing. -/
theorem step {backend : Backend σ} {event : Event} (orderly : s.Orderly)
    (step : Step backend s event t) : t.Orderly := by
  cases step with
  | submit request isWrite => exact orderly.submit request
  | flush reason => exact orderly.flush reason
  | poll => exact orderly.poll
  | close => exact orderly.close
  | expire waits => exact orderly.shutDown waits _
  | drain waits done => exact orderly.shutDown waits _
  | finish waits queue workers =>
    have isClosed : s.dispatcher.isClosed = true := orderly.begun (by rw [waits]; nofun)
    exact ⟨orderly.drained, orderly.closed, fun _ => isClosed⟩
  | queue submission filter split =>
    unfold Dispatcher.queueRead
    split
    · exact orderly.same rfl rfl rfl rfl
    · exact orderly.same rfl rfl rfl rfl
  | call task attempt further split =>
    obtain ⟨journal, logged⟩ := s.dispatcher.logAny_eq
      (Worker.afterAttempt (β := β) task attempt further
        (task.submission.execute backend task.filter s.backend).1).2
    rw [logged]
    exact orderly.same rfl rfl rfl rfl
  | settle task outcome split =>
    obtain ⟨deferreds, journal, settled, _⟩ := s.dispatcher.settle_frame task outcome
    rw [settled]
    exact orderly.same rfl rfl rfl rfl
  | notify task notice rest split =>
    obtain ⟨journal, delivered⟩ := s.dispatcher.deliver_eq notice
    rw [delivered]
    exact orderly.same rfl rfl rfl rfl
  | deliver notice split =>
    obtain ⟨journal, delivered⟩ := s.dispatcher.deliver_eq notice
    rw [delivered]
    exact orderly.same rfl rfl rfl rfl
  | release task split =>
    obtain ⟨inFlight, released⟩ := s.dispatcher.release_eq task
    rw [released]
    exact orderly.same rfl rfl rfl rfl
  | letIn | turnAway | watch | group | advance | take =>
    exact orderly.same rfl rfl rfl rfl

end Orderly

/-! ## What is for good -/

/-- A flush changes no outcome but that of barriers. -/
theorem evolves_flush (orderly : s.Orderly) (reason : FlushReason) :
    Deferreds.Evolves none s.deferreds (s.after (s.dispatcher.flush reason).2).deferreds := by
  obtain ⟨journal, flushed⟩ := s.dispatcher.flush_eq reason orderly.accepts
  rw [flushed]
  exact s.dispatcher.flushTable_evolves reason

/-- Submitting a write changes no outcome but that of barriers. -/
theorem evolves_submit (orderly : s.Orderly) (request : Request) :
    Deferreds.Evolves none s.deferreds (s.after (s.dispatcher.enqueue request).2).deferreds := by
  have ended := s.dispatcher.enqueues request
  generalize s.dispatcher.enqueue request = result at ended
  have added : Deferreds.Evolves none s.deferreds (s.dispatcher.accept request).2.deferreds :=
    Deferreds.evolves_add s.deferreds _
  cases ended with
  | late isClosed => exact .refl none _
  | full isOpen reached => exact .refl none _
  | buffered isOpen below quiet => exact added
  | triggered isOpen below reason fired =>
    have running := orderly.accepts_more request isOpen
    obtain ⟨journal, flushed⟩ := (s.dispatcher.accept request).2.flush_eq reason running
    rw [flushed]
    exact added.trans ((s.dispatcher.accept request).2.flushTable_evolves reason)

/-- The reference whose deferred result an event completes, barriers apart. -/
def Event.completes? : Event → Option DeferredId
  | .settled task _ => some task.deferred
  | _ => none

/-- A step completes what its event says, and barriers. -/
theorem Step.evolves {backend : Backend σ} {event : Event} (step : Step backend s event t)
    (orderly : s.Orderly) : Deferreds.Evolves event.completes? s.deferreds t.deferreds := by
  cases step with
  | submit request isWrite => exact evolves_submit orderly request
  | flush reason => exact evolves_flush orderly reason
  | poll =>
    have ended := s.dispatcher.polls
    generalize s.dispatcher.poll = result at ended
    cases ended with
    | quiet triggers => exact .refl none _
    | fired triggers reason =>
      have evaluated : ({ s with dispatcher := { s.dispatcher with triggers } } :
          Pipeline β σ).Orderly := orderly.same rfl rfl rfl rfl
      exact evolves_flush evaluated reason
  | close =>
    show Deferreds.Evolves none s.deferreds s.dispatcher.beginClose.2.2.deferreds
    unfold Dispatcher.beginClose
    by_cases isClosed : s.dispatcher.isClosed = true
    · simp only [isClosed, ↓reduceIte]
      exact .refl none _
    · simp only [isClosed]
      obtain ⟨journal, flushed⟩ := { s.dispatcher with isClosed := true }.flush_eq .shutdown
        (fun shut => absurd (orderly.closed shut) isClosed)
      simp only [Bool.false_eq_true, ↓reduceIte, flushed]
      exact { s.dispatcher with isClosed := true }.flushTable_evolves .shutdown
  | queue submission filter split =>
    show Deferreds.Evolves none s.deferreds (s.dispatcher.queueRead submission filter).2.deferreds
    unfold Dispatcher.queueRead
    split
    · exact .refl none _
    · exact Deferreds.evolves_add s.deferreds _
  | watch id known scope body => exact Deferreds.evolves_register s.deferreds id _
  | group members known timeout => exact Deferreds.evolves_group s.deferreds members timeout
  | call task attempt further split =>
    obtain ⟨journal, logged⟩ := s.dispatcher.logAny_eq
      (Worker.afterAttempt (β := β) task attempt further
        (task.submission.execute backend task.filter s.backend).1).2
    rw [logged]
    exact .refl none _
  | settle task outcome split =>
    obtain ⟨deferreds, journal, settled, evolution⟩ := s.dispatcher.settle_frame task outcome
    rw [settled]
    exact evolution
  | notify task notice rest split =>
    obtain ⟨journal, delivered⟩ := s.dispatcher.deliver_eq notice
    rw [delivered]
    exact Deferreds.evolves_deliver s.deferreds notice
  | deliver notice split =>
    obtain ⟨journal, delivered⟩ := s.dispatcher.deliver_eq notice
    rw [delivered]
    exact Deferreds.evolves_deliver s.deferreds notice
  | release task split =>
    obtain ⟨inFlight, released⟩ := s.dispatcher.release_eq task
    rw [released]
    exact .refl none _
  | letIn | turnAway | expire | drain | finish | advance | take => exact .refl none _

/-! ## Runs -/

/-- Before the first step nobody holds anything. -/
theorem owned_start (settings : Settings) (clock : Clock) (backend : σ) :
    (start settings clock backend : Pipeline β σ).Owned [] [] where
  sound := Deferreds.Sound.empty
  truthful _ present := nomatch present
  custody := ⟨.nil, .nil, .nil, .nil, nofun⟩
  backed := by
    refine ⟨?_, fun held => (nomatch held), fun held => (nomatch held),
      fun held => (nomatch held), fun held => (nomatch held), fun held => (nomatch held)⟩
    rintro id (listed | listed)
    · cases listed
    · cases listed
  reads := nofun

/-- Before the first step nobody closes. -/
theorem orderly_start (settings : Settings) (clock : Clock) (backend : σ) :
    (start settings clock backend : Pipeline β σ).Orderly :=
  ⟨nofun, nofun, fun begun => absurd rfl begun⟩

/-- What holds in every state, after any run. The accepted and the released writes are those that
the run has seen. -/
theorem Run.owned {backend : Backend σ} {settings : Settings} {clock : Clock} {store : σ}
    {trace : List Event} (run : Run backend (start settings clock store) trace s) :
    s.Owned (Pipeline.accepted trace) (Pipeline.released trace) ∧ s.Orderly := by
  induction run with
  | nil => exact ⟨owned_start settings clock store, orderly_start settings clock store⟩
  | snoc earlier step ih =>
    obtain ⟨owned, orderly⟩ := ih
    have next := owned.step orderly step
    rw [accepted_append, released_append, accepted_single, released_single]
    exact ⟨next, orderly.step step⟩

/-- What is for good stays through a run. -/
theorem Run.grows {backend : Backend σ} {trace : List Event} (run : Run backend s trace t)
    (orderly : s.Orderly) : s.deferreds.Grows t.deferreds ∧ t.Orderly := by
  induction run with
  | nil => exact ⟨(Deferreds.Evolves.refl none _).grows, orderly⟩
  | snoc earlier step ih =>
    obtain ⟨before, still⟩ := ih
    exact ⟨before.trans (step.evolves still).grows, still.step step⟩

end WideColumn.Pipeline
