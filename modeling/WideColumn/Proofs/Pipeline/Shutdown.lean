import WideColumn.Proofs.Pipeline.Closing
import WideColumn.Proofs.Pipeline.Rest
import WideColumn.Proofs.Pipeline.Schedule
import WideColumn.Proofs.Pipeline.Tasks

/-!
# Shutdown

Closing refuses what comes later, flushes once more and waits for the barrier before it shuts the
pool down. Since the section that begins to close also flushes, nothing is buffered when the pool is
shut down, and no flush can be refused by it with writes in hand. A close that returns has waited
for the workers as well, so everything that was accepted is terminal and the store is left alone. A
close that gives up waiting leaves the tasks to the pool, which executes each of them once.
-/
namespace WideColumn.Pipeline

variable {β σ : Type} {accepted released : List Ticket} {s t : Pipeline β σ}
  {backend : Backend σ} {event : Event}

/-! ## Nothing is accepted late -/

/-- Once closing has begun, it has begun. -/
theorem Step.isClosed_of_closing {answer : Except Error (Option DeferredId)}
    (step : Step backend s (.closing answer) t) (orderly : s.Orderly) :
    t.dispatcher.isClosed = true := by
  have changes := step.changes orderly
  generalize t.dispatcher = after at changes
  cases changes with
  | closed => rfl
  | again isClosed => exact isClosed
  | silent isSilent => cases isSilent
  | shutDown ends => rcases ends with same | same <;> cases same

variable {settings : Settings} {clock : Clock} {store : σ} {trace : List Event}

/-- A dispatcher that was closed is closed. -/
theorem Run.isClosed (run : Run backend (start settings clock store) trace s)
    {answer : Except Error (Option DeferredId)} (began : .closing answer ∈ trace) :
    s.dispatcher.isClosed = true := by
  induction run with
  | nil => cases began
  | snoc earlier step ih =>
    obtain ⟨_, orderly⟩ := earlier.owned
    rcases List.mem_append.mp began with older | new
    · exact (step.changes orderly).isClosed (ih older)
    · obtain rfl := List.mem_singleton.mp new
      exact step.isClosed_of_closing orderly

/-- What is closed stays closed. -/
theorem Run.stays_closed {later : List Event} (run : Run backend s later t) (orderly : s.Orderly)
    (isClosed : s.dispatcher.isClosed = true) : t.dispatcher.isClosed = true := by
  induction run with
  | nil => exact isClosed
  | snoc earlier step ih => exact (step.changes (earlier.grows orderly).2).isClosed ih

/-- No write is accepted after a section that closes. -/
theorem Run.accepted_after_closing (run : Run backend (start settings clock store) trace s)
    {earlier later : List Event} {answer : Except Error (Option DeferredId)}
    (split : trace = earlier ++ .closing answer :: later) : Pipeline.accepted later = [] := by
  induction run generalizing later with
  | nil => simp at split
  | @snoc trace u v event before step ih =>
    rcases List.eq_nil_or_concat later with rfl | ⟨front, last, rfl⟩
    · rfl
    · rw [List.concat_eq_append, ← List.cons_append, ← List.append_assoc] at split
      obtain ⟨same, lastOne⟩ := List.append_inj' split rfl
      obtain ⟨rfl, _⟩ := List.cons.inj lastOne
      have began : .closing answer ∈ trace := by
        rw [same]
        simp
      have isClosed := before.isClosed began
      have late := (step.changes before.owned.2).accepted_eq_none isClosed
      rw [List.concat_eq_append, accepted_append, ih same, accepted_single, late]
      rfl

/-! ## No flush is refused -/

/-- Nobody who flushes is refused by the pool, and a flush hands over all that is buffered. -/
structure FlushesSafely (d : Dispatcher β) : Prop where
  /-- A flush gives a barrier, and all that was buffered is queued. -/
  flush : ∀ reason, (d.flush reason).1 = .ok d.deferreds.size ∧
    (d.flush reason).2.2.buffer.entries = [] ∧
    (d.flush reason).2.2.queue = d.queue ++ d.buffer.entries.map BufferedWrite.toTask
  /-- A poll does not fail, whether it flushes or not. -/
  poll : ∃ fired, d.poll.1 = .ok fired
  /-- Beginning to close does not fail. -/
  close : ∃ barrier, d.beginClose.1 = .ok barrier
  /-- A write is refused only after closing and for want of room, and not because of the flush that
  it triggers. -/
  submit : ∀ {request error}, (d.enqueue request).1 = .error error →
    error = .closed request.kind false ∨
      error = .bufferFull d.pendingWrites d.settings.buffer.maxPendingWrites

/-- In every state flushes are safe. -/
theorem Orderly.flushesSafely (orderly : s.Orderly) : FlushesSafely s.dispatcher := by
  refine ⟨?_, ?_, ?_, ?_⟩
  · intro reason
    obtain ⟨journal, flushed⟩ := s.dispatcher.flush_eq reason orderly.accepts
    rw [flushed]
    exact ⟨rfl, rfl, rfl⟩
  · have changes := changes_poll orderly
    generalize s.dispatcher.poll.1 = answer at changes ⊢
    generalize s.dispatcher.poll.2.2 = after at changes
    cases changes with
    | evaluated found => exact ⟨none, rfl⟩
    | polled reason journal => exact ⟨some reason, rfl⟩
    | silent isSilent => cases isSilent
    | shutDown ends => rcases ends with same | same <;> cases same
  · have changes := changes_close orderly
    generalize s.dispatcher.beginClose.1 = answer at changes ⊢
    generalize s.dispatcher.beginClose.2.2 = after at changes
    cases changes with
    | closed isOpen journal => exact ⟨some _, rfl⟩
    | again isClosed => exact ⟨none, rfl⟩
    | silent isSilent => cases isSilent
    | shutDown ends => rcases ends with same | same <;> cases same
  · intro request error answer
    have ended := s.dispatcher.enqueues request
    generalize s.dispatcher.enqueue request = result at ended answer
    cases ended with
    | late isClosed =>
      cases answer
      exact .inl rfl
    | full isOpen reached =>
      cases answer
      exact .inr rfl
    | buffered isOpen below quiet => cases answer
    | triggered isOpen below reason fired =>
      obtain ⟨journal, flushed⟩ := (s.dispatcher.accept request).2.flush_eq reason
        (orderly.accepts_more request isOpen)
      rw [flushed] at answer
      cases answer

/-! ## A close that returned -/

/-- A complete close stays complete. -/
theorem Step.finished (step : Step backend s event t) (orderly : s.Orderly)
    (finished : s.closing = .finished) : t.closing = .finished := by
  have isClosed : s.dispatcher.isClosed = true := orderly.begun (by rw [finished]; nofun)
  cases step with
  | close =>
    unfold Dispatcher.beginClose
    rw [if_pos isClosed]
    exact finished
  | expire waits | drain waits =>
    rw [finished] at waits
    cases waits
  | finish => rfl
  | submit | letIn | turnAway | queue | flush | poll | watch | group | advance | take | call
  | settle | notify | deliver | release => exact finished

/-- Without a busy worker nobody calls the store. -/
theorem Step.uncalled (step : Step backend s event t) (idle : s.workers = []) :
    t.backend = s.backend ∧ ∀ task outcome, event ≠ .called task outcome := by
  cases step with
  | call task attempt further split =>
    rw [idle] at split
    simp at split
  | submit | letIn | turnAway | queue | flush | poll | close | expire | drain | finish | watch
  | group | advance | take | settle | notify | deliver | release =>
    refine ⟨rfl, ?_⟩
    intro task outcome same
    cases same

/-- After a complete close nobody calls the store, for good. -/
theorem Run.uncalled (run : Run backend (start settings clock store) trace s)
    (finished : s.closing = .finished) {later : List Event} (onward : Run backend s later t) :
    t.closing = .finished ∧ t.backend = s.backend ∧
      ∀ task outcome, .called task outcome ∉ later := by
  induction onward with
  | nil => exact ⟨finished, rfl, fun _ _ listed => absurd listed List.not_mem_nil⟩
  | snoc earlier step ih =>
    obtain ⟨still, same, none_called⟩ := ih
    have reached := run.append earlier
    obtain ⟨unchanged, other⟩ := step.uncalled (reached.ended.workers still)
    refine ⟨step.finished reached.owned.2 still, unchanged.trans same, ?_⟩
    intro task outcome listed
    rcases List.mem_append.mp listed with older | new
    · exact none_called task outcome older
    · exact other task outcome (List.mem_singleton.mp new).symm

/-- With the pool at rest and nothing buffered every accepted write is released. -/
theorem Owned.released_of_rest (owned : s.Owned accepted released) (rest : s.IsAtRest)
    (empty : s.dispatcher.buffer.entries = []) {write : Ticket} (listed : write ∈ accepted) :
    write ∈ released := by
  rcases (owned.custody.mem_iff write).mp listed with gone | flying | buffered
  · exact gone
  · rw [holdings_writes] at flying
    unfold executing queued at flying
    rw [rest.1, rest.2] at flying
    cases flying
  · rw [show s.holdings.buffer = [] from empty] at buffered
    cases buffered

/-- A dispatcher that is closed refuses every request, whatever it asks for. -/
theorem submit_of_isClosed {d : Dispatcher β} (isClosed : d.isClosed = true)
    {submission : Submission} {kind : RequestKind} (known : submission.kind? = some kind) :
    (d.submit submission).1 = .error (.closed kind false) := by
  have refused : Dispatcher.refusal false submission = .closed kind false := by
    unfold Dispatcher.refusal
    rw [known]
  have unread : d.enqueueRead submission = (.error (.closed kind false), d) := by
    unfold Dispatcher.enqueueRead Dispatcher.admitRead
    rw [if_pos isClosed, refused]
  unfold Dispatcher.submit
  cases submission with
  | request described =>
    simp only
    split
    · unfold Dispatcher.enqueue
      rw [if_pos isClosed, refused]
    · rw [unread]
  | lookalike | value => simp only [unread]

/-- What holds for good once a close has returned. The trace until then and what was seen later are
told apart. -/
structure CleanlyClosed (backend : Backend σ) (s : Pipeline β σ) (trace later : List Event)
    (t : Pipeline β σ) : Prop where
  /-- Every accepted write is terminal. -/
  writes : ∀ write ∈ Pipeline.accepted (trace ++ later), t.deferreds.isDone write.deferred = true
  /-- Every accepted read is terminal. -/
  reads : ∀ id ∈ acceptedReads (trace ++ later), t.deferreds.isDone id = true
  /-- Nothing counts as pending. -/
  pending : t.dispatcher.pendingWrites = 0
  /-- The store is not called. -/
  uncalled : ∀ task outcome, .called task outcome ∉ later
  /-- The store is as it was. -/
  store : t.backend = s.backend
  /-- Every request is refused. -/
  refused : ∀ {submission kind}, submission.kind? = some kind →
    (t.dispatcher.submit submission).1 = .error (.closed kind false)
  /-- A read that was admitted earlier and is late at the pool is refused as well. -/
  raced : ∀ {submission kind} filter, submission.kind? = some kind →
    (t.dispatcher.queueRead submission filter).1 = .error (.closed kind true)

/-- A close that has returned was clean, for good. -/
theorem Run.cleanlyClosed (run : Run backend (start settings clock store) trace s)
    (finished : s.closing = .finished) {later : List Event} (onward : Run backend s later t) :
    CleanlyClosed backend s trace later t := by
  obtain ⟨still, same, uncalled⟩ := run.uncalled finished onward
  have reached := run.append onward
  obtain ⟨owned, orderly⟩ := reached.owned
  have ended := reached.ended
  have rest : t.IsAtRest := ⟨ended.queue still, ended.workers still⟩
  have shut := ended.shut (.inr still)
  have gone {write : Ticket} (listed : write ∈ Pipeline.accepted (trace ++ later)) :
      write ∈ Pipeline.released (trace ++ later) :=
    owned.released_of_rest rest (orderly.accepts shut) listed
  refine ⟨?_, ?_, owned.pendingWrites_eq_zero fun _ => gone, uncalled, same, ?_, ?_⟩
  · intro write listed
    exact Option.isSome_iff_exists.mpr (owned.backed.released (gone listed))
  · intro id listed
    rcases reached.read_done listed with ⟨task, held, _⟩ | done
    · unfold tasks at held
      rw [rest.1, rest.2] at held
      cases held
    · exact done
  · intro submission kind known
    exact submit_of_isClosed (orderly.closed shut) known
  · intro submission kind filter known
    unfold Dispatcher.queueRead Dispatcher.refusal
    rw [if_pos shut, known]

/-! ## A close that gave up -/

/-- Every accepted write is executed once in the end. -/
structure ExecutesOnce (backend : Backend σ) (trace : List Event) (t : Pipeline β σ) : Prop where
  /-- It is never taken twice. -/
  once : ∀ write ∈ Pipeline.accepted trace, occurrences write.deferred (Pipeline.taken trace) ≤ 1
  /-- When the pool is at rest, it was taken, the store was called for it, and it was completed once
  with an outcome that stands. -/
  done : t.IsAtRest → ∀ write ∈ Pipeline.accepted trace,
    occurrences write.deferred (Pipeline.taken trace) = 1 ∧ write ∈ Pipeline.called trace ∧
      ∃ outcome, completions write.deferred trace = [outcome] ∧
        t.outcome? write.deferred = some outcome
  /-- The pool comes to rest, however it goes on. -/
  dry : t.RunsDry backend

/-- Once closing has begun, every accepted write is executed once in the end. -/
theorem Run.executesOnce (run : Run backend (start settings clock store) trace s)
    (workers : 0 < settings.concurrency.maxWorkers) (isClosed : s.dispatcher.isClosed = true) :
    ExecutesOnce backend trace s := by
  obtain ⟨owned, orderly⟩ := run.owned
  have same : s.dispatcher.settings = settings :=
    run.settings (orderly_start settings clock store)
  refine ⟨?_, ?_, orderly.runsDry (same ▸ workers)⟩
  · intro write listed
    obtain ⟨stage, at_stage⟩ := run.atStage listed
    rw [at_stage.taken]
    split
    · exact Nat.le_refl 1
    · exact Nat.zero_le 1
  · intro rest write listed
    obtain ⟨stage, at_stage⟩ := run.atStage listed
    have gone := owned.released_of_rest rest (orderly.drained isClosed) listed
    have finished : stage = .finished := by
      have positive := occurrences_pos gone
      rw [at_stage.released] at positive
      by_cases same : stage = .finished
      · exact same
      · rw [if_neg same] at positive
        exact absurd positive (Nat.lt_irrefl 0)
    have taken_once : occurrences write.deferred (Pipeline.taken trace) = 1 := by
      rw [at_stage.taken, if_pos (.inr finished)]
    obtain ⟨outcome, stands⟩ := at_stage.terminal finished
    refine ⟨taken_once, ?_, outcome, ?_, stands⟩
    · have taken : write ∈ Pipeline.taken trace :=
        run.taken.mem_iff.mpr (List.mem_append_left _ gone)
      rcases run.called_of_taken taken with called | ⟨task, further, _, about⟩
      · exact called
      · rw [rest.2] at about
        cases about
    · rw [at_stage.completed, stands]
      rfl

/-! ## All together -/

/-- Shutdown is clean, however clients and workers interleave. No write is accepted after closing
has begun. Whenever the pool is shut down nothing is buffered, and in every state whoever flushes is
not refused and hands over everything. When a close has returned, everything accepted is terminal,
nothing is pending, the store is never called again and every request is refused, for good. When a
close gave up waiting, every accepted write is still executed once. -/
theorem clean_shutdown (workers : 0 < settings.concurrency.maxWorkers)
    (run : Run backend (start settings clock store : Pipeline β σ) trace s) :
    (∀ {earlier later : List Event} {answer : Except Error (Option DeferredId)},
      trace = earlier ++ .closing answer :: later → Pipeline.accepted later = []) ∧
    (s.dispatcher.isShutDown = true → s.dispatcher.buffer.entries = []) ∧
    FlushesSafely s.dispatcher ∧
    (s.closing = .finished → ∀ {later : List Event} {t : Pipeline β σ},
      Run backend s later t → CleanlyClosed backend s trace later t) ∧
    (s.closing = .expired → ∀ {later : List Event} {t : Pipeline β σ},
      Run backend s later t → ExecutesOnce backend (trace ++ later) t) := by
  obtain ⟨_, orderly⟩ := run.owned
  refine ⟨fun split => run.accepted_after_closing split, orderly.accepts, orderly.flushesSafely,
    fun finished _ _ onward => run.cleanlyClosed finished onward, ?_⟩
  intro expired later t onward
  have isClosed : s.dispatcher.isClosed = true := orderly.begun (by rw [expired]; nofun)
  exact (run.append onward).executesOnce workers (onward.stays_closed orderly isClosed)

/-- A read of a row. -/
def smallGet (key : Bytes) : Submission := .request (.get [116] key .all none)

/-- A put was buffered and a read queued when a client closed. Two workers executed both, and the
close returned. -/
def returned : List Event × Pipeline Unit Unit :=
  played forgetful (start manual ⟨.int 0⟩ ())
    [.submit (smallPut [97]), .read (smallGet [97]), .queue 0, .close, .take 0, .take 0, .work 1,
      .work 0, .work 1, .work 0, .work 0, .work 0, .work 0, .work 0, .drain, .finish]

/-- Afterwards another put was submitted. -/
def returnedLate : List Event × Pipeline Unit Unit :=
  played forgetful returned.2 [.submit (smallPut [98])]

/-- A put was buffered when a client closed who did not wait for it. -/
def gaveUp : List Event × Pipeline Unit Unit :=
  played forgetful (start manual ⟨.int 0⟩ ()) [.submit (smallPut [97]), .close, .expire]

/-- Afterwards a worker executed the put. -/
def gaveUpLate : List Event × Pipeline Unit Unit :=
  played forgetful gaveUp.2 [.take 0, .work 0, .work 0, .work 0, .work 0, .work 0]

/-- After the close that returned, the put and the read are terminal and another put is refused.
After the close that gave up, the put is executed once. -/
theorem clean_shutdown_returned_and_gaveUp :
    0 < manual.concurrency.maxWorkers ∧
      Run forgetful (start manual ⟨.int 0⟩ ()) returned.1 returned.2 ∧
      returned.2.closing = .finished ∧ Run forgetful returned.2 returnedLate.1 returnedLate.2 ∧
      Pipeline.accepted returned.1 = [⟨0, smallPut [97]⟩] ∧ acceptedReads returned.1 = [1] ∧
      returnedLate.1 = [.submitted (smallPut [98]) (.error (.closed .put false))] ∧
      CleanlyClosed forgetful returned.2 returned.1 returnedLate.1 returnedLate.2 ∧
      Run forgetful (start manual ⟨.int 0⟩ ()) gaveUp.1 gaveUp.2 ∧
      gaveUp.2.closing = .expired ∧ Run forgetful gaveUp.2 gaveUpLate.1 gaveUpLate.2 ∧
      gaveUpLate.2.IsAtRest ∧
      ExecutesOnce forgetful (gaveUp.1 ++ gaveUpLate.1) gaveUpLate.2 := by
  have workers : 0 < manual.concurrency.maxWorkers := by decide
  have waited : Run forgetful (start manual ⟨.int 0⟩ ()) returned.1 returned.2 := run_played rfl
  have late : Run forgetful returned.2 returnedLate.1 returnedLate.2 := run_played rfl
  have left : Run forgetful (start manual ⟨.int 0⟩ ()) gaveUp.1 gaveUp.2 := run_played rfl
  have alone : Run forgetful gaveUp.2 gaveUpLate.1 gaveUpLate.2 := run_played rfl
  obtain ⟨_, _, _, cleanly, _⟩ := clean_shutdown workers waited
  obtain ⟨_, _, _, _, executes⟩ := clean_shutdown workers left
  exact ⟨workers, waited, rfl, late, rfl, rfl, rfl, cleanly rfl late, left, rfl, alone, ⟨rfl, rfl⟩,
    executes rfl alone⟩

end WideColumn.Pipeline
