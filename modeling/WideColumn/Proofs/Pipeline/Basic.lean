import WideColumn.Session.Basic

/-!
# The pipeline and its interleavings

Clients, workers, the flush timer and a caller of close work on one dispatcher at the same time.
What one of them does between two points where others may come in is one step: a section under the
lock, a half of accepting a read, a worker that takes a task, one call of the store, one completion,
one callback, one release. A run is any sequence of steps, so a statement about all runs is a
statement about all schedules of any number of clients and workers.

A client's callback runs inside the thread that made it due. What its body does is a sequence of
client steps, and these can be taken in every state, so runs with callbacks that submit, flush, poll
or close while the completion around them is still under way are among the runs here. Clients
register callbacks and build barriers of their own, and never complete a deferred result themselves.
-/
namespace WideColumn

/-- The request, if a submission is a write that the dispatcher buffers. -/
def Submission.write? : Submission → Option Request
  | .request described => if described.kind.isWrite then some described else none
  | _ => none

/-- An accepted write. -/
structure Ticket where
  /-- Where its outcome goes. -/
  deferred : DeferredId
  /-- The write. -/
  request : Request

/-- The accepted write that a task executes, unless it is a read. -/
def Task.ticket? (task : Task) : Option Ticket :=
  task.submission.write?.map fun request => ⟨task.deferred, request⟩

/-- The accepted write that waits in the buffer. -/
def BufferedWrite.ticket (write : BufferedWrite) : Ticket := ⟨write.deferred, write.request⟩

/-- A worker that is busy with a task. -/
inductive Worker (β : Type) where
  /-- It is about to call the store, with attempts left after this one. -/
  | calling (task : Task) (attempt further : Nat)
  /-- It knows the outcome and is about to complete the deferred result. -/
  | settling (task : Task) (outcome : Outcome)
  /-- It runs the callbacks of the completion and will then release the task. -/
  | notifying (task : Task) (due : List (Notice β))

namespace Worker

variable {β : Type}

/-- The task. -/
def task : Worker β → Task
  | calling task .. | settling task _ | notifying task _ => task

/-- The callbacks that the worker has yet to run. -/
def due : Worker β → List (Notice β)
  | notifying _ due => due
  | _ => []

/-- Whether the deferred result of the task has been completed. -/
def isSettled : Worker β → Bool
  | notifying .. => true
  | _ => false

@[simp] theorem task_calling (task : Task) (attempt further : Nat) :
    (calling (β := β) task attempt further).task = task := rfl

@[simp] theorem task_settling (task : Task) (outcome : Outcome) :
    (settling (β := β) task outcome).task = task := rfl

@[simp] theorem task_notifying (task : Task) (due : List (Notice β)) :
    (notifying task due).task = task := rfl

@[simp] theorem due_calling (task : Task) (attempt further : Nat) :
    (calling (β := β) task attempt further).due = [] := rfl

@[simp] theorem due_settling (task : Task) (outcome : Outcome) :
    (settling (β := β) task outcome).due = [] := rfl

@[simp] theorem due_notifying (task : Task) (due : List (Notice β)) :
    (notifying task due).due = due := rfl

@[simp] theorem isSettled_calling (task : Task) (attempt further : Nat) :
    (calling (β := β) task attempt further).isSettled = false := rfl

@[simp] theorem isSettled_settling (task : Task) (outcome : Outcome) :
    (settling (β := β) task outcome).isSettled = false := rfl

@[simp] theorem isSettled_notifying (task : Task) (due : List (Notice β)) :
    (notifying task due).isSettled = true := rfl

/-- What a worker does after an attempt, and what it logs before the next one. -/
def afterAttempt (task : Task) (attempt further : Nat) (outcome : Outcome) :
    Worker β × Option Log.Event :=
  match Retry.judge Error.isTransient attempt (further == 0) outcome, further with
  | .ended outcome, _ => (settling task outcome, none)
  | .again error, 0 => (settling task (.error error), none)
  | .again error, further + 1 =>
    (calling task (attempt + 1) further, some (Dispatcher.retrying task attempt error))

/-- After an attempt that was answered the worker completes the task. -/
theorem afterAttempt_ok (task : Task) (attempt further : Nat) (result : Result) :
    afterAttempt (β := β) task attempt further (.ok result) = (settling task (.ok result), none) :=
  rfl

/-- After a failure that is not worth another attempt the worker completes the task. -/
theorem afterAttempt_lasting (task : Task) (attempt further : Nat) {error : Error}
    (lasting : error.isTransient = false) :
    afterAttempt (β := β) task attempt further (.error error) =
      (settling task (.error error), none) := by
  simp [afterAttempt, Retry.judge, lasting]

/-- After an attempt that is not worth another one the worker completes the task. -/
theorem afterAttempt_final (task : Task) (attempt further : Nat) {outcome : Outcome}
    (final : ∀ error, outcome = .error error → error.isTransient = false) :
    afterAttempt (β := β) task attempt further outcome = (settling task outcome, none) := by
  cases outcome with
  | ok result => exact afterAttempt_ok task attempt further result
  | error error => exact afterAttempt_lasting task attempt further (final error rfl)

/-- After a last attempt that failed the worker completes the task with an error that says so. -/
theorem afterAttempt_last (task : Task) (attempt : Nat) {error : Error}
    (passes : error.isTransient = true) :
    afterAttempt (β := β) task attempt 0 (.error error) =
      (settling task (.error (Retry.exhaust attempt error)), none) := by
  simp [afterAttempt, Retry.judge, passes]

/-- After any other attempt the worker tries again. -/
theorem afterAttempt_again (task : Task) (attempt further : Nat) {error : Error}
    (passes : error.isTransient = true) :
    afterAttempt (β := β) task attempt (further + 1) (.error error) =
      (calling task (attempt + 1) further, some (Dispatcher.retrying task attempt error)) := by
  simp [afterAttempt, Retry.judge, passes]

end Worker

/-- How far closing has come. -/
inductive Closing where
  /-- Nobody is closing. -/
  | idle
  /-- The last flush is under way and its barrier is waited for. -/
  | waiting (barrier : DeferredId)
  /-- The pool is shut down and its workers are waited for. -/
  | draining
  /-- Closing is complete. -/
  | finished
  /-- The wait for the barrier was given up and the pool was shut down. -/
  | expired

/-- Put an event on record if there is one. -/
def Dispatcher.logAny (dispatcher : Dispatcher β) : Option Log.Event → Dispatcher β
  | none => dispatcher
  | some event => dispatcher.log event

/-- Run the callback of a notice: callbacks that become due by it, and the dispatcher afterwards. -/
def Dispatcher.deliver (notice : Notice β) (dispatcher : Dispatcher β) :
    List (Notice β) × Dispatcher β :=
  let (deferreds, fresh, effect) := dispatcher.deferreds.deliver notice
  let after := { dispatcher with deferreds }
  match effect with
  | .none | .client .. => (fresh, after)
  | .flushed reason batch outcome => (fresh, after.log (flushCompleted reason batch outcome))
  | .refused error =>
    let state := ((deferreds.get? notice.subject).getD default).state
    (fresh, after.log (Session.callbackRaised Session.memberLabel state error))

/-- All that clients, workers and a caller of close share or are in the middle of. -/
structure Pipeline (β : Type) (σ : Type) where
  /-- The dispatcher. -/
  dispatcher : Dispatcher β
  /-- The store behind it. -/
  backend : σ
  /-- Reads that were admitted and have not reached the pool. -/
  reads : List (Submission × Option Store.Filter)
  /-- The busy workers. -/
  workers : List (Worker β)
  /-- Callbacks that client threads have yet to run. -/
  due : List (Notice β)
  /-- The call of close. -/
  closing : Closing

namespace Pipeline

variable {β σ : Type}

/-- A pipeline before the first step. -/
def start (settings : Settings) (clock : Clock) (backend : σ) : Pipeline β σ :=
  ⟨.start settings clock, backend, [], [], [], .idle⟩

/-- The deferred results. -/
abbrev deferreds (pipeline : Pipeline β σ) : Deferreds β := pipeline.dispatcher.deferreds

/-- The outcome under a reference. -/
abbrev outcome? (pipeline : Pipeline β σ) (id : DeferredId) : Option Outcome :=
  pipeline.deferreds.outcome? id

/-- The pipeline after a section under the lock, in which callbacks became due. -/
def after (pipeline : Pipeline β σ) (section_ : List (Notice β) × Dispatcher β) :
    Pipeline β σ :=
  { pipeline with dispatcher := section_.2, due := pipeline.due ++ section_.1 }

/-- What is seen of a step. -/
inductive Event where
  /-- A write was submitted. -/
  | submitted (request : Request) (answer : Except Error DeferredId)
  /-- A read was submitted, and admitted with its filter converted. -/
  | admitted (submission : Submission) (answer : Except Error (Option Store.Filter))
  /-- An admitted read reached the pool. -/
  | queued (submission : Submission) (answer : Except Error DeferredId)
  /-- A client flushed. -/
  | flushed (reason : FlushReason) (answer : Except Error DeferredId)
  /-- The triggers were polled. -/
  | polled (answer : Except Error (Option FlushReason))
  /-- A client began to close. -/
  | closing (answer : Except Error (Option DeferredId))
  /-- The wait for the last barrier was given up. -/
  | expired
  /-- The last barrier is terminal. -/
  | drained
  /-- The workers are done and close returned. -/
  | closed
  /-- A client registered a callback. -/
  | watched (id : DeferredId)
  /-- A client built a barrier. -/
  | grouped (barrier : DeferredId)
  /-- Time passed. -/
  | advanced (seconds : Number)
  /-- A worker took the task at a position of the queue. -/
  | took (position : Nat) (task : Task)
  /-- A worker called the store. -/
  | called (task : Task) (outcome : Outcome)
  /-- A worker completed the deferred result of a task. -/
  | settled (task : Task) (outcome : Outcome)
  /-- A callback ran. -/
  | delivered (subject : DeferredId)
  /-- A worker released a task. -/
  | released (task : Task)

/-- The steps of a pipeline over a store. -/
inductive Step (backend : Backend σ) : Pipeline β σ → Event → Pipeline β σ → Prop where
  /-- A client submits a write. -/
  | submit {s : Pipeline β σ} (request : Request) (isWrite : request.kind.isWrite = true) :
    Step backend s (.submitted request (s.dispatcher.enqueue request).1)
      (s.after (s.dispatcher.enqueue request).2)
  /-- A client submits a read, which is admitted. -/
  | letIn {s : Pipeline β σ} (submission : Submission) (isRead : submission.write? = none)
    (filter : Option Store.Filter)
    (admitted : s.dispatcher.admitRead submission = .ok filter) :
    Step backend s (.admitted submission (.ok filter))
      { s with reads := s.reads ++ [(submission, filter)] }
  /-- A client submits a read, which is refused. -/
  | turnAway {s : Pipeline β σ} (submission : Submission) (isRead : submission.write? = none)
    (error : Error) (refused : s.dispatcher.admitRead submission = .error error) :
    Step backend s (.admitted submission (.error error)) s
  /-- An admitted read reaches the pool. -/
  | queue {s : Pipeline β σ} {before after : List (Submission × Option Store.Filter)}
    (submission : Submission) (filter : Option Store.Filter)
    (split : s.reads = before ++ (submission, filter) :: after) :
    Step backend s (.queued submission (s.dispatcher.queueRead submission filter).1)
      { s with
        reads := before ++ after
        dispatcher := (s.dispatcher.queueRead submission filter).2 }
  /-- A client flushes. -/
  | flush {s : Pipeline β σ} (reason : FlushReason) :
    Step backend s (.flushed reason (s.dispatcher.flush reason).1)
      (s.after (s.dispatcher.flush reason).2)
  /-- A client or the timer polls the triggers. -/
  | poll {s : Pipeline β σ} :
    Step backend s (.polled s.dispatcher.poll.1) (s.after s.dispatcher.poll.2)
  /-- A client begins to close. -/
  | close {s : Pipeline β σ} :
    Step backend s (.closing s.dispatcher.beginClose.1)
      { s.after s.dispatcher.beginClose.2 with
        closing := match s.dispatcher.beginClose.1 with
          | .ok (some barrier) => .waiting barrier
          | _ => s.closing }
  /-- Closing gives up waiting for its barrier and shuts the pool down. -/
  | expire {s : Pipeline β σ} {barrier : DeferredId} (waits : s.closing = .waiting barrier) :
    Step backend s .expired
      { s with dispatcher := s.dispatcher.shutDownPool, closing := .expired }
  /-- Closing finds its barrier terminal and shuts the pool down. -/
  | drain {s : Pipeline β σ} {barrier : DeferredId} (waits : s.closing = .waiting barrier)
    (done : s.deferreds.isDone barrier = true) :
    Step backend s .drained
      { s with dispatcher := s.dispatcher.shutDownPool, closing := .draining }
  /-- Closing is complete once all queued tasks are done. -/
  | finish {s : Pipeline β σ} (waits : s.closing = .draining) (queue : s.dispatcher.queue = [])
    (workers : s.workers = []) :
    Step backend s .closed
      { s with dispatcher := s.dispatcher.log Dispatcher.closed, closing := .finished }
  /-- A client registers a callback for a deferred result that it holds. -/
  | watch {s : Pipeline β σ} (id : DeferredId) (known : id < s.deferreds.entries.length)
    (scope : Scope) (body : β) :
    Step backend s (.watched id)
      (s.after ((s.deferreds.register id (.client scope body)).2,
        { s.dispatcher with deferreds := (s.deferreds.register id (.client scope body)).1 }))
  /-- A client builds a barrier over deferred results that it holds. -/
  | group {s : Pipeline β σ} (members : List DeferredId)
    (known : ∀ member ∈ members, member < s.deferreds.entries.length)
    (timeout : Option Number) :
    Step backend s (.grouped (s.deferreds.group members timeout).1)
      { s with
        dispatcher :=
          { s.dispatcher with deferreds := (s.deferreds.group members timeout).2 } }
  /-- Time passes. -/
  | advance {s : Pipeline β σ} (seconds : Number) (clock : Clock)
    (passed : s.dispatcher.clock.advance seconds = .ok clock) :
    Step backend s (.advanced seconds) { s with dispatcher := { s.dispatcher with clock } }
  /-- A free worker takes a task. -/
  | take {s : Pipeline β σ} {before after : List Task} (task : Task)
    (split : s.dispatcher.queue = before ++ task :: after)
    (free : (s.workers.length : Int) < s.dispatcher.settings.concurrency.maxWorkers) :
    Step backend s (.took before.length task)
      { s with
        dispatcher := { s.dispatcher with queue := before ++ after }
        workers := s.workers ++
          [.calling task 1 s.dispatcher.settings.retry.policy.further] }
  /-- A worker calls the store. -/
  | call {s : Pipeline β σ} {before after : List (Worker β)} (task : Task)
    (attempt further : Nat)
    (split : s.workers = before ++ .calling task attempt further :: after) :
    Step backend s (.called task (task.submission.execute backend task.filter s.backend).1)
      { s with
        backend := (task.submission.execute backend task.filter s.backend).2
        workers := before ++ (Worker.afterAttempt task attempt further
          (task.submission.execute backend task.filter s.backend).1).1 :: after
        dispatcher := s.dispatcher.logAny (Worker.afterAttempt (β := β) task attempt further
          (task.submission.execute backend task.filter s.backend).1).2 }
  /-- A worker completes the deferred result of its task. -/
  | settle {s : Pipeline β σ} {before after : List (Worker β)} (task : Task) (outcome : Outcome)
    (split : s.workers = before ++ .settling task outcome :: after) :
    Step backend s (.settled task outcome)
      { s with
        dispatcher := (s.dispatcher.settle task outcome).2
        workers := before ++ .notifying task (s.dispatcher.settle task outcome).1 :: after }
  /-- A worker runs the next callback that is due. -/
  | notify {s : Pipeline β σ} {before after : List (Worker β)} (task : Task)
    (notice : Notice β) (rest : List (Notice β))
    (split : s.workers = before ++ .notifying task (notice :: rest) :: after) :
    Step backend s (.delivered notice.subject)
      { s with
        dispatcher := (s.dispatcher.deliver notice).2
        workers := before ++ .notifying task ((s.dispatcher.deliver notice).1 ++ rest) :: after }
  /-- A client runs a callback that is due. -/
  | deliver {s : Pipeline β σ} {before after : List (Notice β)} (notice : Notice β)
    (split : s.due = before ++ notice :: after) :
    Step backend s (.delivered notice.subject)
      { s with
        dispatcher := (s.dispatcher.deliver notice).2
        due := before ++ (s.dispatcher.deliver notice).1 ++ after }
  /-- A worker that has run all callbacks releases its task and is free. -/
  | release {s : Pipeline β σ} {before after : List (Worker β)} (task : Task)
    (split : s.workers = before ++ .notifying task [] :: after) :
    Step backend s (.released task)
      { s with dispatcher := s.dispatcher.release task, workers := before ++ after }

/-- Steps one after another, with what is seen of them in order. -/
inductive Run (backend : Backend σ) (s : Pipeline β σ) : List Event → Pipeline β σ → Prop where
  /-- No step. -/
  | nil : Run backend s [] s
  /-- A step more. -/
  | snoc {trace : List Event} {t u : Pipeline β σ} {event : Event}
    (earlier : Run backend s trace t) (step : Step backend t event u) :
    Run backend s (trace ++ [event]) u

variable {backend : Backend σ}

/-- A run after a run. -/
theorem Run.append {s t u : Pipeline β σ} {first second : List Event}
    (before : Run backend s first t) (later : Run backend t second u) :
    Run backend s (first ++ second) u := by
  induction later with
  | nil =>
    rw [List.append_nil]
    exact before
  | snoc _ step ih =>
    rw [← List.append_assoc]
    exact .snoc ih step

/-- One step is a run. -/
theorem Run.single {s t : Pipeline β σ} {event : Event} (step : Step backend s event t) :
    Run backend s [event] t := .snoc .nil step

/-! ## What a trace tells -/

/-- The write that was accepted, if any was. -/
def Event.accepted? : Event → Option Ticket
  | .submitted request (.ok id) => some ⟨id, request⟩
  | _ => none

/-- The write whose task was released, if one was. -/
def Event.released? : Event → Option Ticket
  | .released task => task.ticket?
  | _ => none

/-- The accepted writes, in order of acceptance. -/
def accepted (trace : List Event) : List Ticket := trace.filterMap Event.accepted?

/-- The writes whose workers are done with them. -/
def released (trace : List Event) : List Ticket := trace.filterMap Event.released?

@[simp] theorem accepted_append (first second : List Event) :
    accepted (first ++ second) = accepted first ++ accepted second := List.filterMap_append

@[simp] theorem released_append (first second : List Event) :
    released (first ++ second) = released first ++ released second := List.filterMap_append

/-- What one event adds to the accepted writes. -/
theorem accepted_single (event : Event) : accepted [event] = event.accepted?.toList := by
  cases seen : event.accepted? with
  | none => simp [accepted, seen]
  | some ticket => simp [accepted, seen]

/-- What one event adds to the released writes. -/
theorem released_single (event : Event) : released [event] = event.released?.toList := by
  cases seen : event.released? with
  | none => simp [released, seen]
  | some ticket => simp [released, seen]

/-! ## Where accepted writes are -/

/-- The accepted writes in the buffer. -/
def buffered (pipeline : Pipeline β σ) : List Ticket :=
  pipeline.dispatcher.buffer.entries.map BufferedWrite.ticket

/-- The accepted writes that wait for a worker. -/
def queued (pipeline : Pipeline β σ) : List Ticket :=
  pipeline.dispatcher.queue.filterMap Task.ticket?

/-- The accepted writes that workers are busy with. -/
def executing (pipeline : Pipeline β σ) : List Ticket :=
  pipeline.workers.filterMap fun worker => worker.task.ticket?

/-- The tasks that were handed to the pool and are not released: those of workers, then those that
wait. -/
def tasks (pipeline : Pipeline β σ) : List Task :=
  pipeline.workers.map Worker.task ++ pipeline.dispatcher.queue

/-- All callbacks that are due and have not run. -/
def allDue (pipeline : Pipeline β σ) : List (Notice β) :=
  pipeline.due ++ pipeline.workers.flatMap Worker.due

end Pipeline
end WideColumn
