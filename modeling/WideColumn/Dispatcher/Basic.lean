import WideColumn.Clock
import WideColumn.Deferred.Table
import WideColumn.Dispatcher.Buffer
import WideColumn.Settings.Basic

/-!
# The dispatcher

The dispatcher stands between clients and the store. Reads go to the pool of workers at once. Writes
are buffered and leave the buffer only when a flush takes all of them and hands each to the pool.
From then on a write is in flight until its worker is done with it.

The state holds everything that several threads share. What happens between taking and releasing the
lock is one function on the state, and so is each step of a worker; any interleaving of threads is a
sequence of such functions. Callbacks that a step makes due are handed back as notices. The clock is
read once for each of these functions: all its readings under one lock are one.
-/
namespace WideColumn

/-- Work for the pool. -/
structure Task where
  /-- What is to be executed. -/
  submission : Submission
  /-- Where the outcome goes. -/
  deferred : DeferredId
  /-- The converted filter of a read. -/
  filter : Option Store.Filter

/-- The state that clients and workers share. Client callbacks have bodies of any type. -/
structure Dispatcher (β : Type) where
  /-- The settings. -/
  settings : Settings
  /-- The time. -/
  clock : Clock
  /-- Where the filters of reads get the raw bytes of their patterns. -/
  patchPoint : PatchPoint
  /-- All deferred results. -/
  deferreds : Deferreds β
  /-- Accepted writes that have not been handed to the pool. -/
  buffer : WriteBuffer
  /-- When to flush. -/
  triggers : Triggers Number
  /-- Writes handed to the pool whose worker is not done with them. -/
  inFlight : List DeferredId
  /-- Whether closing has begun. -/
  isClosed : Bool
  /-- Work that no worker has taken, first come first served. -/
  queue : List Task
  /-- Whether the pool refuses further work. -/
  isShutDown : Bool
  /-- What was logged, latest first. -/
  journal : List Log.Event

namespace Dispatcher

variable {β : Type}

/-- The logger of the dispatcher. -/
def source : String := "asynctable.engine.dispatcher"

/-- Put an event on record. -/
def log (dispatcher : Dispatcher β) (event : Log.Event) : Dispatcher β :=
  { dispatcher with journal := event :: dispatcher.journal }

/-- An integer that may be absent as a value. -/
def countValue (count : Option Int) : Value := .ofOption Value.int count

/-- A number that may be absent as a value. -/
def numberValue (number : Option Number) : Value := .ofOption Value.number number

/-- The event of a new dispatcher. -/
def started (settings : Settings) : Log.Event :=
  .plain source .debug "Dispatcher started"
    [("max_workers", .int settings.concurrency.maxWorkers),
      ("flush_threshold", countValue settings.buffer.flushThreshold),
      ("flush_interval_seconds", numberValue settings.buffer.flushInterval),
      ("max_pending_writes", .int settings.buffer.maxPendingWrites)]

/-- A dispatcher with nothing to do. -/
def start (settings : Settings) (clock : Clock) : Dispatcher β :=
  ⟨settings, clock, .standard, .empty, .empty, .start clock.now, [], false, [], false,
    [started settings]⟩

/-- Writes accepted and not yet released: buffered or in flight. -/
def pendingWrites (dispatcher : Dispatcher β) : Nat :=
  dispatcher.buffer.size + dispatcher.inFlight.length

/-- Hand writes to the pool one by one; each is in flight before the pool is asked. A pool that is
shut down refuses the first, and the rest is not tried. -/
def handOver : List BufferedWrite → Dispatcher β → Except Error Unit × Dispatcher β
  | [], dispatcher => (.ok (), dispatcher)
  | write :: rest, dispatcher =>
    let dispatcher := { dispatcher with inFlight := dispatcher.inFlight ++ [write.deferred] }
    if dispatcher.isShutDown then (.error .poolShutDown, dispatcher)
    else
      handOver rest { dispatcher with
        queue := dispatcher.queue ++ [⟨.request write.request, write.deferred, none⟩] }

/-- The event of a flush that took writes out of the buffer. -/
def flushStarted (reason : FlushReason) (batch inFlight : Nat) (age : Number) : Log.Event :=
  .plain source .debug "Flush started"
    [("reason", .string reason.name), ("batch_size", .int batch), ("in_flight", .int inFlight),
      ("oldest_write_age", .number age)]

/-- The event of a flush all of whose members are terminal. -/
def flushCompleted (reason : FlushReason) (batch : Nat) (outcome : Outcome) : Log.Event :=
  match outcome with
  | .error (.flushFailed failures) =>
    .plain source .warning "Flush completed with failures"
      [("reason", .string reason.name), ("batch_size", .int batch),
        ("failed", .int failures.length)]
  | _ =>
    .plain source .debug "Flush completed"
      [("reason", .string reason.name), ("batch_size", .int batch)]

/-- Flush: take all writes out of the buffer, hand them to the pool, and give a barrier over them
and over the writes that were in flight before. One reading of the clock starts the next interval
and tells the age of the oldest write. -/
def flush (reason : FlushReason) (dispatcher : Dispatcher β) :
    Except Error DeferredId × List (Notice β) × Dispatcher β :=
  let now := dispatcher.clock.now
  let oldest := dispatcher.buffer.oldest?
  let (drained, buffer) := dispatcher.buffer.swap
  let members := drained.map (·.deferred) ++ dispatcher.inFlight
  match handOver drained { dispatcher with buffer, triggers := dispatcher.triggers.reset now } with
  | (.error error, dispatcher) => (.error error, [], dispatcher)
  | (.ok (), dispatcher) =>
    let (barrier, deferreds) :=
      dispatcher.deferreds.group members dispatcher.settings.timeouts.flushTimeout
    if drained.isEmpty then (.ok barrier, [], { dispatcher with deferreds })
    else
      let age := oldest.elim (.float 0.0) (now - ·)
      let others := dispatcher.inFlight.length - drained.length
      let (deferreds, due) := deferreds.register barrier (.flushed reason drained.length)
      (.ok barrier, due,
        { dispatcher with deferreds }.log (flushStarted reason drained.length others age))

/-- The error of a submission after closing. -/
def refusal (raced : Bool) (submission : Submission) : Error :=
  match submission.kind? with
  | some kind => .closed kind raced
  | none => .misuse (.noAttribute submission.typeName "kind")

/-- The event of a write that was refused. -/
def rejected (request : Request) (pending : Nat) (capacity : Int) : Log.Event :=
  .plain source .warning "Write rejected, too many pending writes"
    [("operation", .string request.kind.name), ("table", .raw request.table),
      ("pending", .int pending), ("capacity", .int capacity)]

/-- Buffer a write that is neither too late nor too much, and evaluate the triggers. One reading of
the clock is the time of the write, that at which the size trigger fires, and that of the
evaluation. -/
def accept (request : Request) (dispatcher : Dispatcher β) : DeferredId × Dispatcher β :=
  let bounds := dispatcher.settings.buffer.bounds
  let now := dispatcher.clock.now
  let (id, deferreds) := dispatcher.deferreds.create dispatcher.settings.timeouts.joinTimeout
  let triggers := (dispatcher.triggers.accept bounds now).evaluate bounds now
  (id, { dispatcher with
    deferreds
    buffer := dispatcher.buffer.push ⟨request, id, now⟩
    triggers })

/-- Accept a write: buffer it, and flush if that fires a trigger. A write is refused after closing,
and when as many writes are outstanding as the settings allow. The flush, if there is one, reads the
clock as the acceptance does. -/
def enqueue (request : Request) (dispatcher : Dispatcher β) :
    Except Error DeferredId × List (Notice β) × Dispatcher β :=
  let capacity := dispatcher.settings.buffer.maxPendingWrites
  let pending := dispatcher.pendingWrites
  if dispatcher.isClosed then (.error (refusal false request), [], dispatcher)
  else if capacity ≤ pending then
    (.error (.bufferFull pending capacity), [],
      dispatcher.log (rejected request pending capacity))
  else
    let (id, accepted) := dispatcher.accept request
    match accepted.triggers.found with
    | none => (.ok id, [], accepted)
    | some reason =>
      let (barrier, due, flushed) := accepted.flush reason
      (barrier.map fun _ => id, due, flushed)

/-- The filter of a read, converted by way of a patch point. -/
def convertedFilter (point : PatchPoint) (submission : Submission) :
    Except Error (Option Store.Filter) :=
  match submission with
  | .request known =>
    match known.filter? with
    | none => .ok none
    | some filter => (filter.convert point).map some
  | .lookalike .. => .ok none
  | .value other => .error (.misuse (.noAttribute other.typeName "filter"))

/-- The first half of accepting a read: it is refused after closing, and its filter is converted. -/
def admitRead (submission : Submission) (dispatcher : Dispatcher β) :
    Except Error (Option Store.Filter) :=
  if dispatcher.isClosed then .error (refusal false submission)
  else convertedFilter dispatcher.patchPoint submission

/-- The second half of accepting a read: the pool is asked, which may have been shut down since. -/
def queueRead (submission : Submission) (filter : Option Store.Filter)
    (dispatcher : Dispatcher β) : Except Error DeferredId × Dispatcher β :=
  if dispatcher.isShutDown then (.error (refusal true submission), dispatcher)
  else
    let (id, deferreds) := dispatcher.deferreds.create dispatcher.settings.timeouts.joinTimeout
    (.ok id,
      { dispatcher with deferreds, queue := dispatcher.queue ++ [⟨submission, id, filter⟩] })

/-- Accept a read: convert its filter and queue it for the pool. -/
def enqueueRead (submission : Submission) (dispatcher : Dispatcher β) :
    Except Error DeferredId × Dispatcher β :=
  match dispatcher.admitRead submission with
  | .error error => (.error error, dispatcher)
  | .ok filter => dispatcher.queueRead submission filter

/-- Accept what a client submits. -/
def submit (submission : Submission) (dispatcher : Dispatcher β) :
    Except Error DeferredId × List (Notice β) × Dispatcher β :=
  match submission with
  | .request known =>
    if known.kind.isWrite then dispatcher.enqueue known
    else
      let (id, dispatcher) := dispatcher.enqueueRead submission
      (id, [], dispatcher)
  | _ =>
    let (id, dispatcher) := dispatcher.enqueueRead submission
    (id, [], dispatcher)

/-- Flush if a trigger has fired, and give the reason. Whether a trigger has fired, which one, and
the flush go by one reading of the clock. -/
def poll (dispatcher : Dispatcher β) :
    Except Error (Option FlushReason) × List (Notice β) × Dispatcher β :=
  let bounds := dispatcher.settings.buffer.bounds
  let triggers := dispatcher.triggers.evaluate bounds dispatcher.clock.now
  let evaluated := { dispatcher with triggers }
  match triggers.found with
  | none => (.ok none, [], evaluated)
  | some reason =>
    let (barrier, due, flushed) := evaluated.flush reason
    (barrier.map fun _ => some reason, due, flushed)

/-- Begin to close: no more submissions, and a last flush whose barrier is waited for. Closing again
does nothing. -/
def beginClose (dispatcher : Dispatcher β) :
    Except Error (Option DeferredId) × List (Notice β) × Dispatcher β :=
  if dispatcher.isClosed then (.ok none, [], dispatcher)
  else
    let (barrier, due, flushed) := { dispatcher with isClosed := true }.flush .shutdown
    (barrier.map some, due, flushed)

/-- Shut the pool down: it refuses further work and keeps what is queued. -/
def shutDownPool (dispatcher : Dispatcher β) : Dispatcher β :=
  { dispatcher with isShutDown := true }

/-- The event of a pool that is shut down while writes are outstanding. -/
def closeTimedOut (bound : Number) : Log.Event :=
  .plain source .warning "Shutdown flush timed out" [("timeout", .number bound)]

/-- The event of writes that failed in the last flush. -/
def closeFailed (failed : Nat) : Log.Event :=
  .plain source .warning "Writes failed during shutdown flush" [("failed", .int failed)]

/-- The event of a dispatcher that has closed. -/
def closed : Log.Event := .plain source .info "Dispatcher closed" []

end Dispatcher
end WideColumn
