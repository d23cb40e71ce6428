import WideColumn.Dispatcher.Worker
import WideColumn.Session.Script

/-!
# Sessions

A session runs a script on one thread. Workers work when the script says so, and whenever something
is waited for; waiting itself takes no time. A callback runs inside the step that made it due, and a
step inside a callback can make further callbacks due. Each deferred result completes once, each
callback runs once and each task is taken once, so the depth of all this is bounded by the size of
the script.
-/
namespace WideColumn

/-- Where submissions go. -/
inductive Surface where
  /-- Straight to the dispatcher. -/
  | dispatcher
  /-- Through the methods of a client. -/
  | client
deriving DecidableEq, Inhabited

/-- The state of a session. -/
structure Session where
  /-- Where submissions go. -/
  surface : Surface
  /-- The dispatcher. -/
  dispatcher : Dispatcher ClientCallback
  /-- The store behind it. -/
  backend : FaultyStore
  /-- The random additions to pauses. -/
  jitter : JitterSource
  /-- The pauses so far, latest first. -/
  pauses : List Number
  /-- Deferred results by name, latest first. -/
  names : List (Text × DeferredId)
  /-- Barriers over members without an order of their own. -/
  unordered : List DeferredId
  /-- Scans whose rows have been read. -/
  consumed : List DeferredId
  /-- Whether workers wait as well while something is waited for. -/
  isHeld : Bool
  /-- What callbacks left behind, latest first. -/
  trace : List TraceEntry

namespace Session

/-- A session at its beginning. -/
def start (surface : Surface) (settings : Settings) (clock : Clock) (store : Store)
    (fractions : List Number) : Session :=
  ⟨surface, .start settings clock, .ofStore store, ⟨fractions⟩, [], [], [], [], false, []⟩

/-- Change the dispatcher. -/
def onDispatcher (session : Session)
    (change : Dispatcher ClientCallback → Dispatcher ClientCallback) : Session :=
  { session with dispatcher := change session.dispatcher }

/-- Change the table of deferred results. -/
def setDeferreds (session : Session) (deferreds : Deferreds ClientCallback) : Session :=
  session.onDispatcher fun dispatcher => { dispatcher with deferreds }

/-- The reference behind a name. -/
def find (session : Session) (name : Text) : Except Error DeferredId :=
  match session.names.lookup name with
  | some id => .ok id
  | none => .error (.unknownDeferred name)

/-- The deferred result behind a name. -/
def deferred (session : Session) (name : Text) :
    Except Error (DeferredId × Deferred ClientCallback) := do
  let id ← session.find name
  return (id, (session.dispatcher.deferreds.get? id).getD default)

/-- Store a deferred result under a name. -/
def bindName (session : Session) (name : Text) (id : DeferredId) : Session :=
  { session with names := (name, id) :: session.names }

/-- The state under a reference. -/
def stateOf (session : Session) (id : DeferredId) : DeferredState :=
  ((session.dispatcher.deferreds.get? id).getD default).state

/-- What is shown of something that belongs to a deferred result. -/
def shown (session : Session) (id : DeferredId) (content : α) : Shown α :=
  ⟨content, !session.unordered.contains id⟩

/-- The logger of deferred results. -/
def callbackSource : String := "asynctable.engine.deferred"

/-- What the callback of a barrier on its members is called in logs. -/
def memberLabel : Text := "Deferred.group.<locals>._member_done"

/-- The event of a callback that raised. -/
def callbackRaised (label : Text) (state : DeferredState) (error : Error) : Log.Event :=
  (Log.Event.plain callbackSource .error "Deferred callback raised"
    [("callback", .text label), ("state", .string state.name), ("error", .text error.message),
      ("error_type", .string error.kind.name)]).attached

/-- Put a callback that raised on record. -/
def recordRaise (session : Session) (subject : DeferredId) (label : Text) (error : Error) :
    Session :=
  session.onDispatcher fun dispatcher =>
    dispatcher.log (callbackRaised label (session.stateOf subject) error)

/-- One attempt at a task. -/
def attempt (task : Task) (session : Session) : Outcome × Session :=
  let (outcome, backend) := task.submission.execute FaultyStore.answer task.filter session.backend
  (outcome, { session with backend })

/-- Choose the pause after an attempt. -/
def choosePause (policy : RetryPolicy) (number : Nat) (session : Session) : Number × Session :=
  let (addition, jitter) := session.jitter.draw policy.backoff
  (policy.backoff.delay number addition, { session with jitter })

/-- Report a failed attempt. -/
def reportRetry (task : Task) (number : Nat) (error : Error) (session : Session) : Session :=
  session.onDispatcher (·.log (Dispatcher.retrying task number error))

/-- Pause, which takes no time here. -/
def sleep (length : Number) (session : Session) : Session :=
  { session with pauses := length :: session.pauses }

/-- Execute a task, retries included. -/
def executeTask (task : Task) (session : Session) : Outcome × Session :=
  let policy := session.dispatcher.settings.retry.policy
  Retry.attempts Error.isTransient ⟨attempt task, choosePause policy, reportRetry task, sleep⟩
    policy.further 1 session

/-- Run the body of a callback. An error ends it. -/
def runBody (perform : Step → Session → Except Error Reply × Session) (subject : DeferredId)
    (label : Text) : List Step → Session → Session
  | [], session => session
  | step :: rest, session =>
    match perform step session with
    | (.ok reply, session) =>
      runBody perform subject label rest
        { session with trace := .acted label step reply :: session.trace }
    | (.error error, session) => session.recordRaise subject label error

/-- The value or error of a deferred result that was waited for. The rows of a scan can be read
once. -/
def outcomeOf (session : Session) (id : DeferredId) (outcome : Outcome) :
    Except Error Reply × Session :=
  match outcome with
  | .ok (.rows rows) =>
    if session.consumed.contains id then (.ok (.result (.rows [])), session)
    else (.ok (.result (.rows rows)), { session with consumed := id :: session.consumed })
  | .ok result => (.ok (.result result), session)
  | .error (.flushFailed failures) =>
    (.ok (.raised (session.shown id (.flushFailed failures))), session)
  | .error error => (.error error, session)

/-- The error of a wait that ends without an outcome. -/
def waitError : Option Number → Error
  | some bound => .deferredTimeout bound
  | none => .wouldBlock

/-- A step that only looks. -/
def look (session : Session) (reply : Except Error Reply) : Except Error Reply × Session :=
  (reply, session)

mutual

/-- Deliver a notice and whatever it makes due. -/
def deliver : Nat → Notice ClientCallback → Session → Session
  | 0, _, session => session
  | fuel + 1, notice, session =>
    let (deferreds, due, effect) := session.dispatcher.deferreds.deliver notice
    let session := session.setDeferreds deferreds
    let session := due.foldl (fun session notice => deliver fuel notice session) session
    match effect with
    | .none => session
    | .flushed reason batch outcome =>
      session.onDispatcher (·.log (Dispatcher.flushCompleted reason batch outcome))
    | .client body outcome =>
      let entry := .began body.label (session.shown notice.subject outcome)
      runBody (perform fuel) notice.subject body.label body.body
        { session with trace := entry :: session.trace }
    | .refused error => session.recordRaise notice.subject memberLabel error

/-- Work off tasks, at most as many as stated, and count them. -/
def work : Nat → Option Nat → Session → Nat × Session
  | 0, _, session => (0, session)
  | fuel + 1, limit, session =>
    if limit = some 0 then (0, session)
    else
      match session.dispatcher.take with
      | none => (0, session)
      | some (task, dispatcher) =>
        let (outcome, session) := executeTask task { session with dispatcher }
        let (due, dispatcher) := session.dispatcher.settle task outcome
        let session := due.foldl (fun session notice => deliver fuel notice session)
          { session with dispatcher }
        let session := session.onDispatcher (·.release task)
        let (count, session) := work fuel (limit.map (· - 1)) session
        (count + 1, session)

/-- Let the workers work before something is waited for, unless they are held. -/
def workBeforeWait : Nat → Session → Session
  | 0, session => session
  | fuel + 1, session => if session.isHeld then session else (work fuel none session).2

/-- Finish closing: wait for the barrier of the last flush, then shut the pool down. -/
def finishClose : Nat → DeferredId → Option Number → Session → Except Error Reply × Session
  | 0, _, _, session => (.error .wouldBlock, session)
  | fuel + 1, barrier, bound, session =>
    let session := workBeforeWait fuel session
    let deferred := (session.dispatcher.deferreds.get? barrier).getD default
    let bound := bound.or deferred.timeout
    match deferred.outcome, bound with
    | none, some bound =>
      let session := session.onDispatcher fun dispatcher =>
        (dispatcher.log (Dispatcher.closeTimedOut bound)).shutDownPool
      (.error (.deferredTimeout bound), session)
    | none, none => (.error .wouldBlock, session)
    | some outcome, _ =>
      let session :=
        match outcome with
        | .error (.flushFailed failures) =>
          session.onDispatcher (·.log (Dispatcher.closeFailed failures.length))
        | _ => session
      let (_, session) := work fuel none (session.onDispatcher Dispatcher.shutDownPool)
      (.ok .nothing, session.onDispatcher (·.log Dispatcher.closed))

/-- Perform a step. -/
def perform : Nat → Step → Session → Except Error Reply × Session
  | 0, _, session => (.error .wouldBlock, session)
  | fuel + 1, step, session =>
    let deliverAll (due : List (Notice ClientCallback)) (session : Session) : Session :=
      due.foldl (fun session notice => deliver fuel notice session) session
    -- Complete a deferred result and run what that makes due.
    let complete (name : Text) (outcome : Outcome) : Except Error Reply × Session :=
      match session.find name with
      | .error error => (.error error, session)
      | .ok id =>
        match session.dispatcher.deferreds.complete id outcome with
        | .error error => (.error error, session)
        | .ok (deferreds, due) =>
          (.ok .nothing, deliverAll due (session.setDeferreds deferreds))
    -- Close by way of a last flush.
    let close (bound : Option Number) : Except Error Reply × Session :=
      match session.dispatcher.beginClose with
      | (.error error, due, dispatcher) =>
        (.error error, deliverAll due { session with dispatcher })
      | (.ok none, due, dispatcher) => (.ok .nothing, deliverAll due { session with dispatcher })
      | (.ok (some barrier), due, dispatcher) =>
        finishClose fuel barrier bound (deliverAll due { session with dispatcher })
    match step with
    | .create name timeout =>
      let (id, deferreds) := session.dispatcher.deferreds.create timeout
      (.ok (.state .pending), (session.setDeferreds deferreds).bindName name id)
    | .succeed name value =>
      let (id, deferreds) := session.dispatcher.deferreds.add
        ⟨some (.ok (.value value)), [], none, none⟩
      (.ok (.state .resolved), (session.setDeferreds deferreds).bindName name id)
    | .failure name error =>
      let (id, deferreds) := session.dispatcher.deferreds.add ⟨some (.error error), [], none, none⟩
      (.ok (.state .failed), (session.setDeferreds deferreds).bindName name id)
    | .group name members timeout =>
      match members.mapM session.find with
      | .error error => (.error error, session)
      | .ok members =>
        let (id, deferreds) := session.dispatcher.deferreds.group members timeout
        let session := (session.setDeferreds deferreds).bindName name id
        (.ok (.state (session.stateOf id)), session)
    | .resolve name value => complete name (.ok (.value value))
    | .fail name error => complete name (.error error)
    | .inspect name => session.look do
      let (_, d) ← session.deferred name
      return .report d.state d.isDone d.display d.timeout
    | .exception name => session.look do
      let (id, d) ← session.deferred name
      let error ← d.failure
      return .exception (error.map (session.shown id))
    | .join name bound =>
      match session.find name with
      | .error error => (.error error, session)
      | .ok id =>
        let session := workBeforeWait fuel session
        let d := (session.dispatcher.deferreds.get? id).getD default
        match d.outcome with
        | some outcome => session.outcomeOf id outcome
        | none => (.error (waitError (bound.getD d.timeout)), session)
    | .watch name scope label body =>
      match session.find name with
      | .error error => (.error error, session)
      | .ok id =>
        let (deferreds, due) :=
          session.dispatcher.deferreds.register id (.client scope ⟨label, body⟩)
        (.ok (.flag true), deliverAll due (session.setDeferreds deferreds))
    | .raise error => (.error error, session)
    | .submit name method built =>
      match built with
      | .error error => (.error error, session)
      | .ok submission =>
        let method := method.or submission.kind?
        let (accepted, due, dispatcher) :=
          match session.surface, method with
          | .client, some kind => Client.submit kind submission session.dispatcher
          | _, _ => session.dispatcher.submit submission
        let session := deliverAll due { session with dispatcher }
        match accepted with
        | .error error => (.error error, session)
        | .ok id =>
          let session := name.elim session fun name => session.bindName name id
          (.ok (.state (session.stateOf id)), session)
    | .flush name reason =>
      let others := session.dispatcher.inFlight.length
      let (flushed, due, dispatcher) := session.dispatcher.flush reason
      let session := deliverAll due { session with dispatcher }
      match flushed with
      | .error error => (.error error, session)
      | .ok id =>
        let session := name.elim session fun name =>
          let session := session.bindName name id
          if others > 1 then { session with unordered := id :: session.unordered } else session
        (.ok (.state (session.stateOf id)), session)
    | .poll =>
      let (reason, due, dispatcher) := session.dispatcher.poll
      (reason.map .reason, deliverAll due { session with dispatcher })
    | .advance seconds =>
      match session.dispatcher.clock.advance seconds with
      | .error error => (.error error, session)
      | .ok clock =>
        (.ok (.time clock.now), session.onDispatcher fun dispatcher => { dispatcher with clock })
    | .pending => session.look (.ok (.count session.dispatcher.pendingWrites))
    | .hold => (.ok .nothing, { session with isHeld := true })
    | .release => (.ok .nothing, { session with isHeld := false })
    | .work limit =>
      let (count, session) := work fuel limit session
      (.ok (.count count), session)
    | .shutDownPool => (.ok .nothing, session.onDispatcher Dispatcher.shutDownPool)
    | .close bound => close bound
    | .enter => session.look (.ok (.flag true))
    | .leave => close none
    | .closed => session.look (.ok (.flag session.dispatcher.isClosed))
    | .settings => session.look (.ok (.settings session.dispatcher.settings))
    | .inject key errors always =>
      let backend := session.backend.planNext key errors
      let backend := always.elim backend fun error => backend.planAlways key (some error)
      (.ok .nothing, { session with backend })
    | .calls => session.look (.ok (.calls session.backend.calls.reverse))
    | .backend call =>
      match call with
      | .error error => (.error error, session)
      | .ok call =>
        let (reply, store) := call.run session.backend.store
        (reply.map .stored, { session with backend := { session.backend with store } })

end

/-- What a top-level step leaves behind: its answer, the trace of callbacks and what was logged. -/
structure StepReport where
  /-- The answer. -/
  answer : Except Error Reply
  /-- The trace, in order. -/
  trace : List TraceEntry
  /-- The events, in order. -/
  events : List Log.Event

/-- Perform a top-level step and take out what it left behind. -/
def report (fuel : Nat) (step : Step) (session : Session) : StepReport × Session :=
  let (answer, session) := perform fuel step session
  (⟨answer, session.trace.reverse, session.dispatcher.journal.reverse⟩,
    { session with trace := [] }.onDispatcher fun dispatcher => { dispatcher with journal := [] })

/-- Perform steps in order. -/
def reports (fuel : Nat) : List Step → Session → List StepReport × Session
  | [], session => ([], session)
  | step :: rest, session =>
    let (first, session) := report fuel step session
    let (others, session) := reports fuel rest session
    (first :: others, session)

/-- A depth that no run of a script reaches: every nesting uses up a step, a callback or a task of
its own. -/
def depth (script : List Step) : Nat := 8 * Step.sizeAll script + 64

/-- What a session leaves behind. -/
structure SessionReport where
  /-- What was logged before the first step. -/
  opening : List Log.Event
  /-- The steps. -/
  steps : List StepReport
  /-- All pauses between attempts. -/
  pauses : List Number

/-- Run a script. -/
def run (session : Session) (script : List Step) : SessionReport :=
  let opening := session.dispatcher.journal.reverse
  let (steps, session) := reports (depth script) script
    (session.onDispatcher fun dispatcher => { dispatcher with journal := [] })
  ⟨opening, steps, session.pauses.reverse⟩

end Session
end WideColumn
