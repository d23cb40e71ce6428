import WideColumn.Proofs.Number
import WideColumn.Proofs.Pipeline.Backpressure

/-!
# Triggers and the buffer

The triggers keep a count of their own of what the dispatcher keeps in the buffer, and the two stay
in step through everything that adds to the buffer or drains it. Whenever nobody is in the middle of
anything the size trigger has not fired, so what a poll finds is the interval, and a flush for the
size drains as many writes as the threshold says. Nothing that is due is left behind by a write that
was accepted or by a poll.
-/
namespace WideColumn

namespace Triggers

variable {triggers : Triggers Number} {bounds : TriggerBounds Number} {now : Number}

/-- The interval trigger has not fired if it is off, if nothing is buffered or before its time. -/
theorem intervalFired_eq_none :
    triggers.intervalFired bounds now = none ↔
      ∀ interval, bounds.interval = some interval →
        0 < triggers.buffered → ¬ triggers.lastFlush + interval ≤ now := by
  unfold intervalFired
  cases bounds.interval with
  | none => simp
  | some interval => simp

/-- As long as the size trigger has not fired, the interval is the only reason. -/
theorem reason_of_unfired (unfired : triggers.sizeFired = none) :
    triggers.reason bounds now = (triggers.intervalFired bounds now).map fun _ => .interval := by
  unfold reason
  rw [unfired]
  cases triggers.intervalFired bounds now <;> rfl

/-- An evaluation that finds no reason has not seen the interval run out. -/
theorem intervalFired_of_quiet (quiet : triggers.reason bounds now = none) :
    triggers.intervalFired bounds now = none := by
  rw [reason_of_unfired (sizeFired_of_quiet quiet)] at quiet
  exact Option.map_eq_none_iff.mp quiet

/-- The size is a reason only after its trigger has fired. -/
theorem sizeFired_of_reason (found : triggers.reason bounds now = some .size) :
    triggers.sizeFired ≠ none := by
  intro unfired
  rw [reason_of_unfired unfired] at found
  cases fired : triggers.intervalFired bounds now with
  | none => rw [fired] at found; cases found
  | some _ => rw [fired] at found; cases found

end Triggers

namespace Pipeline

variable {β σ : Type} {s t : Pipeline β σ} {backend : Backend σ} {event : Event}
  {d : Dispatcher β}

/-! ## What is due -/

/-- Something is buffered, and the interval since the last flush has run out. -/
def IsDue (d : Dispatcher β) : Prop :=
  d.buffer.entries ≠ [] ∧ ∃ interval, d.settings.buffer.flushInterval = some interval ∧
    d.triggers.lastFlush + interval ≤ d.clock.now

/-- Nothing is buffered, or the interval trigger is off, or its time is still to come. A time that
is no number has no place in the order. -/
def Punctual (d : Dispatcher β) : Prop :=
  d.buffer.entries = [] ∨ ∀ interval, d.settings.buffer.flushInterval = some interval →
    d.clock.now ≤ d.clock.now →
    d.triggers.lastFlush + interval ≤ d.triggers.lastFlush + interval →
    d.clock.now < d.triggers.lastFlush + interval

/-- The writes are handed to the pool in their order, and the buffer is empty. -/
def Drains (writes : List BufferedWrite) (d d' : Dispatcher β) : Prop :=
  d'.buffer.entries = [] ∧ d'.queue = d.queue ++ writes.map BufferedWrite.toTask

/-- A flush drains the buffer. -/
theorem drains_flush (accepts : d.isShutDown = true → d.buffer.entries = [])
    (reason : FlushReason) : Drains d.buffer.entries d (d.flush reason).2.2 := by
  obtain ⟨journal, flushed⟩ := d.flush_eq reason accepts
  rw [flushed]
  exact ⟨rfl, rfl⟩

/-- What is not due is still to come. -/
theorem punctual_of_not_due (early : ¬ IsDue d) : Punctual d := by
  by_cases empty : d.buffer.entries = []
  · exact .inl empty
  · refine .inr fun interval on ordered place => Number.lt_of_not_le ordered place fun passed => ?_
    exact early ⟨empty, interval, on, passed⟩

/-- With an exact count, what is buffered is due exactly if the interval trigger has fired. -/
theorem intervalFired_eq_none_iff (counted : d.triggers.buffered = d.buffer.size) :
    d.triggers.intervalFired d.settings.buffer.bounds d.clock.now = none ↔ ¬ IsDue d := by
  rw [Triggers.intervalFired_eq_none, counted]
  constructor
  · rintro quiet ⟨some_held, interval, on, passed⟩
    exact quiet interval on (List.length_pos_iff.mpr some_held) passed
  · intro early interval on some_held passed
    exact early ⟨List.length_pos_iff.mp some_held, interval, on, passed⟩

/-- A poll before anything is due does nothing. -/
theorem poll_early (tracks : Tracks d) (early : ¬ IsDue d) :
    d.poll = (.ok none, [], { d with triggers := { d.triggers with found := none } }) := by
  have found : d.triggers.reason d.settings.buffer.bounds d.clock.now = none := by
    rw [Triggers.reason_of_unfired tracks.unfired,
      (intervalFired_eq_none_iff tracks.counted).mpr early]
    rfl
  unfold Dispatcher.poll
  simp only [Triggers.evaluate, found]

/-- A poll when something is due flushes, and says that it is for the interval. -/
theorem poll_due (tracks : Tracks d) (due : IsDue d) :
    ∃ triggers, d.poll =
      (({ d with triggers }.flush .interval).1.map fun _ => some .interval,
        ({ d with triggers }.flush .interval).2) := by
  obtain ⟨time, fired⟩ := Option.ne_none_iff_exists'.mp
    (mt (intervalFired_eq_none_iff tracks.counted).mp (not_not_intro due))
  have found : d.triggers.reason d.settings.buffer.bounds d.clock.now = some .interval := by
    rw [Triggers.reason_of_unfired tracks.unfired, fired]
    rfl
  refine ⟨{ d.triggers with found := some .interval }, ?_⟩
  unfold Dispatcher.poll
  simp only [Triggers.evaluate, found]

/-- A write that is accepted leaves nothing behind that is due. -/
theorem punctual_submit (orderly : s.Orderly) (tracks : Tracks s.dispatcher) {request : Request}
    {id : DeferredId} (done : (s.dispatcher.enqueue request).1 = .ok id) :
    Punctual (s.dispatcher.enqueue request).2.2 := by
  have ended := s.dispatcher.enqueues request
  generalize s.dispatcher.enqueue request = result at ended done
  cases ended with
  | late isClosed => cases done
  | full isOpen reached => cases done
  | buffered isOpen below quiet =>
    have still := tracks.accept quiet
    apply punctual_of_not_due
    rw [← intervalFired_eq_none_iff still.counted]
    exact Triggers.intervalFired_of_quiet quiet
  | triggered isOpen below reason fired =>
    exact .inl (drains_flush (orderly.accepts_more request isOpen) reason).1

/-- The size trigger fires with the write that makes the buffer as long as the threshold says. -/
theorem threshold_of_fired (tracks : Tracks d) {request : Request}
    (fired : (d.accept request).2.triggers.found = some .size) :
    d.settings.buffer.flushThreshold = some ((d.accept request).2.buffer.size : Int) := by
  have reached : d.triggers.sizeFired.or
      (if Triggers.reached d.settings.buffer.bounds (d.triggers.buffered + 1) then
        some d.clock.now else none) ≠ none := Triggers.sizeFired_of_reason fired
  rw [tracks.unfired, Option.none_or, tracks.counted] at reached
  have now : ¬ Triggers.reached d.settings.buffer.bounds (d.buffer.size + 1) = false :=
    fun short => reached (if_neg (Bool.eq_false_iff.mp short))
  rw [Triggers.reached_eq_false] at now
  obtain ⟨threshold, far⟩ := Classical.not_forall.mp now
  obtain ⟨on, least⟩ := Classical.not_imp.mp far
  have more := Triggers.reached_eq_false.mp tracks.below threshold on
  have longer : (d.accept request).2.buffer.size = d.buffer.size + 1 := WriteBuffer.size_push _ _
  rw [longer]
  change d.settings.buffer.flushThreshold = some threshold at on
  rw [on]
  exact congrArg some (by omega)

/-! ## What is put on record -/

/-- What was put on record last is the start of a flush. -/
def StartsFlush (reason : FlushReason) (batch : Nat) (before after : List Log.Event) : Prop :=
  ∃ inFlight age, after = Dispatcher.flushStarted reason batch inFlight age :: before

variable {reason other : FlushReason} {batch size inFlight : Nat} {age : Number}
  {journal : List Log.Event}

/-- At most one event is put on record, and it is not the start of a flush. -/
inductive Unflushed (before : List Log.Event) : List Log.Event → Prop where
  /-- Nothing is put on record. -/
  | silent : Unflushed before before
  /-- An event with another message is put on record. -/
  | logged (event : Log.Event) (different : event.message ≠ Text.ofString "Flush started") :
    Unflushed before (event :: before)

/-- Where no flush starts none is put on record. -/
theorem Unflushed.not_startsFlush {before after : List Log.Event}
    (unflushed : Unflushed before after) : ¬ StartsFlush reason batch before after := by
  rintro ⟨inFlight, age, same⟩
  cases unflushed with
  | silent => exact List.cons_ne_self _ _ same.symm
  | logged event different => exact different (congrArg Log.Event.message (List.cons.inj same).1)

/-- A call of the store starts no flush. -/
theorem unflushed_call (task : Task) (attempt further : Nat) (outcome : Outcome) :
    Unflushed d.journal
      (d.logAny (Worker.afterAttempt (β := β) task attempt further outcome).2).journal := by
  unfold Worker.afterAttempt
  split
  · exact .silent
  · exact .silent
  · refine .logged _ ?_
    change Text.ofString "Retrying backend operation" ≠ _
    decide

/-- The completion of a task starts no flush. -/
theorem unflushed_settle (task : Task) (outcome : Outcome) :
    Unflushed d.journal (d.settle task outcome).2.journal := by
  unfold Dispatcher.settle
  cases outcome with
  | ok result =>
    dsimp only
    split <;> exact .silent
  | error error =>
    have different :
        (Dispatcher.taskFailed task error).message ≠ Text.ofString "Flush started" := by
      unfold Dispatcher.taskFailed
      split
      · change Text.ofString "Backend operation failed" ≠ _
        decide
      · change Text.ofString "Request execution failed unexpectedly" ≠ _
        decide
    dsimp only
    split <;> exact .logged _ different

/-- A callback by itself starts no flush. -/
theorem unflushed_deliver (notice : Notice β) :
    Unflushed d.journal (d.deliver notice).2.journal := by
  unfold Dispatcher.deliver
  dsimp only
  split
  · exact .silent
  · exact .silent
  · refine .logged _ ?_
    unfold Dispatcher.flushCompleted
    split
    · change Text.ofString "Flush completed with failures" ≠ _
      decide
    · change Text.ofString "Flush completed" ≠ _
      decide
  · refine .logged _ ?_
    change Text.ofString "Deferred callback raised" ≠ _
    decide

/-- Reasons have different names. -/
theorem name_injective (same : Text.ofString other.name = Text.ofString reason.name) :
    other = reason := by
  revert same
  cases other <;> cases reason <;> decide

/-- The start of a flush tells its reason and its size. -/
theorem startsFlush_cons (started : StartsFlush reason batch journal
    (Dispatcher.flushStarted other size inFlight age :: journal)) :
    other = reason ∧ size = batch := by
  obtain ⟨_, _, same⟩ := started
  have fields := congrArg Log.Event.fields (List.cons.inj same).1
  simp only [Dispatcher.flushStarted, Log.Event.plain, List.map_cons, List.cons.injEq,
    Prod.mk.injEq, Value.text.injEq, Value.number.injEq, Number.int.injEq, Int.natCast_inj,
    true_and] at fields
  exact ⟨name_injective fields.1, fields.2.1⟩

/-- What a flush puts on record. -/
theorem flush_records (reason : FlushReason)
    (accepts : d.isShutDown = true → d.buffer.entries = []) :
    ∃ inFlight age, (d.flush reason).2.2.journal =
      if d.buffer.entries = [] then d.journal
      else Dispatcher.flushStarted reason d.buffer.size inFlight age :: d.journal := by
  have handed := Dispatcher.handOver_eq d.buffer.entries { d with
    buffer := .empty, triggers := d.triggers.reset d.clock.now } accepts
  unfold Dispatcher.flush
  simp only [WriteBuffer.swap]
  rw [handed]
  by_cases empty : d.buffer.entries = []
  · simp only [empty, List.isEmpty_nil, ↓reduceIte]
    exact ⟨0, default, trivial⟩
  · simp only [empty, List.isEmpty_iff, ↓reduceIte]
    exact ⟨_, _, rfl⟩

/-- A flush that reports its start reports its reason and how many writes it drains. -/
theorem StartsFlush.flush (accepts : d.isShutDown = true → d.buffer.entries = [])
    (started : StartsFlush reason batch d.journal (d.flush other).2.2.journal) :
    other = reason ∧ d.buffer.size = batch := by
  obtain ⟨inFlight, age, recorded⟩ := flush_records other accepts
  rw [recorded] at started
  split at started
  · exact absurd started Unflushed.silent.not_startsFlush
  · exact startsFlush_cons started

/-- Unless a client asked for a flush under that name, a step that starts a flush for the size
drains as many writes as the threshold says. -/
theorem Step.drains_size (step : Step backend s event t) (orderly : s.Orderly)
    (tracks : Tracks s.dispatcher)
    (started : StartsFlush .size batch s.dispatcher.journal t.dispatcher.journal)
    (unasked : ∀ answer, event ≠ .flushed .size answer) :
    s.dispatcher.settings.buffer.flushThreshold = some (batch : Int) ∧
      ∃ writes, writes.length = batch ∧ Drains writes s.dispatcher t.dispatcher := by
  cases step with
  | submit request isWrite =>
    have ended := s.dispatcher.enqueues request
    change StartsFlush _ _ _ (s.dispatcher.enqueue request).2.2.journal at started
    generalize s.dispatcher.enqueue request = result at ended started
    cases ended with
    | late isClosed => exact absurd started Unflushed.silent.not_startsFlush
    | full isOpen reached =>
      refine absurd started (Unflushed.logged _ ?_).not_startsFlush
      change Text.ofString "Write rejected, too many pending writes" ≠ _
      decide
    | buffered isOpen below quiet => exact absurd started Unflushed.silent.not_startsFlush
    | triggered isOpen below reason fired =>
      obtain ⟨rfl, rfl⟩ := StartsFlush.flush (orderly.accepts_more request isOpen) started
      exact ⟨threshold_of_fired tracks fired, _, rfl,
        drains_flush (orderly.accepts_more request isOpen) _⟩
  | flush reason =>
    obtain ⟨rfl, _⟩ := StartsFlush.flush orderly.accepts started
    exact absurd rfl (unasked _)
  | poll =>
    change StartsFlush _ _ _ s.dispatcher.poll.2.2.journal at started
    by_cases due : IsDue s.dispatcher
    · obtain ⟨triggers, polled⟩ := poll_due tracks due
      rw [polled] at started
      obtain ⟨different, _⟩ :=
        StartsFlush.flush (d := { s.dispatcher with triggers }) orderly.accepts started
      cases different
    · rw [poll_early tracks due] at started
      exact absurd started Unflushed.silent.not_startsFlush
  | close =>
    change StartsFlush _ _ _ s.dispatcher.beginClose.2.2.journal at started
    unfold Dispatcher.beginClose at started
    split at started
    · exact absurd started Unflushed.silent.not_startsFlush
    · next isOpen =>
      obtain ⟨different, _⟩ := StartsFlush.flush (d := { s.dispatcher with isClosed := true })
        (fun shut => absurd (orderly.closed shut) isOpen) started
      cases different
  | queue submission filter split =>
    change StartsFlush _ _ _ (s.dispatcher.queueRead submission filter).2.journal at started
    unfold Dispatcher.queueRead at started
    split at started <;> exact absurd started Unflushed.silent.not_startsFlush
  | call task attempt further split =>
    exact absurd started (unflushed_call task attempt further _).not_startsFlush
  | settle task outcome split =>
    exact absurd started (unflushed_settle task outcome).not_startsFlush
  | notify task notice rest split => exact absurd started (unflushed_deliver notice).not_startsFlush
  | deliver notice split => exact absurd started (unflushed_deliver notice).not_startsFlush
  | finish waits queue workers =>
    exact absurd started (Unflushed.logged _ (by decide)).not_startsFlush
  | release task split =>
    obtain ⟨inFlight, released⟩ := s.dispatcher.release_eq task
    rw [released] at started
    exact absurd started Unflushed.silent.not_startsFlush
  | letIn | turnAway | expire | drain | watch | group | advance | take =>
    exact absurd started Unflushed.silent.not_startsFlush

/-- The time of the last flush changes only with a flush, to the time it is. -/
theorem Step.lastFlush (step : Step backend s event t) (orderly : s.Orderly) :
    t.dispatcher.triggers.lastFlush = s.dispatcher.triggers.lastFlush ∨
      t.dispatcher.buffer.entries = [] ∧
        t.dispatcher.triggers.lastFlush = s.dispatcher.clock.now := by
  have changes := step.changes orderly
  generalize t.dispatcher = d' at changes
  cases changes with
  | triggered | flushed | polled | closed => exact .inr ⟨rfl, rfl⟩
  | released task =>
    obtain ⟨inFlight, released⟩ := s.dispatcher.release_eq task
    rw [released]
    exact .inl rfl
  | silent | buffered | evaluated | again | shutDown | queued | took => exact .inl rfl

/-- What is seen of the submission of a write is its answer. -/
theorem Step.submitted {request : Request} {answer : Except Error DeferredId}
    (step : Step backend s (.submitted request answer) t) :
    (s.dispatcher.enqueue request).1 = answer ∧
      t.dispatcher = (s.dispatcher.enqueue request).2.2 := by
  cases step
  exact ⟨rfl, rfl⟩

/-- What is seen of a poll is its answer. -/
theorem Step.polled {answer : Except Error (Option FlushReason)}
    (step : Step backend s (.polled answer) t) :
    s.dispatcher.poll.1 = answer ∧ t.dispatcher = s.dispatcher.poll.2.2 := by
  cases step
  exact ⟨rfl, rfl⟩

/-! ## In step -/

/-- How the triggers and the buffer go together in a state and in the steps from it. -/
structure InStep (settings : Settings) (backend : Backend σ) (s : Pipeline β σ) : Prop where
  /-- The count of the triggers is exact. -/
  counted : s.dispatcher.triggers.buffered = s.dispatcher.buffer.size
  /-- Less is buffered than the threshold. -/
  below : ∀ threshold, settings.buffer.flushThreshold = some threshold →
    (s.dispatcher.buffer.size : Int) < threshold
  /-- The time of the last flush is the time a flush last drained the buffer at. -/
  timed : ∀ {event : Event} {t : Pipeline β σ}, Step backend s event t →
    t.dispatcher.triggers.lastFlush = s.dispatcher.triggers.lastFlush ∨
      t.dispatcher.buffer.entries = [] ∧
        t.dispatcher.triggers.lastFlush = s.dispatcher.clock.now
  /-- An accepted write leaves nothing behind that is due. -/
  accepted : ∀ {request : Request} {id : DeferredId} {t : Pipeline β σ},
    Step backend s (.submitted request (.ok id)) t → Punctual t.dispatcher
  /-- A poll leaves nothing behind that is due. -/
  polled : ∀ {answer : Except Error (Option FlushReason)} {t : Pipeline β σ},
    Step backend s (.polled answer) t → Punctual t.dispatcher
  /-- A poll does nothing before anything is due, and drains the buffer for the interval after. -/
  found : ∀ {answer : Except Error (Option FlushReason)} {t : Pipeline β σ},
    Step backend s (.polled answer) t →
      ¬ IsDue s.dispatcher ∧ answer = .ok none ∧
          t.dispatcher.buffer = s.dispatcher.buffer ∧ t.dispatcher.queue = s.dispatcher.queue ∨
        IsDue s.dispatcher ∧ answer = .ok (some .interval) ∧
          Drains s.dispatcher.buffer.entries s.dispatcher t.dispatcher
  /-- What is reported as a flush for the size drains as many writes as the threshold says, unless
  a client asked for a flush under that name. -/
  sized : ∀ {event : Event} {t : Pipeline β σ} {batch : Nat}, Step backend s event t →
    StartsFlush .size batch s.dispatcher.journal t.dispatcher.journal →
    (∀ answer, event ≠ .flushed .size answer) →
      settings.buffer.flushThreshold = some (batch : Int) ∧
        ∃ writes, writes.length = batch ∧ Drains writes s.dispatcher t.dispatcher

variable {settings : Settings} {clock : Clock} {store : σ} {trace : List Event}

/-- A poll does what is due, and nothing before. -/
theorem Step.poll_found {answer : Except Error (Option FlushReason)}
    (step : Step backend s (.polled answer) t) (orderly : s.Orderly)
    (tracks : Tracks s.dispatcher) :
    ¬ IsDue s.dispatcher ∧ answer = .ok none ∧ t.dispatcher.buffer = s.dispatcher.buffer ∧
        t.dispatcher.queue = s.dispatcher.queue ∧ Punctual t.dispatcher ∨
      IsDue s.dispatcher ∧ answer = .ok (some .interval) ∧
        Drains s.dispatcher.buffer.entries s.dispatcher t.dispatcher := by
  obtain ⟨answered, reached⟩ := step.polled
  by_cases due : IsDue s.dispatcher
  · obtain ⟨triggers, polled⟩ := poll_due tracks due
    have drains := drains_flush (d := { s.dispatcher with triggers }) orderly.accepts .interval
    obtain ⟨journal, flushed⟩ :=
      Dispatcher.flush_eq .interval { s.dispatcher with triggers } orderly.accepts
    rw [polled] at answered reached
    rw [flushed] at answered
    rw [reached]
    exact .inr ⟨due, answered.symm, drains⟩
  · rw [poll_early tracks due] at answered reached
    rw [reached]
    exact .inl ⟨due, answered.symm, rfl, rfl, punctual_of_not_due due⟩

/-- In every state the triggers are in step with the buffer. -/
theorem Run.inStep (run : Run backend (start settings clock store) trace s)
    (valid : settings.buffer.Valid) : s.InStep settings backend := by
  obtain ⟨_, orderly⟩ := run.owned
  have pressed := run.backpressed valid
  have tracks := pressed.tracks
  refine ⟨tracks.counted, ?_, fun step => step.lastFlush orderly, ?_, ?_, ?_, ?_⟩
  · intro threshold on
    have below := tracks.below
    rw [pressed.same] at below
    exact Triggers.reached_eq_false.mp below threshold on
  · intro request id t step
    obtain ⟨answered, reached⟩ := step.submitted
    rw [reached]
    exact punctual_submit orderly tracks answered
  · intro answer t step
    rcases step.poll_found orderly tracks with ⟨_, _, _, _, punctual⟩ | ⟨_, _, empty, _⟩
    · exact punctual
    · exact .inl empty
  · intro answer t step
    rcases step.poll_found orderly tracks with ⟨early, answered, same, still, _⟩ | due
    · exact .inl ⟨early, answered, same, still⟩
    · exact .inr due
  · intro event t batch step started unasked
    have drained := step.drains_size orderly tracks started unasked
    rw [pressed.same] at drained
    exact drained

/-- Whatever settings were read, in every state the triggers count what is buffered, less is
buffered than the threshold, and neither an accepted write nor a poll leaves anything behind that is
due. A poll flushes exactly if something is due, and says that it is for the interval. A flush that
is reported to be for the size drains as many writes as the threshold says, unless a client asked
for a flush under that name. -/
theorem triggers_in_step {entries : Entries} (read : Settings.ofEntries entries = .ok settings)
    (run : Run backend (start settings clock store : Pipeline β σ) trace s) :
    s.InStep settings backend :=
  run.inStep (Settings.valid_of_entries read).1

/-- Two writes trigger a flush, and so do five seconds. -/
def timedEntries : Entries :=
  [("buffer", .mapping [("flush_threshold", .int 2), ("flush_interval_seconds", .int 5)])]

/-- The settings that these values describe. -/
def timed : Settings := { Settings.standard with buffer := ⟨some 2, some (.float 5.0), 10000⟩ }

/-- A put has waited for five seconds. -/
def waited : List Event × Pipeline Unit Unit :=
  played forgetful (start timed ⟨.int 0⟩ ()) [.submit (smallPut [97]), .advance (.int 5)]

/-- A poll now drains the put for the interval, and another put would drain both for the size. -/
theorem triggers_in_step_waited :
    Settings.ofEntries timedEntries = .ok timed ∧
      Run forgetful (start timed ⟨.int 0⟩ ()) waited.1 waited.2 ∧
      waited.2.InStep timed forgetful ∧ IsDue waited.2.dispatcher := by
  have read : Settings.ofEntries timedEntries = .ok timed := rfl
  have run : Run forgetful (start timed ⟨.int 0⟩ ()) waited.1 waited.2 := run_played rfl
  exact ⟨read, run, triggers_in_step read run, nofun, .float 5.0, rfl, rfl⟩

/-- A put is buffered. -/
def oneBuffered : List Event × Pipeline Unit Unit :=
  played forgetful (start crowded ⟨.int 0⟩ ()) [.submit (smallPut [97])]

/-- Under a threshold of two writes, a client who asks for a flush under the name of the size is
reported to flush for the size, and drains one write. -/
theorem size_reported_of_one :
    Settings.ofEntries crowdedEntries = .ok crowded ∧
      crowded.buffer.flushThreshold = some 2 ∧
      ∃ trace s t, Run forgetful (start crowded ⟨.int 0⟩ () : Pipeline Unit Unit) trace s ∧
        Step forgetful s (.flushed .size (.ok 1)) t ∧
        StartsFlush .size 1 s.dispatcher.journal t.dispatcher.journal :=
  ⟨rfl, rfl, oneBuffered.1, oneBuffered.2, _, run_played rfl, .flush .size, 0, .int 0, rfl⟩

end Pipeline
end WideColumn
