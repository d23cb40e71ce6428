import WideColumn.Proofs.Pipeline.Pending
import WideColumn.Proofs.Pipeline.Rest
import WideColumn.Proofs.Settings.Valid

/-!
# Backpressure

A write is refused when as many are pending as the settings allow, so there are never more. With a
flush threshold the buffer alone cannot be what is full: whenever nobody is in the middle of
anything, less is buffered than the threshold, and the threshold is within the bound. What keeps a
client from writing is therefore with the pool, and it goes away without another flush.
-/
namespace WideColumn

/-- An evaluation that finds no reason to flush has not seen the threshold reached. -/
theorem Triggers.sizeFired_of_quiet {triggers : Triggers Number} {bounds : TriggerBounds Number}
    {now : Number} (quiet : triggers.reason bounds now = none) : triggers.sizeFired = none := by
  unfold Triggers.reason at quiet
  split at quiet
  · assumption
  · cases quiet
  · cases quiet
  · cases quiet

/-- The threshold is not reached exactly if it is off or greater than the count. -/
theorem Triggers.reached_eq_false {bounds : TriggerBounds Number} {buffered : Nat} :
    Triggers.reached bounds buffered = false ↔
      ∀ threshold, bounds.threshold = some threshold → (buffered : Int) < threshold := by
  unfold Triggers.reached
  cases bounds.threshold with
  | none => simp
  | some threshold => simp

namespace Pipeline

variable {β σ : Type} {accepted released : List Ticket} {s t : Pipeline β σ}
  {backend : Backend σ} {event : Event} {d d' : Dispatcher β}

/-! ## The buffer stays below the threshold -/

/-- The triggers count what is buffered, and that is below the threshold. -/
structure Tracks (d : Dispatcher β) : Prop where
  /-- The count is exact. -/
  counted : d.triggers.buffered = d.buffer.size
  /-- The threshold has not been seen reached. -/
  unfired : d.triggers.sizeFired = none
  /-- The threshold is not reached. -/
  below : Triggers.reached d.settings.buffer.bounds d.buffer.size = false

/-- Nothing buffered is below a valid threshold. -/
theorem not_reached_zero {settings : BufferSettings} (valid : settings.Valid) :
    Triggers.reached settings.bounds 0 = false :=
  Triggers.reached_eq_false.mpr valid.positive

/-- After a flush nothing is buffered. -/
theorem Tracks.flushed (valid : d.settings.buffer.Valid) (reason : FlushReason)
    (journal : List Log.Event) : Tracks (d.flushed reason journal) :=
  ⟨rfl, rfl, not_reached_zero valid⟩

/-- A write that triggers no flush leaves the buffer below the threshold. -/
theorem Tracks.accept (tracks : Tracks d) {request : Request}
    (quiet : (d.accept request).2.triggers.found = none) : Tracks (d.accept request).2 := by
  have counted : (d.accept request).2.triggers.buffered = (d.accept request).2.buffer.size := by
    show d.triggers.buffered + 1 = (d.buffer.push _).size
    rw [WriteBuffer.size_push, tracks.counted]
  have none_found : (d.triggers.accept d.settings.buffer.bounds d.clock.now).reason
      d.settings.buffer.bounds d.clock.now = none := quiet
  have unfired : (d.accept request).2.triggers.sizeFired = none :=
    Triggers.sizeFired_of_quiet none_found
  refine ⟨counted, unfired, ?_⟩
  rw [← counted]
  -- The threshold would have fired with the write that reached it.
  have fired : d.triggers.sizeFired.or
      (if Triggers.reached d.settings.buffer.bounds (d.triggers.buffered + 1) then
        some d.clock.now else none) = none := unfired
  rw [tracks.unfired, Option.none_or] at fired
  cases reached : Triggers.reached d.settings.buffer.bounds (d.triggers.buffered + 1) with
  | false => exact reached
  | true =>
    rw [reached] at fired
    cases fired

/-- Every step keeps the buffer below the threshold. -/
theorem Changes.tracks (changes : Changes d event d') (valid : d.settings.buffer.Valid)
    (tracks : Tracks d) : Tracks d' := by
  cases changes with
  | buffered request isOpen below quiet => exact tracks.accept quiet
  | triggered request isOpen below reason journal =>
    exact Tracks.flushed (d := (d.accept request).2) valid reason journal
  | flushed reason journal => exact .flushed valid reason journal
  | polled reason journal => exact .flushed valid reason journal
  | closed isOpen journal =>
    exact Tracks.flushed (d := { d with isClosed := true }) valid .shutdown journal
  | released task =>
    obtain ⟨inFlight, released⟩ := d.release_eq task
    rw [released]
    exact ⟨tracks.counted, tracks.unfired, tracks.below⟩
  | silent | evaluated | again | shutDown | queued | took =>
    exact ⟨tracks.counted, tracks.unfired, tracks.below⟩

/-! ## Never more than allowed -/

/-- A flush changes nothing about how many writes are pending. -/
theorem pendingWrites_flushed (d : Dispatcher β) (reason : FlushReason)
    (journal : List Log.Event) : (d.flushed reason journal).pendingWrites = d.pendingWrites := by
  show 0 + (d.inFlight ++ d.buffer.entries.map (·.deferred)).length =
    d.buffer.entries.length + d.inFlight.length
  rw [List.length_append, List.length_map]
  omega

/-- A write that is accepted is one more that is pending. -/
theorem pendingWrites_accept (d : Dispatcher β) (request : Request) :
    (d.accept request).2.pendingWrites = d.pendingWrites + 1 := by
  show (d.buffer.push _).size + d.inFlight.length = d.buffer.size + d.inFlight.length + 1
  rw [WriteBuffer.size_push]
  omega

/-- A release never makes more writes pending. -/
theorem pendingWrites_release (d : Dispatcher β) (task : Task) :
    (d.release task).pendingWrites ≤ d.pendingWrites := by
  unfold Dispatcher.release
  split
  · exact Nat.add_le_add_left (List.length_erase_le ..) _
  · exact Nat.le_refl _

/-- No step makes more writes pending than allowed. -/
theorem Changes.bounded (changes : Changes d event d')
    (bounded : (d.pendingWrites : Int) ≤ d.settings.buffer.maxPendingWrites) :
    (d'.pendingWrites : Int) ≤ d.settings.buffer.maxPendingWrites := by
  cases changes with
  | buffered request isOpen below quiet =>
    rw [pendingWrites_accept]
    omega
  | triggered request isOpen below reason journal =>
    rw [pendingWrites_flushed, pendingWrites_accept]
    omega
  | flushed reason journal =>
    rw [pendingWrites_flushed]
    exact bounded
  | polled reason journal =>
    rw [pendingWrites_flushed]
    exact bounded
  | closed isOpen journal =>
    rw [pendingWrites_flushed]
    exact bounded
  | released task =>
    have fewer := pendingWrites_release d task
    omega
  | silent | evaluated | again | shutDown | queued | took => exact bounded

/-! ## After any run -/

variable {settings : Settings} {clock : Clock} {store : σ} {trace : List Event}

/-- What valid settings on buffering keep in every state. -/
structure Backpressed (settings : Settings) (s : Pipeline β σ) : Prop where
  /-- The settings are those of the start. -/
  same : s.dispatcher.settings = settings
  /-- The buffer is below the threshold. -/
  tracks : Tracks s.dispatcher
  /-- No more writes are pending than allowed. -/
  bounded : (s.dispatcher.pendingWrites : Int) ≤ settings.buffer.maxPendingWrites

/-- Under valid settings no more writes are pending than allowed, and the buffer stays below the
threshold. -/
theorem Run.backpressed (run : Run backend (start settings clock store) trace s)
    (valid : settings.buffer.Valid) : s.Backpressed settings := by
  induction run with
  | nil =>
    exact ⟨rfl, ⟨rfl, rfl, not_reached_zero valid⟩, Int.le_of_lt valid.capacity⟩
  | @snoc trace u v event earlier step ih =>
    have changes := step.changes earlier.owned.2
    have same : u.dispatcher.settings = settings := ih.same
    refine ⟨changes.settings.trans same, changes.tracks (same ▸ valid) ih.tracks, ?_⟩
    have before : (u.dispatcher.pendingWrites : Int) ≤
        u.dispatcher.settings.buffer.maxPendingWrites := by
      rw [same]
      exact ih.bounded
    have next := changes.bounded before
    rw [same] at next
    exact next

/-- With a threshold there is room in the buffer alone. -/
theorem Backpressed.buffer_lt (pressed : s.Backpressed settings) (valid : settings.buffer.Valid)
    (threshold : settings.buffer.flushThreshold.isSome = true) :
    (s.dispatcher.buffer.size : Int) < settings.buffer.maxPendingWrites := by
  obtain ⟨bound, found⟩ := Option.isSome_iff_exists.mp threshold
  have below := pressed.tracks.below
  rw [pressed.same] at below
  exact Int.lt_of_lt_of_le (Triggers.reached_eq_false.mp below bound found)
    (valid.reachable bound found)

/-- A pool at rest has nothing in flight. -/
theorem Owned.inFlight_nil (owned : s.Owned accepted released) (rest : s.IsAtRest) :
    s.dispatcher.inFlight = [] := by
  have same := owned.custody.inFlight
  rw [holdings_writes] at same
  unfold executing queued at same
  rw [rest.1, rest.2] at same
  exact List.perm_nil.mp same

/-- Whether every write that is submitted is accepted. -/
def AcceptsWrites (s : Pipeline β σ) : Prop :=
  ∀ request : Request, (s.dispatcher.enqueue request).1 = .ok s.deferreds.size

/-- With a threshold an open dispatcher whose pool is at rest accepts every write. -/
theorem Run.acceptsWrites (run : Run backend (start settings clock store) trace s)
    (valid : settings.buffer.Valid) (threshold : settings.buffer.flushThreshold.isSome = true)
    (isOpen : s.dispatcher.isClosed = false) (rest : s.IsAtRest) : s.AcceptsWrites := by
  obtain ⟨owned, orderly⟩ := run.owned
  have pressed := run.backpressed valid
  intro request
  apply orderly.enqueue_ok request isOpen
  have room := pressed.buffer_lt valid threshold
  unfold Dispatcher.pendingWrites
  rw [owned.inFlight_nil rest, pressed.same]
  exact room

/-- With a threshold a write is refused for want of room only while the pool has a write. -/
theorem Run.exists_dispatched (run : Run backend (start settings clock store) trace s)
    (valid : settings.buffer.Valid) (threshold : settings.buffer.flushThreshold.isSome = true)
    {request : Request} {pending : Nat} {capacity : Int}
    (refused : Step backend s (.submitted request (.error (.bufferFull pending capacity))) t) :
    ∃ write ∈ Pipeline.accepted trace, write ∉ Pipeline.released trace ∧
      (write ∈ s.queued ∨ write ∈ s.executing) := by
  obtain ⟨owned, orderly⟩ := run.owned
  have pressed := run.backpressed valid
  obtain ⟨rfl, bound, reached⟩ := refused.refused_full orderly
  have room := pressed.buffer_lt valid threshold
  have waiting : s.dispatcher.buffer.size = s.buffered.length := (List.length_map ..).symm
  rw [pressed.same] at bound
  rw [owned.pendingWrites_eq] at reached
  have some_held : 0 < (s.executing ++ s.queued).length := by
    rw [List.length_append]
    omega
  obtain ⟨write, held⟩ := List.exists_mem_of_length_pos some_held
  have listed : write ∈ Pipeline.accepted trace := by
    rw [owned.custody.mem_iff, holdings_writes]
    exact .inr (.inl held)
  refine ⟨write, listed, ?_, (List.mem_append.mp held).symm⟩
  intro gone
  have total := owned.occurrences listed
  have here := occurrences_pos held
  have there := occurrences_pos gone
  rw [occurrences_append] at here
  omega

/-- How a client can write again that nobody flushes for. -/
structure Recovers (backend : Backend σ) (s : Pipeline β σ) : Prop where
  /-- Workers and callbacks come to rest. -/
  dry : s.RunsDry backend
  /-- Whenever they have, every write is accepted. -/
  ready : ∀ {later : List Event} {t : Pipeline β σ}, Run backend s later t → Alone later →
    t.IsAtRest → t.AcceptsWrites
  /-- They can. -/
  possible : ∃ later t, Run backend s later t ∧ Alone later ∧ t.IsAtRest ∧ t.AcceptsWrites

/-- With a threshold an open dispatcher recovers. -/
theorem Run.recovers (run : Run backend (start settings clock store) trace s)
    (valid : settings.buffer.Valid) (workers : 0 < settings.concurrency.maxWorkers)
    (threshold : settings.buffer.flushThreshold.isSome = true)
    (isOpen : s.dispatcher.isClosed = false) : s.Recovers backend := by
  obtain ⟨_, orderly⟩ := run.owned
  rw [← (run.backpressed valid).same] at workers
  have ready {later : List Event} {t : Pipeline β σ} (onward : Run backend s later t)
      (alone : Alone later) (rest : t.IsAtRest) : t.AcceptsWrites := by
    have still := (onward.alone orderly alone).2.trans isOpen
    exact (run.append onward).acceptsWrites valid threshold still rest
  obtain ⟨later, t, onward, alone, rest⟩ := orderly.exists_rest backend workers
  exact ⟨orderly.runsDry workers, ready, later, t, onward, alone, rest, ready onward alone rest⟩

/-- Whatever settings were read, no more writes are ever pending than these allow. With a flush
threshold a write is refused for want of room only while a write that was handed to the pool has not
been released, and an open dispatcher recovers without a flush: workers and callbacks come to rest,
and then every write is accepted. -/
theorem backpressure_bounded {entries : Entries} (read : Settings.ofEntries entries = .ok settings)
    (run : Run backend (start settings clock store : Pipeline β σ) trace s) :
    (s.dispatcher.pendingWrites : Int) ≤ settings.buffer.maxPendingWrites ∧
      (settings.buffer.flushThreshold.isSome = true →
        (∀ {request : Request} {pending : Nat} {capacity : Int} {t : Pipeline β σ},
          Step backend s (.submitted request (.error (.bufferFull pending capacity))) t →
            ∃ write ∈ Pipeline.accepted trace, write ∉ Pipeline.released trace ∧
              (write ∈ s.queued ∨ write ∈ s.executing)) ∧
        (s.dispatcher.isClosed = false → s.Recovers backend)) := by
  obtain ⟨valid, workers⟩ := Settings.valid_of_entries read
  refine ⟨(run.backpressed valid).bounded, fun threshold => ⟨?_, ?_⟩⟩
  · intro request pending capacity t refused
    exact run.exists_dispatched valid threshold refused
  · intro isOpen
    exact run.recovers valid workers threshold isOpen

/-- Two writes trigger a flush, and two may be pending. -/
def crowdedEntries : Entries :=
  [("buffer", .mapping [("flush_threshold", .int 2), ("flush_interval_seconds", .none),
    ("max_pending_writes", .int 2)])]

/-- The settings that these values describe. -/
def crowded : Settings := { Settings.standard with buffer := ⟨some 2, none, 2⟩ }

/-- The second of two puts triggered a flush, and a worker is busy with the first. -/
def crowdedRun : List Event × Pipeline Unit Unit :=
  played forgetful (start crowded ⟨.int 0⟩ ())
    [.submit (smallPut [97]), .submit (smallPut [98]), .take 0]

/-- While both are with the pool a third put is refused, and the client can wait for room. -/
theorem backpressure_bounded_crowded :
    Settings.ofEntries crowdedEntries = .ok crowded ∧
      Run forgetful (start crowded ⟨.int 0⟩ ()) crowdedRun.1 crowdedRun.2 ∧
      crowded.buffer.flushThreshold.isSome = true ∧
      Step forgetful crowdedRun.2 (.submitted (smallPut [99]) (.error (.bufferFull 2 2)))
        (crowdedRun.2.after (crowdedRun.2.dispatcher.enqueue (smallPut [99])).2) ∧
      (∃ write ∈ Pipeline.accepted crowdedRun.1, write ∉ Pipeline.released crowdedRun.1 ∧
        (write ∈ crowdedRun.2.queued ∨ write ∈ crowdedRun.2.executing)) ∧
      crowdedRun.2.dispatcher.isClosed = false ∧ crowdedRun.2.Recovers forgetful := by
  have read : Settings.ofEntries crowdedEntries = .ok crowded := rfl
  have run : Run forgetful (start crowded ⟨.int 0⟩ ()) crowdedRun.1 crowdedRun.2 := run_played rfl
  have refused : Step forgetful crowdedRun.2
      (.submitted (smallPut [99]) (.error (.bufferFull 2 2)))
      (crowdedRun.2.after (crowdedRun.2.dispatcher.enqueue (smallPut [99])).2) :=
    .submit (smallPut [99]) rfl
  obtain ⟨_, pressed⟩ := backpressure_bounded read run
  obtain ⟨dispatched, recovers⟩ := pressed rfl
  exact ⟨read, run, rfl, refused, dispatched refused, rfl, recovers rfl⟩

end Pipeline
end WideColumn
