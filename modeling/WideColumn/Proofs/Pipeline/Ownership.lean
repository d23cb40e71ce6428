import WideColumn.Proofs.Pipeline.Custody

/-!
# What holds in every state of a pipeline

Barriers count exactly, each accepted write is held by one, and the table backs this up: what waits
is pending, what was settled or released is terminal. `Owned` puts these together, and every step
keeps it. Closing adds that nothing is buffered once it has begun, so that a flush never finds the
pool shut down with something to hand over.
-/
namespace WideColumn

variable {β σ : Type}

/-! ## What single operations do -/

namespace Deferreds

/-- A callback that is due at once tells the truth. -/
theorem truthful_register (table : Deferreds β) (id : DeferredId) (callback : Callback β) :
    (table.register id callback).1.Truthful (table.register id callback).2 := by
  cases done : table.outcome? id with
  | none =>
    rw [register_pending done]
    exact fun _ present => nomatch present
  | some outcome =>
    rw [register_done done]
    intro notice present
    obtain rfl := List.mem_singleton.mp present
    exact done

end Deferreds

namespace Dispatcher

/-- The first completion of a task takes effect. -/
theorem settle_eq {dispatcher : Dispatcher β} {task : Task} (outcome : Outcome)
    (known : task.deferred < dispatcher.deferreds.size)
    (pending : dispatcher.deferreds.outcome? task.deferred = none) :
    ∃ journal, dispatcher.settle task outcome =
      (Deferreds.notices task.deferred outcome (dispatcher.deferreds.callbacksOf task.deferred),
        { dispatcher with
          deferreds := dispatcher.deferreds.completed task.deferred outcome
          journal }) := by
  unfold settle
  cases outcome with
  | ok result =>
    simp only [Deferreds.complete_eq known pending]
    exact ⟨_, rfl⟩
  | error error =>
    simp only [log, Deferreds.complete_eq known pending]
    exact ⟨_, rfl⟩

/-- A completion changes the table and may be logged, whether it takes effect or not. Nothing else
is completed. -/
theorem settle_frame (task : Task) (outcome : Outcome) (dispatcher : Dispatcher β) :
    ∃ deferreds journal,
      (dispatcher.settle task outcome).2 = { dispatcher with deferreds, journal } ∧
      Deferreds.Evolves (some task.deferred) dispatcher.deferreds deferreds := by
  cases done : dispatcher.deferreds.outcome? task.deferred with
  | some old =>
    obtain ⟨error, refused⟩ :
        ∃ error, dispatcher.deferreds.complete task.deferred outcome = .error error :=
      Deferreds.complete_error done
    refine ⟨dispatcher.deferreds, (dispatcher.settle task outcome).2.journal, ?_, .refl _ _⟩
    unfold settle
    cases outcome with
    | ok result => simp only [refused]
    | error error => simp only [log, refused]
  | none =>
    by_cases known : task.deferred < dispatcher.deferreds.size
    · obtain ⟨journal, settled⟩ := settle_eq outcome known done
      rw [settled]
      exact ⟨_, journal, rfl, Deferreds.evolves_completed dispatcher.deferreds done outcome⟩
    · have unknown : dispatcher.deferreds.complete task.deferred outcome =
          .ok (dispatcher.deferreds, []) := by
        unfold Deferreds.complete
        rw [Deferreds.get?_eq_none (Nat.le_of_not_lt known)]
      refine ⟨dispatcher.deferreds, (dispatcher.settle task outcome).2.journal, ?_, .refl _ _⟩
      unfold settle
      cases outcome with
      | ok result => simp only [unknown]
      | error error => simp only [log, unknown]

/-- A callback changes the table and may be logged. -/
theorem deliver_eq (notice : Notice β) (dispatcher : Dispatcher β) :
    ∃ journal, dispatcher.deliver notice =
      ((dispatcher.deferreds.deliver notice).2.1,
        { dispatcher with
          deferreds := (dispatcher.deferreds.deliver notice).1
          journal }) := by
  unfold deliver
  cases effect : (dispatcher.deferreds.deliver notice).2.2 with
  | none | client | flushed | refused =>
    simp only [effect, log]
    exact ⟨_, rfl⟩

/-- Putting an event on record changes the journal only. -/
theorem logAny_eq (event : Option Log.Event) (dispatcher : Dispatcher β) :
    ∃ journal, dispatcher.logAny event = { dispatcher with journal } := by
  cases event with
  | none => exact ⟨dispatcher.journal, rfl⟩
  | some event => exact ⟨event :: dispatcher.journal, rfl⟩

/-- A release changes only what is in flight. -/
theorem release_eq (task : Task) (dispatcher : Dispatcher β) :
    ∃ inFlight, dispatcher.release task = { dispatcher with inFlight } := by
  unfold release
  split
  · exact ⟨dispatcher.inFlight.erase task.deferred, rfl⟩
  · exact ⟨dispatcher.inFlight, rfl⟩

/-- The table of a flush, its barrier counted exactly. -/
theorem flushTable_sound {dispatcher : Dispatcher β} {due : List (Notice β)}
    (sound : dispatcher.deferreds.Sound due)
    (known : ∀ member ∈ dispatcher.flushMembers, member < dispatcher.deferreds.size)
    (reason : FlushReason) :
    (dispatcher.flushTable reason).1.Sound ((dispatcher.flushTable reason).2 ++ due) := by
  have grouped := (sound.group known dispatcher.settings.timeouts.flushTimeout).1
  unfold flushTable
  by_cases empty : dispatcher.buffer.entries.isEmpty = true
  · simp only [empty, ↓reduceIte]
    exact grouped
  · simp only [empty, Bool.false_eq_true, ↓reduceIte]
    exact grouped.register (Deferreds.size_lt_group ..) fun _ => rfl

/-- A flush changes no outcome but that of barriers. -/
theorem flushTable_evolves (dispatcher : Dispatcher β) (reason : FlushReason) :
    Deferreds.Evolves none dispatcher.deferreds (dispatcher.flushTable reason).1 := by
  have grouped := Deferreds.evolves_group dispatcher.deferreds dispatcher.flushMembers
    dispatcher.settings.timeouts.flushTimeout
  unfold flushTable
  by_cases empty : dispatcher.buffer.entries.isEmpty = true
  · simp only [empty, ↓reduceIte]
    exact grouped
  · simp only [empty, Bool.false_eq_true, ↓reduceIte]
    exact grouped.trans (Deferreds.evolves_register ..)

/-- What a flush makes due is true. -/
theorem flushTable_truthful (dispatcher : Dispatcher β) (reason : FlushReason) :
    (dispatcher.flushTable reason).1.Truthful (dispatcher.flushTable reason).2 := by
  unfold flushTable
  by_cases empty : dispatcher.buffer.entries.isEmpty = true
  · simp only [empty, ↓reduceIte]
    exact fun _ present => nomatch present
  · simp only [empty, Bool.false_eq_true, ↓reduceIte]
    exact Deferreds.truthful_register _ _ _

/-- The members of the barrier of a flush. -/
theorem members?_flushTable (dispatcher : Dispatcher β) (reason : FlushReason) :
    (dispatcher.flushTable reason).1.members? dispatcher.deferreds.size =
      some dispatcher.flushMembers := by
  have grouped := Deferreds.members?_group dispatcher.deferreds dispatcher.flushMembers
    dispatcher.settings.timeouts.flushTimeout
  unfold flushTable
  by_cases empty : dispatcher.buffer.entries.isEmpty = true
  · simp only [empty, ↓reduceIte]
    exact grouped
  · simp only [empty, Bool.false_eq_true, ↓reduceIte]
    rw [(Deferreds.evolves_register ..).members (Deferreds.size_lt_group ..)]
    exact grouped

end Dispatcher

namespace Worker

/-- An attempt leaves a worker with its task, unsettled and with no callbacks. -/
theorem afterAttempt_eq (task : Task) (attempt further : Nat) (outcome : Outcome) :
    (afterAttempt (β := β) task attempt further outcome).1.task = task ∧
      (afterAttempt (β := β) task attempt further outcome).1.isSettled = false ∧
      (afterAttempt (β := β) task attempt further outcome).1.due = [] := by
  unfold afterAttempt
  split <;> exact ⟨rfl, rfl, rfl⟩

end Worker

namespace Pipeline

/-- Who holds what in a state. -/
def holdings (pipeline : Pipeline β σ) : Holdings :=
  ⟨pipeline.workers.map fun worker => (worker.task, worker.isSettled),
    pipeline.dispatcher.queue, pipeline.dispatcher.buffer.entries,
    pipeline.dispatcher.inFlight⟩

@[simp] theorem holdings_tasks (pipeline : Pipeline β σ) :
    pipeline.holdings.tasks = pipeline.tasks := by
  simp [holdings, Holdings.tasks, tasks, Function.comp_def]

/-- What the pool holds: what workers are busy with, then what waits. -/
theorem holdings_writes (pipeline : Pipeline β σ) :
    pipeline.holdings.writes = pipeline.executing ++ pipeline.queued := by
  unfold Holdings.writes
  rw [holdings_tasks]
  unfold tasks executing queued
  rw [List.filterMap_append, List.filterMap_map]
  rfl

/-- The table of deferred results backs up who holds what. -/
structure Backed (accepted released : List Ticket) (holdings : Holdings)
    (table : Deferreds β) : Prop where
  /-- Requests have references of their own, which are no barriers. -/
  plain : ∀ {id}, id ∈ accepted.map Ticket.deferred ∨ id ∈ holdings.tasks.map Task.deferred →
    id < table.size ∧ table.members? id = none
  /-- What waits for a worker is pending. -/
  waits : ∀ {task}, task ∈ holdings.queue → table.outcome? task.deferred = none
  /-- What is buffered is pending. -/
  buffered : ∀ {write}, write ∈ holdings.buffer → table.outcome? write.deferred = none
  /-- What a worker has not settled is pending. -/
  busy : ∀ {task}, (task, false) ∈ holdings.workers → table.outcome? task.deferred = none
  /-- What a worker has settled is terminal. -/
  settled : ∀ {task}, (task, true) ∈ holdings.workers →
    ∃ outcome, table.outcome? task.deferred = some outcome
  /-- What is released is terminal. -/
  released : ∀ {ticket}, ticket ∈ released →
    ∃ outcome, table.outcome? ticket.deferred = some outcome

/-- What holds in every state: barriers count exactly, notices are true, each accepted write is held
by one, and the table backs this up. -/
structure Owned (accepted released : List Ticket) (s : Pipeline β σ) : Prop where
  /-- Barriers count exactly. -/
  sound : s.deferreds.Sound s.allDue
  /-- Notices tell outcomes. -/
  truthful : s.deferreds.Truthful s.allDue
  /-- Each accepted write is held by one. -/
  custody : s.holdings.Custody accepted released
  /-- The table backs this up. -/
  backed : Backed accepted released s.holdings s.deferreds
  /-- Admitted reads are reads. -/
  reads : ∀ read ∈ s.reads, read.1.write? = none

/-- Nothing is buffered once closing has begun, and the pool is not shut down before. -/
structure Orderly (s : Pipeline β σ) : Prop where
  /-- Closing takes what is buffered, and nothing comes after. -/
  drained : s.dispatcher.isClosed = true → s.dispatcher.buffer.entries = []
  /-- Only closing shuts the pool down. -/
  closed : s.dispatcher.isShutDown = true → s.dispatcher.isClosed = true
  /-- Closing is under way only if it has begun. -/
  begun : s.closing ≠ .idle → s.dispatcher.isClosed = true

/-- Whenever the pool is shut down, nothing is buffered. -/
theorem Orderly.accepts {s : Pipeline β σ} (orderly : s.Orderly)
    (shut : s.dispatcher.isShutDown = true) : s.dispatcher.buffer.entries = [] :=
  orderly.drained (orderly.closed shut)

/-- An open dispatcher that has accepted a write can flush, because its pool is not shut down. -/
theorem Orderly.accepts_more {s : Pipeline β σ} (orderly : s.Orderly) (request : Request)
    (isOpen : s.dispatcher.isClosed = false) :
    (s.dispatcher.accept request).2.isShutDown = true →
      (s.dispatcher.accept request).2.buffer.entries = [] := by
  intro shut
  have isClosed := orderly.closed shut
  rw [isOpen] at isClosed
  cases isClosed

/-! ## Keeping it -/

namespace Backed

variable {accepted released : List Ticket} {holdings : Holdings} {a b : Deferreds β}

/-- A buffered write has a reference of its own, which is no barrier. -/
theorem plain_buffered (backed : Backed accepted released holdings a)
    (custody : holdings.Custody accepted released) {write : BufferedWrite}
    (held : write ∈ holdings.buffer) :
    write.deferred < a.size ∧ a.members? write.deferred = none := by
  apply backed.plain
  left
  have listed : write.ticket ∈ accepted :=
    (custody.mem_iff _).mpr (.inr (.inr (List.mem_map_of_mem held)))
  exact List.mem_map_of_mem (f := Ticket.deferred) listed

/-- Whatever happens to barriers, the table still backs up who holds what. -/
theorem evolves (backed : Backed accepted released holdings a)
    (custody : holdings.Custody accepted released) (evolution : Deferreds.Evolves none a b) :
    Backed accepted released holdings b := by
  have stays {id : DeferredId} (free : id < a.size ∧ a.members? id = none) :
      b.outcome? id = a.outcome? id := evolution.plain free.1 free.2 (by simp)
  refine ⟨?_, ?_, ?_, ?_, ?_, ?_⟩
  · intro id owned
    obtain ⟨known, free⟩ := backed.plain owned
    exact ⟨Nat.lt_of_lt_of_le known evolution.size_le, by rw [evolution.members known, free]⟩
  · intro task held
    have owned : task ∈ holdings.tasks := List.mem_append_right _ held
    rw [stays (backed.plain (.inr (List.mem_map_of_mem owned))), backed.waits held]
  · intro write held
    rw [stays (backed.plain_buffered custody held), backed.buffered held]
  · intro task held
    have owned : task ∈ holdings.tasks :=
      List.mem_append_left _ (List.mem_map.mpr ⟨(task, false), held, rfl⟩)
    rw [stays (backed.plain (.inr (List.mem_map_of_mem owned))), backed.busy held]
  · intro task held
    obtain ⟨outcome, done⟩ := backed.settled held
    exact ⟨outcome, evolution.outcome done⟩
  · intro ticket listed
    obtain ⟨outcome, done⟩ := backed.released listed
    exact ⟨outcome, evolution.outcome done⟩

/-- A task that a worker holds has a reference of its own, which is known. -/
theorem task_known (backed : Backed accepted released holdings a) {task : Task}
    (held : task ∈ holdings.tasks) : task.deferred < a.size ∧ a.members? task.deferred = none :=
  backed.plain (.inr (List.mem_map_of_mem held))

/-- A read is queued, and its deferred result is pending and no barrier. -/
theorem queueRead (backed : Backed accepted released holdings a) {task : Task}
    (known : task.deferred < a.size) (single : a.members? task.deferred = none)
    (pending : a.outcome? task.deferred = none) :
    Backed accepted released { holdings with queue := holdings.queue ++ [task] } a := by
  refine ⟨?_, ?_, backed.buffered, backed.busy, backed.settled, backed.released⟩
  · rintro id (older | listed)
    · exact backed.plain (.inl older)
    · obtain ⟨other, held, rfl⟩ := List.mem_map.mp listed
      rcases List.mem_append.mp held with busy | waits
      · exact backed.task_known (List.mem_append_left _ busy)
      · rcases List.mem_append.mp waits with older | new
        · exact backed.task_known (List.mem_append_right _ older)
        · obtain rfl := List.mem_singleton.mp new
          exact ⟨known, single⟩
  · intro other held
    rcases List.mem_append.mp held with older | new
    · exact backed.waits older
    · obtain rfl := List.mem_singleton.mp new
      exact pending

/-- A worker takes a task of the queue. -/
theorem take (backed : Backed accepted released holdings a) {before after : List Task}
    {task : Task} (split : holdings.queue = before ++ task :: after) :
    Backed accepted released
      { holdings with
        workers := holdings.workers ++ [(task, false)]
        queue := before ++ after } a := by
  have listed : task ∈ holdings.queue := split ▸ List.mem_append_cons_self
  have stays {other : Task} (held : other ∈ before ++ after) : other ∈ holdings.queue :=
    Holdings.mem_of_split split held
  refine ⟨?_, fun held => backed.waits (stays held), backed.buffered, ?_, ?_, backed.released⟩
  · rintro id (older | moved)
    · exact backed.plain (.inl older)
    · obtain ⟨other, held, rfl⟩ := List.mem_map.mp moved
      apply backed.task_known
      simp only [Holdings.tasks, List.map_append, List.map_cons, List.map_nil, List.mem_append,
        List.mem_singleton] at held ⊢
      rcases held with (busy | rfl) | waiting
      · exact .inl busy
      · exact .inr listed
      · exact .inr (stays (List.mem_append.mpr waiting))
  · intro other held
    rcases List.mem_append.mp held with older | new
    · exact backed.busy older
    · obtain ⟨rfl, _⟩ := Prod.mk.inj (List.mem_singleton.mp new)
      exact backed.waits listed
  · intro other held
    rcases List.mem_append.mp held with older | new
    · exact backed.settled older
    · cases List.mem_singleton.mp new

/-- A worker completes the deferred result of its task. -/
theorem settle (backed : Backed accepted released holdings a)
    (custody : holdings.Custody accepted released) {before after : List (Task × Bool)} {task : Task}
    (split : holdings.workers = before ++ (task, false) :: after) (outcome : Outcome) :
    Backed accepted released { holdings with workers := before ++ (task, true) :: after }
      (a.completed task.deferred outcome) := by
  have listed : (task, false) ∈ holdings.workers := split ▸ List.mem_append_cons_self
  have owns : task ∈ holdings.tasks :=
    List.mem_append_left _ (List.mem_map.mpr ⟨(task, false), listed, rfl⟩)
  have known := (backed.task_known owns).1
  have evolution := Deferreds.evolves_completed a (backed.busy listed) outcome
  have stays {other : DeferredId} (different : other ≠ task.deferred) :
      (a.completed task.deferred outcome).outcome? other = a.outcome? other :=
    Deferreds.outcome?_completed_ne a (Ne.symm different) outcome
  have sameTasks : ({ holdings with workers := before ++ (task, true) :: after } : Holdings).tasks =
      holdings.tasks := by
    simp [Holdings.tasks, split]
  -- Nobody else holds the task, so nobody else's outcome changes.
  have apart : ∀ other ∈ (before ++ after).map (·.1) ++ holdings.queue,
      other.deferred ≠ task.deferred := by
    have moved : holdings.tasks.Perm (task :: ((before ++ after).map (·.1) ++ holdings.queue)) := by
      simp only [Holdings.tasks, split, List.map_append, List.map_cons, List.append_assoc,
        List.cons_append]
      exact List.perm_middle
    have distinct := (List.nodup_append.mp custody.distinct).1
    have separate := (moved.map Task.deferred).nodup_iff.mp distinct
    rw [List.map_cons, List.nodup_cons] at separate
    intro other elsewhere same
    apply separate.1
    rw [← same]
    exact List.mem_map_of_mem elsewhere
  -- Any other worker was there before, with the same task.
  have elsewhere {entry : Task × Bool} (present : entry ∈ before ++ after) :
      entry ∈ holdings.workers ∧ entry.1.deferred ≠ task.deferred :=
    ⟨Holdings.mem_of_split split present,
      apart entry.1 (List.mem_append_left _ (List.mem_map_of_mem present))⟩
  refine ⟨?_, ?_, ?_, ?_, ?_, ?_⟩
  · intro id owned
    rw [sameTasks] at owned
    obtain ⟨inside, plain⟩ := backed.plain owned
    exact ⟨by rwa [Deferreds.size_completed], by rw [evolution.members inside, plain]⟩
  · intro other waits
    rw [stays (apart other (List.mem_append_right _ waits))]
    exact backed.waits waits
  · intro write buffered
    have different : write.deferred ≠ task.deferred := by
      intro equal
      have separate := (List.nodup_append.mp custody.distinct).2.2
      exact separate _ (List.mem_map_of_mem owns) _ (List.mem_map_of_mem buffered) equal.symm
    rw [stays different]
    exact backed.buffered buffered
  · intro other busy
    rcases List.mem_append.mp busy with left | right
    · obtain ⟨present, different⟩ := elsewhere (List.mem_append_left after left)
      rw [stays different]
      exact backed.busy present
    · rcases List.mem_cons.mp right with equal | right
      · cases equal
      · obtain ⟨present, different⟩ := elsewhere (List.mem_append_right before right)
        rw [stays different]
        exact backed.busy present
  · intro other told
    rcases List.mem_append.mp told with left | right
    · obtain ⟨old, was⟩ := backed.settled (elsewhere (List.mem_append_left after left)).1
      exact ⟨old, evolution.outcome was⟩
    · rcases List.mem_cons.mp right with equal | right
      · obtain ⟨rfl, _⟩ := Prod.mk.inj equal
        exact ⟨outcome, Deferreds.outcome?_completed_self known outcome⟩
      · obtain ⟨old, was⟩ := backed.settled (elsewhere (List.mem_append_right before right)).1
        exact ⟨old, evolution.outcome was⟩
  · intro ticket gone
    obtain ⟨old, was⟩ := backed.released gone
    exact ⟨old, evolution.outcome was⟩

/-- A worker releases its task. -/
theorem release (backed : Backed accepted released holdings a)
    {before after : List (Task × Bool)} {task : Task}
    (split : holdings.workers = before ++ (task, true) :: after) (inFlight : List DeferredId) :
    Backed accepted (released ++ task.ticket?.toList)
      { holdings with workers := before ++ after, inFlight } a := by
  have kept {entry : Task × Bool} (listed : entry ∈ before ++ after) :
      entry ∈ holdings.workers := Holdings.mem_of_split split listed
  have told : (task, true) ∈ holdings.workers := split ▸ List.mem_append_cons_self
  obtain ⟨outcome, done⟩ := backed.settled told
  refine ⟨?_, backed.waits, backed.buffered, fun busy => backed.busy (kept busy),
    fun told => backed.settled (kept told), ?_⟩
  · rintro id (older | listed)
    · exact backed.plain (.inl older)
    · obtain ⟨other, owns, rfl⟩ := List.mem_map.mp listed
      apply backed.task_known
      rcases List.mem_append.mp owns with busy | waits
      · obtain ⟨entry, present, rfl⟩ := List.mem_map.mp busy
        exact List.mem_append_left _ (List.mem_map_of_mem (kept present))
      · exact List.mem_append_right _ waits
  · intro ticket listed
    rcases List.mem_append.mp listed with older | new
    · exact backed.released older
    · have found : task.ticket? = some ticket := Option.mem_toList.mp new
      exact ⟨outcome, by rw [Task.deferred_of_ticket found, done]⟩

end Backed

namespace Owned

variable {accepted released : List Ticket} {s t : Pipeline β σ}

/-- A step that moves nothing and completes barriers at most. -/
theorem evolve (owned : s.Owned accepted released) (same : t.holdings = s.holdings)
    (reads : t.reads = s.reads) (evolution : Deferreds.Evolves none s.deferreds t.deferreds)
    (sound : t.deferreds.Sound t.allDue) (truthful : t.deferreds.Truthful t.allDue) :
    t.Owned accepted released :=
  ⟨sound, truthful, same ▸ owned.custody,
    same ▸ owned.backed.evolves owned.custody evolution, reads ▸ owned.reads⟩

/-- A step that changes neither the table nor what is due nor who holds what. -/
theorem idle (owned : s.Owned accepted released) (same : t.holdings = s.holdings)
    (reads : t.reads = s.reads) (table : t.deferreds = s.deferreds)
    (due : t.allDue = s.allDue) : t.Owned accepted released := by
  apply owned.evolve same reads
  · rw [table]
    exact .refl none _
  · rw [table, due]
    exact owned.sound
  · rw [table, due]
    exact owned.truthful

/-- References that have not been given out belong to nobody. -/
theorem fresh (owned : s.Owned accepted released) {id : DeferredId}
    (new : s.deferreds.size ≤ id) :
    id ∉ accepted.map Ticket.deferred ∧ id ∉ s.holdings.owners := by
  constructor
  · intro listed
    exact Nat.not_lt_of_le new (owned.backed.plain (.inl listed)).1
  · intro held
    rcases List.mem_append.mp held with task | buffered
    · exact Nat.not_lt_of_le new (owned.backed.plain (.inr task)).1
    · obtain ⟨write, present, rfl⟩ := List.mem_map.mp buffered
      exact Nat.not_lt_of_le new (owned.backed.plain_buffered owned.custody present).1

/-- A write is accepted and buffered. -/
theorem accept (owned : s.Owned accepted released) (request : Request)
    (isWrite : request.kind.isWrite = true) :
    ({ s with dispatcher := (s.dispatcher.accept request).2 } : Pipeline β σ).Owned
      (accepted ++ [⟨s.deferreds.size, request⟩]) released := by
  let added := (s.deferreds.create s.dispatcher.settings.timeouts.joinTimeout).2
  have evolution : Deferreds.Evolves none s.deferreds added := Deferreds.evolves_add _ _
  have pending : added.outcome? s.deferreds.size = none := Deferreds.outcome?_add_self _ _
  have single : added.members? s.deferreds.size = none := by
    unfold Deferreds.members?
    rw [show added.fanIn? s.deferreds.size = none from Deferreds.fanIn?_add_self _ _]
    rfl
  have grown : s.deferreds.size < added.size := by
    rw [show added.size = s.deferreds.size + 1 from Deferreds.size_add _ _]
    exact Nat.lt_succ_self _
  obtain ⟨unknown, free⟩ := owned.fresh (Nat.le_refl _)
  have before := owned.backed.evolves owned.custody evolution
  let write : BufferedWrite := ⟨request, s.deferreds.size, s.dispatcher.clock.now⟩
  have custody : ({ s.holdings with buffer := s.holdings.buffer ++ [write] } : Holdings).Custody
      (accepted ++ [write.ticket]) released :=
    @Holdings.Custody.accept _ _ _ owned.custody write isWrite unknown free
  refine ⟨owned.sound.add_plain rfl rfl, owned.truthful.evolves evolution, custody, ?_,
    owned.reads⟩
  refine ⟨?_, before.waits, ?_, before.busy, before.settled, before.released⟩
  · intro id known
    rw [List.map_append, List.mem_append] at known
    rcases known with (older | new) | task
    · exact before.plain (.inl older)
    · obtain rfl := List.mem_singleton.mp new
      exact ⟨grown, single⟩
    · exact before.plain (.inr task)
  · intro write held
    rcases List.mem_append.mp held with older | new
    · exact before.buffered older
    · obtain rfl := List.mem_singleton.mp new
      exact pending

/-- The members of a flush are known. -/
theorem flushMembers_known (owned : s.Owned accepted released) :
    ∀ member ∈ s.dispatcher.flushMembers, member < s.deferreds.size := by
  intro member listed
  rcases List.mem_append.mp listed with buffered | flying
  · obtain ⟨write, held, rfl⟩ := List.mem_map.mp buffered
    exact (owned.backed.plain_buffered owned.custody held).1
  · obtain ⟨ticket, held, rfl⟩ :=
      List.mem_map.mp (owned.custody.inFlight.mem_iff.mp flying)
    obtain ⟨task, present, found⟩ := List.mem_filterMap.mp held
    rw [Task.deferred_of_ticket found]
    exact (owned.backed.plain (.inr (List.mem_map_of_mem present))).1

/-- A flush hands everything over that is buffered. -/
theorem flush (owned : s.Owned accepted released)
    (accepts : s.dispatcher.isShutDown = true → s.dispatcher.buffer.entries = [])
    (reason : FlushReason) :
    (s.after (s.dispatcher.flush reason).2).Owned accepted released := by
  obtain ⟨journal, flushed⟩ := s.dispatcher.flush_eq reason accepts
  rw [flushed]
  have evolution := s.dispatcher.flushTable_evolves reason
  have before := owned.backed.evolves owned.custody evolution
  have rearranged : ((s.dispatcher.flushTable reason).2 ++ s.allDue).Perm
      (s.due ++ (s.dispatcher.flushTable reason).2 ++ s.workers.flatMap Worker.due) := by
    unfold allDue
    rw [← List.append_assoc]
    exact List.perm_append_comm.append_right _
  refine ⟨?_, ?_, owned.custody.handOver, ?_, owned.reads⟩
  · exact (s.dispatcher.flushTable_sound owned.sound owned.flushMembers_known reason).perm
      rearranged
  · apply Deferreds.Truthful.perm _ rearranged
    exact Deferreds.truthful_append.mpr
      ⟨s.dispatcher.flushTable_truthful reason, owned.truthful.evolves evolution⟩
  · have isTask {write : BufferedWrite} (held : write ∈ s.dispatcher.buffer.entries) :
        write.deferred ∈ accepted.map Ticket.deferred :=
      List.mem_map_of_mem (f := Ticket.deferred)
        ((owned.custody.mem_iff _).mpr (.inr (.inr (List.mem_map_of_mem held))))
    refine ⟨?_, ?_, fun held => (nomatch held), before.busy, before.settled, before.released⟩
    · rintro id (known | task)
      · exact before.plain (.inl known)
      · obtain ⟨work, held, rfl⟩ := List.mem_map.mp task
        rcases List.mem_append.mp held with busy | waits
        · exact before.plain (.inr (List.mem_map_of_mem (List.mem_append_left _ busy)))
        · rcases List.mem_append.mp waits with older | new
          · exact before.plain (.inr (List.mem_map_of_mem (List.mem_append_right _ older)))
          · obtain ⟨write, present, rfl⟩ := List.mem_map.mp new
            exact before.plain (.inl (isTask present))
    · intro task held
      rcases List.mem_append.mp held with older | new
      · exact before.waits older
      · obtain ⟨write, present, rfl⟩ := List.mem_map.mp new
        exact before.buffered present

end Owned
end Pipeline
end WideColumn
