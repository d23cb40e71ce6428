import WideColumn.Proofs.Pipeline.History
import WideColumn.Proofs.Pipeline.Schedule

/-!
# No write is lost or doubled

In every state an accepted write is at exactly one stage: buffered, queued, executing or finished.
The stage says all there is to know about its reference: where it occurs and how often, whether it
counts as in flight, how often a worker took it and how often it was completed. What is refused is
at no stage and changes nothing, and no completion that the pipeline attempts comes too late.
-/
namespace WideColumn

/-- The completions within a flush are never refused: the barrier learns of its members cleanly. -/
def Dispatcher.FlushesCleanly (dispatcher : Dispatcher β) : Prop :=
  Deferreds.EnrollsCleanly dispatcher.deferreds.size dispatcher.flushMembers
    (dispatcher.deferreds.openGroup dispatcher.flushMembers
      dispatcher.settings.timeouts.flushTimeout).2

namespace Pipeline

variable {β σ : Type} {accepted released : List Ticket} {s t : Pipeline β σ}

/-- How often a reference occurs among writes. -/
def occurrences (id : DeferredId) (writes : List Ticket) : Nat :=
  (writes.map Ticket.deferred).count id

/-- The outcomes that workers completed a reference with, in order. -/
def completions (id : DeferredId) (trace : List Event) : List Outcome :=
  ((settled trace).filter fun entry => entry.1.deferred == id).map Prod.snd

/-- Where an accepted write is. -/
inductive Stage where
  /-- It waits for a flush. -/
  | buffered
  /-- It waits for a worker. -/
  | queued
  /-- A worker is busy with it. -/
  | executing
  /-- Its worker is done with it. -/
  | finished
deriving DecidableEq

/-- What is true of a reference at a stage. -/
structure AtStage (trace : List Event) (s : Pipeline β σ) (id : DeferredId) (stage : Stage) :
    Prop where
  /-- It is buffered once at the first stage and nowhere else. -/
  buffered : occurrences id s.buffered = if stage = .buffered then 1 else 0
  /-- It is queued once at the second stage and nowhere else. -/
  queued : occurrences id s.queued = if stage = .queued then 1 else 0
  /-- One worker is busy with it at the third stage and nowhere else. -/
  executing : occurrences id s.executing = if stage = .executing then 1 else 0
  /-- It was released once at the last stage and not before. -/
  released : occurrences id (Pipeline.released trace) = if stage = .finished then 1 else 0
  /-- It is in flight from the hand-over to its release. -/
  inFlight : s.dispatcher.inFlight.count id =
    if stage = .queued ∨ stage = .executing then 1 else 0
  /-- A worker took it once, and nobody did so before. -/
  taken : occurrences id (Pipeline.taken trace) =
    if stage = .executing ∨ stage = .finished then 1 else 0
  /-- It was completed once if it has an outcome, with that outcome, and never otherwise. -/
  completed : completions id trace = (s.outcome? id).toList
  /-- It is pending as long as no worker is busy with it. -/
  pending : stage = .buffered ∨ stage = .queued → s.outcome? id = none
  /-- It has an outcome at the last stage. -/
  terminal : stage = .finished → ∃ outcome, s.outcome? id = some outcome

/-- A reference is at one stage at most. -/
theorem AtStage.unique {trace : List Event} {id : DeferredId} {one other : Stage}
    (first : AtStage trace s id one) (second : AtStage trace s id other) : other = one := by
  have buffered := first.buffered.symm.trans second.buffered
  have queued := first.queued.symm.trans second.queued
  have executing := first.executing.symm.trans second.executing
  have released := first.released.symm.trans second.released
  cases one with
  | buffered =>
    by_cases same : other = .buffered
    · exact same
    · simp [same] at buffered
  | queued =>
    by_cases same : other = .queued
    · exact same
    · simp [same] at queued
  | executing =>
    by_cases same : other = .executing
    · exact same
    · simp [same] at executing
  | finished =>
    by_cases same : other = .finished
    · exact same
    · simp [same] at released

@[simp] theorem occurrences_append (id : DeferredId) (first second : List Ticket) :
    occurrences id (first ++ second) = occurrences id first + occurrences id second := by
  unfold occurrences
  rw [List.map_append, List.count_append]

/-- Occurrences do not depend on the order. -/
theorem occurrences_perm {first second : List Ticket} (id : DeferredId)
    (same : first.Perm second) : occurrences id first = occurrences id second :=
  (same.map Ticket.deferred).count_eq id

/-- A write among writes occurs. -/
theorem occurrences_pos {writes : List Ticket} {write : Ticket} (present : write ∈ writes) :
    0 < occurrences write.deferred writes :=
  List.count_pos_iff.mpr (List.mem_map_of_mem present)

/-- What occurs is among the writes. -/
theorem exists_of_occurrences_pos {writes : List Ticket} {id : DeferredId}
    (positive : 0 < occurrences id writes) : ∃ write ∈ writes, write.deferred = id :=
  List.mem_map.mp (List.count_pos_iff.mp positive)

/-- There are as many completions of a reference as it occurs among what was completed. -/
theorem length_completions (id : DeferredId) (trace : List Event) :
    (completions id trace).length = occurrences id ((settled trace).map Prod.fst) := by
  unfold completions occurrences
  rw [List.length_map, List.map_map, ← List.countP_eq_length_filter, List.count, List.countP_map]
  rfl

/-- An accepted write occurs once among all that is buffered, with the pool or released. -/
theorem Owned.occurrences (owned : s.Owned accepted released) {write : Ticket}
    (listed : write ∈ accepted) :
    Pipeline.occurrences write.deferred released + Pipeline.occurrences write.deferred s.executing +
      Pipeline.occurrences write.deferred s.queued +
      Pipeline.occurrences write.deferred s.buffered = 1 := by
  have one : Pipeline.occurrences write.deferred accepted = 1 := by
    unfold Pipeline.occurrences
    rw [owned.custody.once.count, if_pos (List.mem_map_of_mem listed)]
  have same := occurrences_perm write.deferred owned.custody.conserved
  rw [holdings_writes, occurrences_append, occurrences_append, occurrences_append, one] at same
  show _ = 1
  have buffered : s.holdings.buffer.map BufferedWrite.ticket = s.buffered := rfl
  rw [buffered] at same
  omega

/-- What is in flight is what is queued or executing. -/
theorem Owned.count_inFlight (owned : s.Owned accepted released) (id : DeferredId) :
    s.dispatcher.inFlight.count id =
      Pipeline.occurrences id s.executing + Pipeline.occurrences id s.queued := by
  have same := owned.custody.inFlight.count_eq id
  rw [holdings_writes] at same
  rw [← occurrences_append]
  exact same

/-- What workers have completed is part of what they hold. -/
theorem completed_sublist (workers : List (Worker β)) :
    (completed workers).Sublist (held workers) := by
  induction workers with
  | nil => exact .slnil
  | cons first rest ih =>
    unfold completed held at ih ⊢
    rw [List.filterMap_cons, List.filterMap_cons]
    unfold completedBy at ih ⊢
    cases first.isSettled with
    | true =>
      rw [if_pos rfl]
      cases first.task.ticket? with
      | none => exact ih
      | some ticket => exact ih.cons_cons ticket
    | false =>
      rw [if_neg Bool.false_ne_true]
      cases first.task.ticket? with
      | none => exact ih
      | some ticket => exact ih.cons ticket

/-- What no worker has completed is pending. -/
theorem Owned.outcome_none (owned : s.Owned accepted released) {write : Ticket}
    (listed : write ∈ accepted) (kept : Pipeline.occurrences write.deferred released = 0)
    (open_ : Pipeline.occurrences write.deferred (completed s.workers) = 0) :
    s.outcome? write.deferred = none := by
  rcases (owned.custody.mem_iff write).mp listed with gone | flying | buffered
  · have positive := occurrences_pos gone
    omega
  · obtain ⟨task, owns, found⟩ := List.mem_filterMap.mp flying
    rw [Task.deferred_of_ticket found]
    rcases List.mem_append.mp owns with busy | waits
    · obtain ⟨⟨other, isSettled⟩, present, rfl⟩ := List.mem_map.mp busy
      cases isSettled with
      | false => exact owned.backed.busy present
      | true =>
        obtain ⟨worker, works, same⟩ := List.mem_map.mp present
        obtain ⟨rfl, settled⟩ := Prod.mk.inj same
        have completes : write ∈ completed s.workers := by
          apply List.mem_filterMap.mpr
          refine ⟨worker, works, ?_⟩
          unfold completedBy
          rw [settled, if_pos rfl, found]
        have positive := occurrences_pos completes
        omega
    · exact owned.backed.waits waits
  · obtain ⟨entry, present, rfl⟩ := List.mem_map.mp buffered
    exact owned.backed.buffered present

variable {backend : Backend σ} {settings : Settings} {clock : Clock} {store : σ}
  {trace : List Event}

/-- The completions of an accepted write are its outcome, if it has one. -/
theorem Run.completions (run : Run backend (start settings clock store) trace s)
    {write : Ticket} (listed : write ∈ Pipeline.accepted trace) :
    Pipeline.completions write.deferred trace = (s.outcome? write.deferred).toList := by
  obtain ⟨owned, _⟩ := run.owned
  have total := owned.occurrences listed
  have amount := length_completions write.deferred trace
  rw [occurrences_perm write.deferred run.settled, occurrences_append] at amount
  have part : Pipeline.occurrences write.deferred (completed s.workers) ≤
      Pipeline.occurrences write.deferred s.executing :=
    ((completed_sublist s.workers).map Ticket.deferred).count_le write.deferred
  have recorded : ∀ outcome ∈ Pipeline.completions write.deferred trace,
      s.outcome? write.deferred = some outcome := by
    intro outcome present
    obtain ⟨⟨other, _⟩, kept, rfl⟩ := List.mem_map.mp present
    obtain ⟨settled, same⟩ := List.mem_filter.mp kept
    rw [← eq_of_beq same]
    exact run.outcome_of_settled settled
  cases found : Pipeline.completions write.deferred trace with
  | nil =>
    rw [found, List.length_nil] at amount
    rw [owned.outcome_none listed (by omega) (by omega)]
    rfl
  | cons first rest =>
    rw [found, List.length_cons] at amount
    obtain rfl : rest = [] := List.length_eq_zero_iff.mp (by omega)
    rw [recorded first (by rw [found]; exact List.mem_cons_self)]
    rfl

/-- Every accepted write is at a stage. -/
theorem Run.atStage (run : Run backend (start settings clock store) trace s)
    {write : Ticket} (listed : write ∈ Pipeline.accepted trace) :
    ∃ stage, AtStage trace s write.deferred stage := by
  obtain ⟨owned, _⟩ := run.owned
  have total := owned.occurrences listed
  have flying := owned.count_inFlight write.deferred
  have took : Pipeline.occurrences write.deferred (Pipeline.taken trace) =
      Pipeline.occurrences write.deferred (Pipeline.released trace) +
        Pipeline.occurrences write.deferred s.executing := by
    rw [occurrences_perm write.deferred run.taken, occurrences_append]
  have part : Pipeline.occurrences write.deferred (completed s.workers) ≤
      Pipeline.occurrences write.deferred s.executing :=
    ((completed_sublist s.workers).map Ticket.deferred).count_le write.deferred
  have placed : ∃ stage : Stage,
      Pipeline.occurrences write.deferred s.buffered = (if stage = .buffered then 1 else 0) ∧
      Pipeline.occurrences write.deferred s.queued = (if stage = .queued then 1 else 0) ∧
      Pipeline.occurrences write.deferred s.executing = (if stage = .executing then 1 else 0) ∧
      Pipeline.occurrences write.deferred (Pipeline.released trace) =
        (if stage = .finished then 1 else 0) := by
    by_cases buffered : Pipeline.occurrences write.deferred s.buffered = 1
    · exact ⟨.buffered, by simp; omega⟩
    · by_cases queued : Pipeline.occurrences write.deferred s.queued = 1
      · exact ⟨.queued, by simp; omega⟩
      · by_cases executing : Pipeline.occurrences write.deferred s.executing = 1
        · exact ⟨.executing, by simp; omega⟩
        · exact ⟨.finished, by simp; omega⟩
  obtain ⟨stage, buffered, queued, executing, gone⟩ := placed
  refine ⟨stage, buffered, queued, executing, gone, ?_, ?_, run.completions listed, ?_, ?_⟩
  · rw [flying, executing, queued]
    cases stage <;> rfl
  · rw [took, executing, gone]
    cases stage <;> rfl
  · intro early
    apply owned.outcome_none listed
    · rw [gone]
      rcases early with rfl | rfl <;> rfl
    · have none_busy : Pipeline.occurrences write.deferred s.executing = 0 := by
        rw [executing]
        rcases early with rfl | rfl <;> rfl
      omega
  · rintro rfl
    have positive : 0 < Pipeline.occurrences write.deferred (Pipeline.released trace) := by
      rw [gone]
      exact Nat.one_pos
    obtain ⟨other, present, same⟩ := exists_of_occurrences_pos positive
    rw [← same]
    exact owned.backed.released present

/-- A write is refused because closing has begun or as many writes are outstanding as may be, and
all that this changes is the journal. -/
theorem Step.refused {request : Request} {error : Error} (orderly : s.Orderly)
    (step : Step backend s (.submitted request (.error error)) t) :
    (s.dispatcher.isClosed = true ∧ error = .closed request.kind false ∨
      s.dispatcher.settings.buffer.maxPendingWrites ≤ s.dispatcher.pendingWrites ∧
        error = .bufferFull s.dispatcher.pendingWrites
          s.dispatcher.settings.buffer.maxPendingWrites) ∧
      ∃ journal, t = { s with dispatcher := { s.dispatcher with journal } } := by
  generalize seen : Event.submitted request (.error error) = event at step
  cases step with
  | submit other isWrite =>
    obtain ⟨rfl, answer⟩ := Event.submitted.inj seen
    have ended := s.dispatcher.enqueues request
    generalize s.dispatcher.enqueue request = result at ended answer
    cases ended with
    | late isClosed =>
      obtain rfl := Except.error.inj answer
      exact ⟨.inl ⟨isClosed, rfl⟩, s.dispatcher.journal, by simp [after]⟩
    | full isOpen reached =>
      obtain rfl := Except.error.inj answer
      exact ⟨.inr ⟨reached, rfl⟩, _, by simp only [after, List.append_nil]; rfl⟩
    | buffered isOpen below quiet => cases answer
    | triggered isOpen below reason fired =>
      obtain ⟨journal, flushed⟩ := (s.dispatcher.accept request).2.flush_eq reason
        (orderly.accepts_more request isOpen)
      rw [flushed] at answer
      cases answer
  | letIn | turnAway | queue | flush | poll | close | expire | drain | finish | watch | group
  | advance | take | call | settle | notify | deliver | release => cases seen

/-- What conservation means in a state, after what has been seen so far. -/
structure Conserved (backend : Backend σ) (trace : List Event) (s : Pipeline β σ) : Prop where
  /-- No reference is given to two accepted writes. -/
  once : ((Pipeline.accepted trace).map Ticket.deferred).Nodup
  /-- Every accepted write is at exactly one stage. -/
  staged : ∀ write ∈ Pipeline.accepted trace, ∃ stage, AtStage trace s write.deferred stage ∧
    ∀ other, AtStage trace s write.deferred other → other = stage
  /-- Only accepted writes are at a stage, and only for these is the store called. -/
  accepted : ∀ write, write ∈ s.buffered ∨ write ∈ s.queued ∨ write ∈ s.executing ∨
    write ∈ Pipeline.released trace ∨ write ∈ called trace → write ∈ Pipeline.accepted trace
  /-- Nothing is both buffered and in flight. -/
  disjoint : ∀ write ∈ s.buffered, write.deferred ∉ s.dispatcher.inFlight
  /-- A write is refused after closing or when too many are outstanding, and then nothing changes
  but the journal. -/
  refused : ∀ {request : Request} {error : Error} {t : Pipeline β σ},
    Step backend s (.submitted request (.error error)) t →
      (s.dispatcher.isClosed = true ∧ error = .closed request.kind false ∨
        s.dispatcher.settings.buffer.maxPendingWrites ≤ s.dispatcher.pendingWrites ∧
          error = .bufferFull s.dispatcher.pendingWrites
            s.dispatcher.settings.buffer.maxPendingWrites) ∧
        ∃ journal, t = { s with dispatcher := { s.dispatcher with journal } }
  /-- A worker's completion is not refused. -/
  settles : ∀ {task : Task} {outcome : Outcome}, .settling task outcome ∈ s.workers →
    ∃ after, s.deferreds.complete task.deferred outcome = .ok after
  /-- The completion of a barrier by a callback is not refused. -/
  delivers : ∀ notice ∈ s.allDue, ∀ error, (s.deferreds.deliver notice).2.2 ≠ .refused error
  /-- The completion of a barrier while it learns of its members is not refused, be it that of a
  client, that of a flush or that of a flush which the acceptance of a write triggers. -/
  groups : ∀ {members : List DeferredId} (timeout : Option Number),
    (∀ member ∈ members, member < s.deferreds.size) →
      Deferreds.EnrollsCleanly s.deferreds.size members (s.deferreds.openGroup members timeout).2
  flushes : s.dispatcher.FlushesCleanly
  triggers : ∀ {request : Request}, request.kind.isWrite = true →
    (s.dispatcher.accept request).2.FlushesCleanly

/-- No write is lost or doubled, in any state that is reached. -/
theorem writes_conserved (run : Run backend (start settings clock store) trace s) :
    s.Conserved backend trace := by
  obtain ⟨owned, orderly⟩ := run.owned
  refine ⟨owned.custody.once, ?_, ?_, ?_, fun step => step.refused orderly, ?_, ?_, ?_, ?_, ?_⟩
  · intro write listed
    obtain ⟨stage, here⟩ := run.atStage listed
    exact ⟨stage, here, fun other there => here.unique there⟩
  · intro write
    rw [owned.custody.mem_iff write, holdings_writes, List.mem_append]
    rintro (buffered | queued | executing | gone | called)
    · exact .inr (.inr buffered)
    · exact .inr (.inl (.inr queued))
    · exact .inr (.inl (.inl executing))
    · exact .inl gone
    · rcases List.mem_append.mp (run.taken.mem_iff.mp (run.taken_of_called called)) with
        gone | busy
      · exact .inl gone
      · exact .inr (.inl (.inl busy))
  · intro write buffered flying
    have listed : write ∈ Pipeline.accepted trace :=
      (owned.custody.mem_iff write).mpr (.inr (.inr buffered))
    have total := owned.occurrences listed
    have here := occurrences_pos buffered
    have there := List.count_pos_iff.mpr flying
    rw [owned.count_inFlight] at there
    omega
  · intro task outcome settling
    obtain ⟨known, pending, _⟩ := owned.settling_pending settling
    exact ⟨_, Deferreds.complete_eq known pending outcome⟩
  · intro notice present
    obtain ⟨before, after, split⟩ := List.append_of_mem present
    have front : s.allDue.Perm (notice :: (before ++ after)) := by
      rw [split]
      exact List.perm_middle
    exact ((owned.sound.perm front).deliver (owned.truthful.perm front)).2.2
  · intro members timeout known
    exact (owned.sound.group known timeout).2
  · exact (owned.sound.group owned.flushMembers_known _).2
  · intro request isWrite
    have next := owned.accept request isWrite
    exact (next.sound.group next.flushMembers_known _).2

/-- A state with a write at each stage. -/
def fourStages : List Event × Pipeline Unit Unit :=
  played forgetful (start manual ⟨.int 0⟩ ())
    [.submit (smallPut [97]), .submit (smallPut [98]), .submit (smallRemoval [99]),
      .flush .explicit, .submit (smallPut [100]), .take 0, .work 0, .work 0, .work 0, .work 0,
      .take 1]

/-- Of four writes one is finished, one queued, one executing and one buffered. -/
theorem writes_conserved_fourStages :
    Run forgetful (start manual ⟨.int 0⟩ ()) fourStages.1 fourStages.2 ∧
      Pipeline.released fourStages.1 = [⟨0, smallPut [97]⟩] ∧
      fourStages.2.queued = [⟨1, smallPut [98]⟩] ∧
      fourStages.2.executing = [⟨2, smallRemoval [99]⟩] ∧
      fourStages.2.buffered = [⟨4, smallPut [100]⟩] ∧
      fourStages.2.Conserved forgetful fourStages.1 := by
  have run : Run forgetful (start manual ⟨.int 0⟩ ()) fourStages.1 fourStages.2 := run_played rfl
  exact ⟨run, rfl, rfl, rfl, rfl, writes_conserved run⟩

end Pipeline
end WideColumn
