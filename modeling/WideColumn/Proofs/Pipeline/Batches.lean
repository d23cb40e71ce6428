import WideColumn.Proofs.Pipeline.Faultless
import WideColumn.Proofs.Pipeline.FlushBarrier
import WideColumn.Proofs.Pipeline.Schedule

/-!
# Batches between barriers

A client submits a batch of writes, flushes, and waits for the barrier before it submits the next
batch. Between two barriers exactly the batch is executed, in some order. If no two writes of a
batch share a cell, neither the order nor anything else that depends on triggers, workers and
interleaving is seen in the store or in an outcome, timestamps aside.
-/
namespace WideColumn.Pipeline

variable {β γ σ : Type}

/-- A client performs a program of batches: it submits the writes of a batch in any order, all of
which are accepted, flushes, and submits nothing more until the barrier is terminal. Meanwhile
anything else may happen. The accepted writes are noted batch by batch. -/
inductive Performs (backend : Backend σ) (s : Pipeline β σ) :
    List (List Request) → List (List Ticket) → Pipeline β σ → Prop where
  /-- There are no batches. -/
  | nil : Performs backend s [] [] s
  /-- A batch more. -/
  | batch {program : List (List Request)} {writes : List (List Ticket)} {t u v w : Pipeline β σ}
    {batch : List Request} {submitting waiting : List Event} {reason : FlushReason}
    {barrier : DeferredId} (earlier : Performs backend s program writes t)
    (submits : Run backend t submitting u)
    (whole : ((accepted submitting).map Ticket.request).Perm batch)
    (flush : Step backend u (.flushed reason (.ok barrier)) v)
    (waits : Run backend v waiting w) (silent : accepted waiting = [])
    (done : w.deferreds.isDone barrier = true) :
    Performs backend s (program ++ [batch]) (writes ++ [accepted submitting]) w

/-- For each batch there is a note of its writes. -/
theorem Performs.length_eq {backend : Backend σ} {s t : Pipeline β σ}
    {program : List (List Request)} {writes : List (List Ticket)}
    (performs : Performs backend s program writes t) : writes.length = program.length := by
  induction performs with
  | nil => rfl
  | batch earlier submits whole flush waits silent done ih =>
    rw [List.length_append, List.length_append, ih]
    rfl

/-- The note of a batch has its writes, in order of acceptance. -/
theorem Performs.perm {backend : Backend σ} {s t : Pipeline β σ}
    {program : List (List Request)} {writes : List (List Ticket)}
    (performs : Performs backend s program writes t) {position : Nat} {batch : List Request}
    {noted : List Ticket} (there : program[position]? = some batch)
    (here : writes[position]? = some noted) : (noted.map Ticket.request).Perm batch := by
  induction performs with
  | nil => cases here
  | @batch program writes t u v w last submitting waiting reason barrier earlier submits whole
      flush waits silent done ih =>
    have lengths := earlier.length_eq
    rcases Nat.lt_or_ge position program.length with inside | outside
    · rw [List.getElem?_append_left (by omega)] at here there
      exact ih there here
    · rw [List.getElem?_append_right outside] at there
      rw [List.getElem?_append_right (by omega), lengths] at here
      cases index : position - program.length with
      | zero =>
        rw [index] at there here
        cases there
        cases here
        exact whole
      | succ more =>
        rw [index] at there
        cases there

/-! ## One batch -/

variable {settings : Settings} {clock : Clock} {store : FaultyStore}
  {s t u v : Pipeline β FaultyStore} {earlier trace : List Event}

/-- Between two moments at which all accepted writes are terminal, the writes that are accepted are
executed, each once and with its outcome. -/
theorem Quiet.phase (quiet : s.Quiet earlier)
    (before : Run FaultyStore.answer (start settings clock store) earlier s)
    (calm : store.plans = []) (phase : Run FaultyStore.answer s trace t)
    (quiet' : t.Quiet (earlier ++ trace)) :
    (called trace).Perm (accepted trace) ∧
      ∀ write ∈ accepted trace, ∃ outcome,
        (write, outcome) ∈ performed trace ∧ t.outcome? write.deferred = some outcome := by
  have whole := before.append phase
  obtain ⟨first, _⟩ := quiet.executed before calm
  obtain ⟨both, completed⟩ := quiet'.executed whole calm
  rw [called_append, accepted_append] at both
  have exchanged := both.trans (first.symm.append_right (accepted trace))
  have same : (called trace).Perm (accepted trace) :=
    (List.perm_append_left_iff (called earlier)).mp exchanged
  refine ⟨same, ?_⟩
  intro write listed
  have called : write ∈ (performed trace).map Prod.fst := by
    rw [map_performed]
    exact same.mem_iff.mpr listed
  obtain ⟨⟨same, outcome⟩, present, rfl⟩ := List.mem_map.mp called
  refine ⟨outcome, present, ?_⟩
  apply whole.outcome_of_settled
  rw [← completed.mem_iff, performed_append]
  exact List.mem_append_right _ present

/-- Once the barrier is terminal, all writes accepted so far are, if none was accepted after the
flush. -/
theorem quiet_of_barrier {submitting waiting : List Event} {reason : FlushReason}
    {barrier : DeferredId}
    (before : Run FaultyStore.answer (start settings clock store : Pipeline β FaultyStore)
      submitting s)
    (flush : Step FaultyStore.answer s (.flushed reason (.ok barrier)) u)
    (waits : Run FaultyStore.answer u waiting v) (silent : accepted waiting = [])
    (done : v.deferreds.isDone barrier = true) :
    v.Quiet (submitting ++ [.flushed reason (.ok barrier)] ++ waiting) := by
  obtain ⟨other, answered, about⟩ := before.members_of_flush flush waits
  cases answered
  obtain ⟨outcome, resolved⟩ := Option.isSome_iff_exists.mp done
  obtain ⟨all, _⟩ := before.done_of_barrier flush waits about resolved
  intro write listed
  rw [accepted_append, accepted_append, silent, List.append_nil,
    show accepted [.flushed reason (.ok barrier)] = [] from rfl, List.append_nil] at listed
  exact all write listed

/-- What batches make of a store without timestamps, one after another. -/
def contents (store : Store) (program : List (List Request)) : Store :=
  program.foldl Request.effects store

/-- A batch more. -/
theorem contents_append (store : Store) (program : List (List Request)) (batch : List Request) :
    contents store (program ++ [batch]) = Request.effects (contents store program) batch := by
  unfold contents
  rw [List.foldl_append]
  rfl

/-- What is true once a program has been performed: all accepted writes are terminal, the store is
what the batches make of it, and each write has the outcome that it would have had as the only one
of its batch. -/
structure Performed (store : FaultyStore) (settings : Settings) (clock : Clock)
    (program : List (List Request)) (writes : List (List Ticket)) (s : Pipeline β FaultyStore) :
    Prop where
  /-- All accepted writes are terminal. -/
  quiet : ∃ trace, Run FaultyStore.answer (start settings clock store) trace s ∧ s.Quiet trace
  /-- The store is what the batches make of it. -/
  store_eq : s.backend.store.timeless = contents store.store.timeless program
  /-- The outcomes depend on the earlier batches only. -/
  outcomes : ∀ (position : Nat) (batch : List Ticket), writes[position]? = some batch →
    ∀ write ∈ batch, ∃ outcome, s.outcome? write.deferred = some outcome ∧
      Outcome.timeless outcome =
        write.request.answer (contents store.store.timeless (program.take position))

/-- A batch of writes that share no cell, between two moments at which all accepted writes are
terminal. -/
theorem Quiet.batch (quiet : s.Quiet earlier)
    (before : Run FaultyStore.answer (start settings clock store) earlier s)
    (calm : store.plans = []) (phase : Run FaultyStore.answer s trace t)
    (quiet' : t.Quiet (earlier ++ trace)) {batch : List Request}
    (whole : ((accepted trace).map Ticket.request).Perm batch)
    (disjoint : batch.Pairwise Request.Disjoint) :
    t.backend.store.timeless = Request.effects s.backend.store.timeless batch ∧
      ∀ write ∈ accepted trace, ∃ outcome, t.outcome? write.deferred = some outcome ∧
        Outcome.timeless outcome = write.request.answer s.backend.store.timeless := by
  obtain ⟨same, outcomes⟩ := quiet.phase before calm phase quiet'
  have still := (before.faultless calm).plans
  have executed : ((called trace).map Ticket.request).Perm batch :=
    (same.map Ticket.request).trans whole
  have apart := executed.symm.pairwise disjoint Request.Disjoint.symm
  constructor
  · rw [(phase.faultless still).effects]
    exact Request.effects_perm executed apart _
  · intro write listed
    obtain ⟨outcome, present, resolved⟩ := outcomes write listed
    exact ⟨outcome, resolved, phase.answers still apart _ present⟩

/-- Performing a program of batches of writes that share no cell. -/
theorem Performs.performed {program : List (List Request)} {writes : List (List Ticket)}
    (performs : Performs FaultyStore.answer (start settings clock store) program writes s)
    (calm : store.plans = [])
    (disjoint : ∀ batch ∈ program, batch.Pairwise Request.Disjoint) :
    s.Performed store settings clock program writes := by
  induction performs with
  | nil =>
    refine ⟨⟨[], .nil, fun write present => nomatch present⟩, rfl, ?_⟩
    intro position batch here
    cases here
  | @batch program writes t u v w last submitting waiting reason barrier performs submits whole
      flush waits silent done ih =>
    have lengths := performs.length_eq
    obtain ⟨⟨trace, before, quiet⟩, store_eq, outcomes⟩ :=
      ih fun batch present => disjoint batch (List.mem_append_left _ present)
    have phase := (submits.append (.single flush)).append waits
    have accepts : accepted (submitting ++ [.flushed reason (.ok barrier)] ++ waiting) =
        accepted submitting := by
      rw [accepted_append, accepted_append, silent, List.append_nil]
      exact List.append_nil _
    have quiet' := quiet_of_barrier (before.append submits) flush waits silent done
    rw [List.append_assoc trace, List.append_assoc trace] at quiet'
    rw [← accepts] at whole
    have apart := disjoint last (List.mem_append_right _ List.mem_cons_self)
    obtain ⟨effect, answers⟩ := quiet.batch before calm phase quiet' whole apart
    refine ⟨⟨_, before.append phase, quiet'⟩, ?_, ?_⟩
    · rw [effect, store_eq, contents_append]
    · intro position batch here write present
      rcases Nat.lt_or_ge position writes.length with inside | outside
      · rw [List.getElem?_append_left inside] at here
        obtain ⟨outcome, resolved, answer⟩ := outcomes position batch here write present
        obtain ⟨grown, _⟩ := phase.grows before.owned.2
        refine ⟨outcome, grown.outcome resolved, ?_⟩
        rw [List.take_append_of_le_length (by omega)]
        exact answer
      · obtain ⟨rfl, rfl⟩ : position = writes.length ∧ batch = accepted submitting := by
          rw [List.getElem?_append_right outside] at here
          cases index : position - writes.length with
          | zero =>
            rw [index] at here
            cases here
            exact ⟨by omega, rfl⟩
          | succ more =>
            rw [index] at here
            cases here
        rw [← accepts] at present
        obtain ⟨outcome, resolved, answer⟩ := answers write present
        refine ⟨outcome, resolved, ?_⟩
        rw [lengths, List.take_left, ← store_eq]
        exact answer

/-- Take a program of batches between barriers, no batch with two writes that share a cell, and
perform it twice from the same store without failures, with whatever settings, at whatever times and
under whatever schedules. Then both runs end with the same rows, cells and values, and a write has
the same outcome in both, timestamps aside. -/
theorem schedule_independence {store : Store} {settings settings' : Settings}
    {clock clock' : Clock} {program : List (List Request)} {writes writes' : List (List Ticket)}
    {s : Pipeline β FaultyStore} {t : Pipeline γ FaultyStore}
    (disjoint : ∀ batch ∈ program, batch.Pairwise Request.Disjoint)
    (one : Performs FaultyStore.answer (start settings clock (.ofStore store)) program writes s)
    (other : Performs FaultyStore.answer (start settings' clock' (.ofStore store)) program
      writes' t) :
    s.backend.store.timeless = t.backend.store.timeless ∧ writes.length = writes'.length ∧
      ∀ (position : Nat) (batch batch' : List Ticket), writes[position]? = some batch →
        writes'[position]? = some batch' →
          (batch.map Ticket.request).Perm (batch'.map Ticket.request) ∧
            ∀ write ∈ batch, ∀ counterpart ∈ batch', write.request = counterpart.request →
              ∃ outcome outcome', s.outcome? write.deferred = some outcome ∧
                t.outcome? counterpart.deferred = some outcome' ∧
                Outcome.timeless outcome = Outcome.timeless outcome' := by
  have first := one.performed rfl disjoint
  have second := other.performed rfl disjoint
  refine ⟨first.store_eq.trans second.store_eq.symm, ?_, ?_⟩
  · rw [one.length_eq, other.length_eq]
  · intro position batch batch' here there
    constructor
    · have inside : position < program.length := by
        rw [← one.length_eq]
        exact (List.getElem?_eq_some_iff.mp here).1
      have planned := List.getElem?_eq_getElem inside
      exact (one.perm planned here).trans (other.perm planned there).symm
    · intro write present counterpart present' same
      obtain ⟨outcome, resolved, answer⟩ := first.outcomes position batch here write present
      obtain ⟨outcome', resolved', answer'⟩ :=
        second.outcomes position batch' there counterpart present'
      refine ⟨outcome, outcome', resolved, resolved', ?_⟩
      rw [answer, answer', same]

/-! ## Playing batches -/

/-- The state after schedules for submitting a batch and for waiting, with a flush between them. -/
def batchPlayed (backend : Backend σ) (s : Pipeline β σ) (submits waits : List (Action β)) :
    Pipeline β σ :=
  let submitted := (played backend s submits).2
  (played backend (submitted.after (submitted.dispatcher.flush .explicit).2) waits).2

/-- What schedules that are possible make of a batch. -/
theorem Performs.played {backend : Backend σ} {s t : Pipeline β σ}
    {program : List (List Request)} {writes : List (List Ticket)}
    (earlier : Performs backend s program writes t) {submits waits : List (Action β)}
    {batch : List Request} {noted : List Ticket} {barrier : DeferredId}
    (submitted : (play backend t submits).isSome = true)
    (notes : accepted (Pipeline.played backend t submits).1 = noted)
    (whole : (noted.map Ticket.request).Perm batch)
    (answer : ((Pipeline.played backend t submits).2.dispatcher.flush .explicit).1 = .ok barrier)
    (waited : (play backend ((Pipeline.played backend t submits).2.after
      ((Pipeline.played backend t submits).2.dispatcher.flush .explicit).2) waits).isSome = true)
    (silent : accepted (Pipeline.played backend ((Pipeline.played backend t submits).2.after
      ((Pipeline.played backend t submits).2.dispatcher.flush .explicit).2) waits).1 = [])
    (done : (batchPlayed backend t submits waits).deferreds.isDone barrier = true) :
    Performs backend s (program ++ [batch]) (writes ++ [noted])
      (batchPlayed backend t submits waits) := by
  subst notes
  have flush : Step backend (Pipeline.played backend t submits).2 (.flushed .explicit _) _ :=
    .flush .explicit
  rw [answer] at flush
  exact .batch earlier (run_played submitted) whole flush (run_played waited) silent done

/-- A single worker that waits for flushes. -/
def patient : Pipeline Unit FaultyStore :=
  start { manual with concurrency := ⟨1⟩ } ⟨.int 0⟩ (.ofStore oneTable)

/-- Workers that get every write at once. -/
def eager : Pipeline Unit FaultyStore :=
  start { manual with buffer := ⟨some 1, none, 100⟩ } ⟨.int 0⟩ (.ofStore oneTable)

/-- A put and an append, then the removal of the row of the put and another append. -/
def twoBatches : List (List Request) :=
  [[smallPut [97], smallAppend [98] [50]], [smallRemoval [97], smallAppend [98] [51]]]

/-- The single worker executes one write after another. -/
def patientlyWaiting : List (Action Unit) :=
  [.take 0] ++ List.replicate 4 (.work 0) ++ [.take 0] ++ List.replicate 5 (.work 0)

/-- The first batch with the single worker. -/
def patientlyBegun : Pipeline Unit FaultyStore :=
  batchPlayed FaultyStore.answer patient
    [.submit (smallPut [97]), .submit (smallAppend [98] [50])] patientlyWaiting

/-- The second batch with the single worker. -/
def patientlyDone : Pipeline Unit FaultyStore :=
  batchPlayed FaultyStore.answer patientlyBegun
    [.submit (smallRemoval [97]), .submit (smallAppend [98] [51])] patientlyWaiting

/-- The first batch with two workers, submitted in another order and executed at the same time. -/
def eagerlyBegun : Pipeline Unit FaultyStore :=
  batchPlayed FaultyStore.answer eager
    [.submit (smallAppend [98] [50]), .take 0, .submit (smallPut [97]), .take 0]
    ([.work 0, .work 1] ++ List.replicate 4 (.work 1) ++ List.replicate 7 (.work 0))

/-- The second batch with two workers, the removal executed while the flush is on its way. -/
def eagerlyDone : Pipeline Unit FaultyStore :=
  batchPlayed FaultyStore.answer eagerlyBegun
    [.submit (smallAppend [98] [51]), .take 0, .submit (smallRemoval [97]), .take 0, .work 1,
      .work 1]
    (List.replicate 2 (.work 1) ++ List.replicate 8 (.work 0))

/-- A single worker and two eager ones leave the same contents behind, and the first append resolves
with the same value under different timestamps. -/
theorem schedule_independence_of_twoBatches :
    (∀ batch ∈ twoBatches, batch.Pairwise Request.Disjoint) ∧
      Performs FaultyStore.answer patient twoBatches
        [[⟨0, smallPut [97]⟩, ⟨1, smallAppend [98] [50]⟩],
          [⟨3, smallRemoval [97]⟩, ⟨4, smallAppend [98] [51]⟩]] patientlyDone ∧
      Performs FaultyStore.answer eager twoBatches
        [[⟨0, smallAppend [98] [50]⟩, ⟨2, smallPut [97]⟩],
          [⟨5, smallAppend [98] [51]⟩, ⟨7, smallRemoval [97]⟩]] eagerlyDone ∧
      patientlyDone.backend.store.timeless = eagerlyDone.backend.store.timeless ∧
      patientlyDone.outcome? 1 = some (.ok (.cells [⟨[98], [102], [113], [50], 2⟩])) ∧
      eagerlyDone.outcome? 0 = some (.ok (.cells [⟨[98], [102], [113], [50], 1⟩])) ∧
      ∃ outcome outcome', patientlyDone.outcome? 1 = some outcome ∧
        eagerlyDone.outcome? 0 = some outcome' ∧
        Outcome.timeless outcome = Outcome.timeless outcome' := by
  have apart {value : Bytes} {one : Request} (elsewhere : one.key ≠ [98]) :
      [one, smallAppend [98] value].Pairwise Request.Disjoint :=
    List.pairwise_pair.mpr (Request.disjoint_of_key elsewhere)
  have disjoint : ∀ batch ∈ twoBatches, batch.Pairwise Request.Disjoint := by
    intro batch present
    rcases List.mem_cons.mp present with rfl | present
    · exact apart (by decide)
    · obtain rfl := List.mem_singleton.mp present
      exact apart (by decide)
  have begun : Performs FaultyStore.answer patient
      ([] ++ [[smallPut [97], smallAppend [98] [50]]])
      ([] ++ [[⟨0, smallPut [97]⟩, ⟨1, smallAppend [98] [50]⟩]]) patientlyBegun :=
    Performs.nil.played rfl rfl (.refl _) rfl rfl rfl rfl
  have one : Performs FaultyStore.answer patient
      ([[smallPut [97], smallAppend [98] [50]]] ++ [[smallRemoval [97], smallAppend [98] [51]]])
      ([[⟨0, smallPut [97]⟩, ⟨1, smallAppend [98] [50]⟩]] ++
        [[⟨3, smallRemoval [97]⟩, ⟨4, smallAppend [98] [51]⟩]]) patientlyDone :=
    begun.played rfl rfl (.refl _) rfl rfl rfl rfl
  have begun' : Performs FaultyStore.answer eager
      ([] ++ [[smallPut [97], smallAppend [98] [50]]])
      ([] ++ [[⟨0, smallAppend [98] [50]⟩, ⟨2, smallPut [97]⟩]]) eagerlyBegun :=
    Performs.nil.played rfl rfl (.swap _ _ _) rfl rfl rfl rfl
  have other : Performs FaultyStore.answer eager
      ([[smallPut [97], smallAppend [98] [50]]] ++ [[smallRemoval [97], smallAppend [98] [51]]])
      ([[⟨0, smallAppend [98] [50]⟩, ⟨2, smallPut [97]⟩]] ++
        [[⟨5, smallAppend [98] [51]⟩, ⟨7, smallRemoval [97]⟩]]) eagerlyDone :=
    begun'.played rfl rfl (.swap _ _ _) rfl rfl rfl rfl
  obtain ⟨store, _, outcomes⟩ := schedule_independence disjoint one other
  obtain ⟨_, same⟩ := outcomes 0 _ _ rfl rfl
  have append := same ⟨1, smallAppend [98] [50]⟩ (by simp) ⟨0, smallAppend [98] [50]⟩ (by simp) rfl
  exact ⟨disjoint, one, other, store, rfl, rfl, append⟩

end WideColumn.Pipeline
