import WideColumn.Proofs.Pipeline.Closing
import WideColumn.Proofs.Pipeline.Order
import WideColumn.Proofs.Pipeline.Schedule
import WideColumn.Proofs.Pipeline.Sequential

/-!
# One worker executes writes one at a time

A pool with a single worker that takes tasks in order of submission does nothing but execute the
accepted writes one at a time in order of acceptance. A write may be called for repeatedly, with
failures in between that leave the store alone, and it takes effect exactly if it resolves. After a
complete close the store is therefore the one that sequential execution yields, and every result is
what sequential execution answers at that point.
-/
namespace WideColumn.Pipeline

variable {β σ : Type}

/-- How far the single worker has come: what the store was called for, what was completed, what was
released, and what is in the store. -/
inductive Progress (start : Store) (calls : List Ticket) (done : List (Ticket × Outcome))
    (released : List Ticket) (store : Store) : List (Worker β) → Prop where
  /-- The worker is free. -/
  | idle (tried : Tries calls released) (listed : done.map Prod.fst = released)
    (executed : Executes start done store) : Progress start calls done released store []
  /-- The worker has called the store in vain so far. -/
  | calling {earlier : List Ticket} (task : Task) (number further : Nat)
    (tried : Tries earlier released) (again : calls = earlier ++ repeated number task)
    (listed : done.map Prod.fst = released) (executed : Executes start done store) :
    Progress start calls done released store [.calling task (number + 1) further]
  /-- The worker knows the outcome. -/
  | settling (task : Task) (outcome : Outcome)
    (tried : Tries calls (released ++ task.ticket?.toList)) (listed : done.map Prod.fst = released)
    (executed : Executes start (done ++ (task.ticket?.map (·, outcome)).toList) store) :
    Progress start calls done released store [.settling task outcome]
  /-- The worker has completed the task. -/
  | notifying (task : Task) (due : List (Notice β))
    (tried : Tries calls (released ++ task.ticket?.toList))
    (listed : done.map Prod.fst = released ++ task.ticket?.toList)
    (executed : Executes start done store) :
    Progress start calls done released store [.notifying task due]

/-- There is one worker at most. -/
theorem Progress.length_le {start store : Store} {calls released : List Ticket}
    {done : List (Ticket × Outcome)} {workers : List (Worker β)}
    (progress : Progress start calls done released store workers) : workers.length ≤ 1 := by
  cases progress with
  | idle => exact Nat.zero_le 1
  | calling | settling | notifying => exact Nat.le_refl 1

/-- A busy worker is the only one. -/
theorem Progress.alone {start store : Store} {calls released : List Ticket}
    {done : List (Ticket × Outcome)} {before after : List (Worker β)} {worker : Worker β}
    (progress : Progress start calls done released store (before ++ worker :: after)) :
    before = [] ∧ after = [] := by
  have few := progress.length_le
  rw [List.length_append, List.length_cons] at few
  exact ⟨List.length_eq_zero_iff.mp (by omega), List.length_eq_zero_iff.mp (by omega)⟩

variable {backend : Backend σ} {contents : σ → Store}

variable {s t : Pipeline β σ} {event : Event}

/-- The single worker gets on with one write after another. -/
theorem Progress.step (behind : backend.Over contents)
    (single : s.dispatcher.settings.concurrency.maxWorkers = 1) {start : Store}
    {calls released : List Ticket} {done : List (Ticket × Outcome)}
    (progress : Progress start calls done released (contents s.backend) s.workers)
    (step : Step backend s event t) :
    Progress start (calls ++ called [event]) (done ++ settled [event])
      (released ++ Pipeline.released [event]) (contents t.backend) t.workers := by
  -- What neither calls nor completes nor releases, and leaves the workers as they are.
  have unmoved (none_called : called [event] = []) (none_settled : settled [event] = [])
      (none_released : Pipeline.released [event] = [])
      (next : Progress start calls done released (contents t.backend) t.workers) :
      Progress start (calls ++ called [event]) (done ++ settled [event])
        (released ++ Pipeline.released [event]) (contents t.backend) t.workers := by
    rw [none_called, none_settled, none_released, List.append_nil, List.append_nil,
      List.append_nil]
    exact next
  cases step with
  | take task split free =>
    apply unmoved rfl rfl rfl
    have none_busy : s.workers = [] := by
      rw [single] at free
      exact List.length_eq_zero_iff.mp (by omega)
    rw [none_busy] at progress ⊢
    cases progress with
    | idle tried listed executed =>
      refine .calling task 0 _ tried ?_ listed executed
      unfold repeated
      cases task.ticket? with
      | none => exact (List.append_nil calls).symm
      | some write => exact (List.append_nil calls).symm
  | call task attempt further split =>
    rw [called_called, show settled [.called task _] = [] from rfl,
      show Pipeline.released [.called task _] = [] from rfl, List.append_nil, List.append_nil]
    rw [split] at progress
    obtain ⟨rfl, rfl⟩ := progress.alone
    cases progress with
    | @calling earlier _ number _ tried again listed executed =>
      have more : calls ++ task.ticket?.toList = earlier ++ repeated (number + 1) task := by
        rw [repeated_succ, again, List.append_assoc]
      rcases executed.attempt behind task with ⟨result, answer, effect⟩ | ⟨error, answer, effect⟩
      · rcases afterAttempt_cases (β := β) task (number + 1) further (.ok result) with
          ⟨_, same, worker⟩ | ⟨_, other, _⟩
        · cases same
          rw [answer, worker, more]
          exact .settling task (.ok result) (tried.task task number) listed effect
        · cases other
      · rcases afterAttempt_cases (β := β) task (number + 1) further (.error error) with
          ⟨_, other, _⟩ | ⟨_, _, ⟨last, worker⟩ | ⟨left, worker⟩⟩
        · cases other
        · rw [answer, worker, more, effect]
          refine .settling task (.error last) (tried.task task number) listed ?_
          cases task.ticket? with
          | none => simpa using executed
          | some write => exact executed.failed write last
        · rw [answer, worker, effect]
          exact .calling task (number + 1) left tried more listed executed
  | settle task outcome split =>
    rw [settled_settled, show called [.settled task outcome] = [] from rfl,
      show Pipeline.released [.settled task outcome] = [] from rfl, List.append_nil,
      List.append_nil]
    rw [split] at progress
    obtain ⟨rfl, rfl⟩ := progress.alone
    cases progress with
    | settling _ _ tried listed executed =>
      refine .notifying task _ tried ?_ executed
      rw [List.map_append, listed]
      cases task.ticket? <;> rfl
  | notify task notice rest split =>
    apply unmoved rfl rfl rfl
    rw [split] at progress
    obtain ⟨rfl, rfl⟩ := progress.alone
    cases progress with
    | notifying _ _ tried listed executed => exact .notifying task _ tried listed executed
  | release task split =>
    rw [released_single, show called [.released task] = [] from rfl,
      show settled [.released task] = [] from rfl, List.append_nil, List.append_nil,
      show Event.released? (.released task) = task.ticket? from rfl]
    rw [split] at progress
    obtain ⟨rfl, rfl⟩ := progress.alone
    cases progress with
    | notifying _ _ tried listed executed => exact .idle tried listed executed
  | deliver notice split => exact unmoved rfl rfl rfl progress
  | submit | letIn | turnAway | queue | flush | poll | close | expire | drain | finish | watch
  | group | advance =>
    exact unmoved rfl rfl rfl progress

/-- A single worker gets writes and gives them back in the same order. -/
theorem Moves.held_single {workers others : List (Worker β)} (moves : Moves workers event others)
    (few : workers.length ≤ 1) :
    Pipeline.held workers ++ taken [event] = Pipeline.released [event] ++ Pipeline.held others := by
  cases moves with
  | foreign isForeign =>
    obtain ⟨none_taken, _, _, none_released⟩ := histories_foreign isForeign
    rw [none_taken, none_released, List.append_nil, List.nil_append]
  | client subject => exact List.append_nil _
  | take position task further =>
    rw [held_middle, taken_took]
    show Pipeline.held workers ++ task.ticket?.toList =
      Pipeline.held workers ++ (task.ticket?.toList ++ [])
    rw [List.append_nil]
  | call task attempt further outcome =>
    rw [held_middle, held_middle, (Worker.afterAttempt_eq ..).1]
    exact List.append_nil _
  | settle task outcome due =>
    rw [held_middle, held_middle]
    exact List.append_nil _
  | notify task notice rest fresh =>
    rw [held_middle, held_middle]
    exact List.append_nil _
  | @release before after task =>
    rw [List.length_append, List.length_cons] at few
    obtain rfl : before = [] := List.length_eq_zero_iff.mp (by omega)
    rw [held_middle, released_single]
    exact List.append_nil _

/-- What holds in every state of a pipeline with a single worker: the accepted writes are those that
are released, then those with the worker, then those that wait. -/
structure Serial (settings : Settings) (start : Store) (contents : σ → Store) (trace : List Event)
    (s : Pipeline β σ) : Prop where
  /-- The settings are those of the beginning. -/
  settings : s.dispatcher.settings = settings
  /-- Nothing overtakes. -/
  order : accepted trace = released trace ++ s.executing ++ s.waiting
  /-- The worker gets on with one write after another. -/
  progress : Progress start (called trace) (settled trace) (released trace) (contents s.backend)
    s.workers

variable {settings : Settings} {clock : Clock} {state : σ} {trace : List Event}

/-- A single worker that takes tasks in order of submission keeps the order, in every run. -/
theorem Run.serial (behind : backend.Over contents)
    (single : settings.concurrency.maxWorkers = 1)
    (run : Run backend (start settings clock state) trace s)
    (inOrder : ∀ event ∈ trace, event.InOrder) :
    s.Serial settings (contents state) contents trace := by
  induction run with
  | nil => exact ⟨rfl, rfl, .idle .nil rfl .nil⟩
  | @snoc trace u v event earlier step ih =>
    obtain ⟨owned, orderly⟩ := earlier.owned
    have before := ih fun other present => inOrder other (List.mem_append_left _ present)
    have front := inOrder event (List.mem_append_right _ List.mem_cons_self)
    refine ⟨(step.changes orderly).settings.trans before.settings, ?_, ?_⟩
    · have line := step.waiting owned orderly front
      have hands := step.moves.held_single before.progress.length_le
      rw [accepted_append, accepted_single, released_append, before.order, List.append_assoc, line,
        ← List.append_assoc, List.append_assoc (Pipeline.released trace)]
      show Pipeline.released trace ++ (Pipeline.held u.workers ++ Pipeline.taken [event]) ++
          v.waiting =
        Pipeline.released trace ++ Pipeline.released [event] ++ Pipeline.held v.workers ++ v.waiting
      rw [hands, ← List.append_assoc]
    · rw [called_append, settled_append, released_append]
      apply before.progress.step behind _ step
      rw [before.settings, single]

/-- A single worker that takes tasks in order of submission, up to a complete close, calls the store
for the accepted writes in order of acceptance. All of them are then terminal. The store is the one
that results from executing those that resolved one at a time in order of acceptance, and each of
these resolved with what that execution answers at its place; an append with the cell that it writes
there. -/
theorem serial_execution (behind : backend.Over contents)
    (single : settings.concurrency.maxWorkers = 1)
    (run : Run backend (start settings clock state) trace s)
    (inOrder : ∀ event ∈ trace, event.InOrder) (finished : s.closing = .finished) :
    Tries (called trace) (accepted trace) ∧
      contents s.backend = (contents state).after (s.resolvedCalls (accepted trace)) ∧
      ∀ earlier write later, accepted trace = earlier ++ write :: later →
        ∃ outcome, s.outcome? write.deferred = some outcome ∧ ∀ result, outcome = .ok result →
          ∃ reply, (write.request.call.run
              ((contents state).after (s.resolvedCalls earlier))).1 = .ok reply ∧
            result = write.request.result reply ∧
            ∀ table key coordinate value, write.request = .append table key coordinate value →
              ∃ cell, (((contents state).after (s.resolvedCalls earlier)).append table key
                coordinate (.raw value)).1 = .ok cell ∧ result = .cells [cell] := by
  have serial := run.serial behind single inOrder
  obtain ⟨idle, none_queued, none_buffered⟩ := run.nothing_left finished
  have recorded : ∀ entry ∈ settled trace, s.outcome? entry.1.deferred = some entry.2 :=
    fun entry present => run.outcome_of_settled present
  have progress := serial.progress
  have order := serial.order
  unfold executing Pipeline.waiting at order
  rw [idle, none_queued, none_buffered] at order
  have all : accepted trace = released trace := by
    rw [order]
    simp
  rw [idle] at progress
  cases progress with
  | idle tried listed executed =>
    refine ⟨by rw [all]; exact tried, ?_, ?_⟩
    · rw [executed.store_eq, effective_eq recorded, listed, all]
    · intro earlier write later split
      rw [all, ← listed] at split
      obtain ⟨before, rest, whole, rfl, others⟩ := List.map_eq_append_iff.mp split
      obtain ⟨⟨same, outcome⟩, after, rfl, rfl, rfl⟩ := List.map_eq_cons_iff.mp others
      have here : (same, outcome) ∈ settled trace := by
        rw [whole]
        simp
      refine ⟨outcome, recorded _ here, ?_⟩
      intro result resolved
      obtain ⟨reply, answer, about⟩ := executed.answer whole result resolved
      have front : effective before = s.resolvedCalls (before.map Prod.fst) :=
        effective_eq fun entry present => recorded entry (by
          rw [whole]
          exact List.mem_append_left _ present)
      rw [front] at answer
      refine ⟨reply, answer, about, ?_⟩
      intro table key coordinate value appends
      rw [appends] at answer about
      have ran : ((((contents state).after (s.resolvedCalls (before.map Prod.fst))).append table
          key coordinate (.raw value)).1.map .cell : Except Error Store.Reply) = .ok reply := answer
      cases written : (((contents state).after (s.resolvedCalls (before.map Prod.fst))).append
          table key coordinate (.raw value)).1 with
      | error error =>
        rw [written] at ran
        cases ran
      | ok cell =>
        rw [written] at ran
        cases ran
        exact ⟨cell, rfl, about⟩

/-- A table with one column family, behind a script that fails the first call on a row. -/
def scripted : FaultyStore :=
  ⟨oneTable, [⟨[97], [.plain .backendUnavailable none], none⟩], []⟩

/-- A put to a column family that no table declares. -/
def strayPut (key : Bytes) : Request := .put [116] key ⟨[120], [113]⟩ [49]

/-- Two appends to a cell and a stray put between them, executed by a single worker and closed. -/
def appendsClosed : List Event × Pipeline Unit FaultyStore :=
  played FaultyStore.answer
    (start { manual with concurrency := ⟨1⟩, retry := RetrySettings.standard } ⟨.int 0⟩ scripted)
    ([.submit (smallAppend [97] [49]), .submit (strayPut [98]), .flush .explicit,
      .submit (smallAppend [97] [50]), .take 0, .work 0, .close] ++
      List.replicate 5 (.work 0) ++ [.take 0] ++ List.replicate 6 (.work 0) ++ [.take 0] ++
      List.replicate 5 (.work 0) ++ [.drain, .finish])

/-- The first append is tried twice and the stray put once, and the second append resolves with the
cell that both have written. -/
theorem serial_execution_of_appends :
    Run FaultyStore.answer
        (start { manual with concurrency := ⟨1⟩, retry := RetrySettings.standard } ⟨.int 0⟩ scripted)
        appendsClosed.1 appendsClosed.2 ∧
      (∀ event ∈ appendsClosed.1, event.InOrder) ∧ appendsClosed.2.closing = .finished ∧
      called appendsClosed.1 =
        [⟨0, smallAppend [97] [49]⟩, ⟨0, smallAppend [97] [49]⟩, ⟨1, strayPut [98]⟩,
          ⟨3, smallAppend [97] [50]⟩] ∧
      Tries (called appendsClosed.1) [⟨0, smallAppend [97] [49]⟩, ⟨1, strayPut [98]⟩,
        ⟨3, smallAppend [97] [50]⟩] ∧
      appendsClosed.2.backend.store = scripted.store.after
        [(smallAppend [97] [49]).call, (smallAppend [97] [50]).call] ∧
      appendsClosed.2.outcome? 3 = some (.ok (.cells [⟨[97], [102], [113], [49, 50], 2⟩])) := by
  have run : Run FaultyStore.answer _ appendsClosed.1 appendsClosed.2 := run_played rfl
  have inOrder : ∀ event ∈ appendsClosed.1, event.InOrder := by decide +kernel
  obtain ⟨tries, store, _⟩ := serial_execution FaultyStore.answer_over rfl run inOrder rfl
  exact ⟨run, inOrder, rfl, rfl, tries, store, rfl⟩

end WideColumn.Pipeline
