import WideColumn.Proofs.Execution
import WideColumn.Proofs.Pipeline.Rest
import WideColumn.Proofs.Pipeline.Schedule

/-!
# The outcome of one request

A worker calls the store for one request until it answers, fails for good or has been tried often
enough, and then completes the deferred result of the request once. Seen from one deferred result,
a run is a dialogue: the answers of the store to the calls for it, in order. They alone decide its
outcome, whatever else goes on between the calls.
-/
namespace WideColumn.Pipeline

variable {β σ : Type} {id : DeferredId}

/-! ## What is seen of one deferred result -/

namespace Event

/-- The task for a deferred result that a worker took. -/
def tookFor? (id : DeferredId) : Event → Option Task
  | took _ task => if task.deferred = id then some task else none
  | _ => none

/-- The outcome that a worker completed a deferred result with. -/
def settlement? (id : DeferredId) : Event → Option Outcome
  | settled task outcome => if task.deferred = id then some outcome else none
  | _ => none

/-- What the store answers if a worker calls it for a deferred result. -/
def answer? (backend : Backend σ) (state : σ) (id : DeferredId) :
    Event → Option (Except Error Store.Reply)
  | called task _ =>
    match task.submission with
    | .request request =>
      if task.deferred = id then some (backend (request.toCall task.filter) state).1 else none
    | _ => none
  | _ => none

/-- A call for another deferred result is not seen. -/
theorem answer?_of_ne {task : Task} (other : task.deferred ≠ id) (outcome : Outcome)
    (backend : Backend σ) (state : σ) :
    answer? backend state id (called task outcome) = none := by
  simp only [answer?]
  cases task.submission with
  | request request => exact if_neg other
  | lookalike | value => rfl

end Event

/-- The outcomes that workers completed a deferred result with, in order. -/
def settlements (id : DeferredId) (trace : List Event) : List Outcome :=
  trace.filterMap (Event.settlement? id)

/-- Steps one after another, with what the store answered to the calls for one deferred result. -/
inductive Dialogue (backend : Backend σ) (id : DeferredId) (s : Pipeline β σ) :
    List Event → List (Except Error Store.Reply) → Pipeline β σ → Prop where
  /-- No step. -/
  | nil : Dialogue backend id s [] [] s
  /-- A step more, with an answer more if the store is called for the deferred result. -/
  | snoc {trace : List Event} {answers : List (Except Error Store.Reply)} {t u : Pipeline β σ}
    {event : Event} (earlier : Dialogue backend id s trace answers t)
    (step : Step backend t event u) :
    Dialogue backend id s (trace ++ [event])
      (answers ++ (event.answer? backend t.backend id).toList) u

variable {backend : Backend σ} {s t : Pipeline β σ} {event : Event}
  {trace : List Event} {answers : List (Except Error Store.Reply)}

/-- A dialogue is a run. -/
theorem Dialogue.run (dialogue : Dialogue backend id s trace answers t) :
    Run backend s trace t := by
  induction dialogue with
  | nil => exact .nil
  | snoc _ step ih => exact .snoc ih step

/-- Every run is a dialogue on every deferred result. -/
theorem Run.dialogue (run : Run backend s trace t) (id : DeferredId) :
    ∃ answers, Dialogue backend id s trace answers t := by
  induction run with
  | nil => exact ⟨[], .nil⟩
  | snoc _ step ih =>
    obtain ⟨answers, earlier⟩ := ih
    exact ⟨_, .snoc earlier step⟩

/-- A dialogue after a dialogue. -/
theorem Dialogue.append {u : Pipeline β σ} {later : List Event}
    {others : List (Except Error Store.Reply)} (first : Dialogue backend id s trace answers t)
    (second : Dialogue backend id t later others u) :
    Dialogue backend id s (trace ++ later) (answers ++ others) u := by
  induction second with
  | nil =>
    rw [List.append_nil, List.append_nil]
    exact first
  | snoc _ step ih =>
    rw [← List.append_assoc, ← List.append_assoc]
    exact .snoc ih step

/-- What the store answers to the calls for one deferred result while a schedule is played. -/
def heard (backend : Backend σ) (id : DeferredId) :
    Pipeline β σ → List (Action β) → List (Except Error Store.Reply)
  | _, [] => []
  | s, action :: rest =>
    match perform backend s action with
    | none => []
    | some (event, t) => (event.answer? backend s.backend id).toList ++ heard backend id t rest

/-- What a schedule plays is a dialogue. -/
theorem dialogue_of_play {actions : List (Action β)}
    (played : play backend s actions = some (trace, t)) :
    Dialogue backend id s trace (heard backend id s actions) t := by
  induction actions generalizing s trace with
  | nil =>
    cases played
    exact .nil
  | cons action rest ih =>
    simp only [play] at played
    split at played
    · cases played
    · rename_i event u done
      obtain ⟨⟨events, v⟩, others, same⟩ := Option.map_eq_some_iff.mp played
      cases same
      simp only [heard, done]
      exact (Dialogue.snoc .nil (step_of_perform done)).append (ih others)

/-! ## The worker of one deferred result -/

/-- The workers that are busy with the task for a deferred result. -/
def busyWith (id : DeferredId) (workers : List (Worker β)) : List (Worker β) :=
  workers.filter fun worker => worker.task.deferred = id

/-- Workers with other tasks do not matter. -/
theorem busyWith_other {before after others : List (Worker β)}
    (other : ∀ worker ∈ others, worker.task.deferred ≠ id) :
    busyWith id (before ++ (others ++ after)) = busyWith id (before ++ after) := by
  have none_busy : busyWith id others = [] :=
    List.filter_eq_nil_iff.mpr fun worker listed same =>
      other worker listed (of_decide_eq_true same)
  unfold busyWith at none_busy ⊢
  simp only [List.filter_append, none_busy, List.nil_append]

/-- A worker with the task is the only one, and so is whoever stands in its place. -/
theorem busyWith_same {before after : List (Worker β)} {worker : Worker β}
    (distinct : ((before ++ worker :: after).map fun other => other.task.deferred).Nodup)
    {next : List (Worker β)}
    (keeps : ∀ other ∈ next, other.task.deferred = worker.task.deferred) :
    busyWith worker.task.deferred (before ++ (next ++ after)) = next := by
  have moved : ((before ++ worker :: after).map fun other => other.task.deferred).Perm
      (worker.task.deferred :: (before ++ after).map fun other => other.task.deferred) :=
    List.perm_middle.map _
  have absent := (List.nodup_cons.mp (moved.nodup_iff.mp distinct)).1
  have others : busyWith worker.task.deferred (before ++ after) = [] := by
    refine List.filter_eq_nil_iff.mpr fun other listed equal => absent ?_
    rw [← of_decide_eq_true equal]
    exact List.mem_map_of_mem listed
  have all : busyWith worker.task.deferred next = next :=
    List.filter_eq_self.mpr fun other listed => decide_eq_true (keeps other listed)
  unfold busyWith at others all ⊢
  rw [List.filter_append] at others
  obtain ⟨early, late⟩ := List.append_eq_nil_iff.mp others
  rw [List.filter_append, List.filter_append, early, all, late, List.nil_append, List.append_nil]

/-- How far the task for one deferred result has come: the worker that is busy with it, whether it
was taken, what the store answered, and what the deferred result was completed with. -/
inductive Headway (limit : Nat) : List (Worker β) → List Task → List (Except Error Store.Reply) →
    List Outcome → Prop where
  /-- No worker has taken it. -/
  | waiting : Headway limit [] [] [] []
  /-- All calls so far failed and were worth another attempt. -/
  | calling (task : Task) {further : Nat} {failures : List Error}
    (passing : ∀ failure ∈ failures, failure.MayPass)
    (left : failures.length + 1 + further = limit) :
    Headway limit [.calling task (failures.length + 1) further] [task] (failures.map .error) []
  /-- The answers have decided the outcome. -/
  | settling (task : Task) {outcome : Outcome} {answers : List (Except Error Store.Reply)}
    (decides : ∀ request, task.submission = .request request →
      request.Decides limit answers outcome) :
    Headway limit [.settling task outcome] [task] answers []
  /-- The worker has completed the deferred result. -/
  | notifying (task : Task) (due : List (Notice β)) {outcome : Outcome}
    {answers : List (Except Error Store.Reply)}
    (decides : ∀ request, task.submission = .request request →
      request.Decides limit answers outcome) :
    Headway limit [.notifying task due] [task] answers [outcome]
  /-- The worker has released the task. -/
  | released (task : Task) {outcome : Outcome} {answers : List (Except Error Store.Reply)}
    (decides : ∀ request, task.submission = .request request →
      request.Decides limit answers outcome) :
    Headway limit [] [task] answers [outcome]

namespace Headway

variable {limit : Nat}

/-- A call for a request brings its worker to the next attempt or to an outcome. -/
theorem call_request {request : Request} {deferred : DeferredId} {filter : Option Store.Filter}
    {state : σ} {further : Nat} {failures : List Error}
    (passing : ∀ failure ∈ failures, failure.MayPass)
    (left : failures.length + 1 + further = limit) :
    Headway (β := β) limit
      [(Worker.afterAttempt ⟨request, deferred, filter⟩ (failures.length + 1) further
        ((request : Submission).execute backend filter state).1).1] [⟨request, deferred, filter⟩]
      (failures.map .error ++ [(backend (request.toCall filter) state).1]) [] := by
  have few : failures.length < limit := by omega
  cases answered : (backend (request.toCall filter) state).1 with
  | ok reply =>
    rw [Submission.execute_ok answered, Worker.afterAttempt_ok]
    refine .settling _ fun other same => ?_
    cases same
    exact .resolved passing few reply
  | error error =>
    obtain ⟨reported, told, reports⟩ := Submission.execute_error answered
    obtain ⟨isFailed, flagged⟩ := reports.flagged
    have transient := Error.isTransient_of_failed isFailed
    rw [told]
    by_cases passes : error.MayPass
    · rw [flagged.2 passes] at transient
      cases further with
      | zero =>
        rw [Worker.afterAttempt_last _ _ transient]
        refine .settling _ fun other same => ?_
        cases same
        simp only [Retry.exhaust, isFailed, ↓reduceIte, left]
        exact .exhausted passing left passes reports
      | succ further =>
        rw [Worker.afterAttempt_again _ _ _ transient]
        have more : (failures ++ [error]).length + 1 + further = limit := by
          rw [List.length_append, List.length_singleton]
          omega
        have again : ∀ failure ∈ failures ++ [error], failure.MayPass :=
          List.forall_mem_append.mpr ⟨passing, List.forall_mem_singleton.mpr passes⟩
        simpa using Headway.calling ⟨request, deferred, filter⟩ again more
    · have lasting : reported.isTransient = false := by
        rw [transient, Bool.eq_false_iff, Ne, flagged]
        exact passes
      rw [Worker.afterAttempt_lasting _ _ _ lasting]
      refine .settling _ fun other same => ?_
      cases same
      exact .refused passing few passes reports

/-- A call brings the worker of the task to the next attempt or to an outcome. -/
theorem call (task : Task) {state : σ} {further : Nat} {failures : List Error}
    (passing : ∀ failure ∈ failures, failure.MayPass)
    (left : failures.length + 1 + further = limit) :
    let outcome := (task.submission.execute backend task.filter state).1
    Headway (β := β) limit
      [(Worker.afterAttempt task (failures.length + 1) further outcome).1] [task]
      (failures.map .error ++
        ((Event.called task outcome).answer? backend state task.deferred).toList) [] := by
  obtain ⟨submission, deferred, filter⟩ := task
  cases submission with
  | request request =>
    simp only [Event.answer?, ↓reduceIte]
    exact call_request passing left
  | lookalike | value =>
    -- Only requests are executed.
    simp only [Submission.execute, Event.answer?]
    rw [Worker.afterAttempt_lasting _ _ _ rfl]
    exact .settling _ nofun

/-- A worker gets on with its task or is done with it. -/
theorem move {before after : List (Worker β)} {worker : Worker β} {took : List Task}
    (next : List (Worker β)) {more : List (Except Error Store.Reply)} {done also : List Outcome}
    (headway : Headway limit (busyWith id (before ++ worker :: after)) took answers done)
    (distinct : ((before ++ worker :: after).map fun other => other.task.deferred).Nodup)
    (keeps : ∀ other ∈ next, other.task.deferred = worker.task.deferred)
    (here : worker.task.deferred = id → Headway limit [worker] took answers done →
      Headway limit next took (answers ++ more) (done ++ also))
    (elsewhere : worker.task.deferred ≠ id → more = [] ∧ also = []) :
    Headway limit (busyWith id (before ++ (next ++ after))) took (answers ++ more)
      (done ++ also) := by
  have alone : ∀ other ∈ [worker], other.task.deferred = worker.task.deferred := by simp
  by_cases same : worker.task.deferred = id
  · subst same
    rw [busyWith_same distinct keeps]
    apply here rfl
    rwa [← busyWith_same distinct alone]
  · obtain ⟨rfl, rfl⟩ := elsewhere same
    have others : ∀ other ∈ next, other.task.deferred ≠ id := by
      intro other listed
      rw [keeps other listed]
      exact same
    rw [List.append_nil, List.append_nil, busyWith_other others]
    rwa [← @busyWith_other _ _ _ _ [worker] (by simpa using same)]

/-- One step takes the task for a deferred result further, or leaves it where it is. -/
theorem step {took : List Task} {done : List Outcome}
    (headway : Headway limit (busyWith id s.workers) took answers done)
    (distinct : (s.workers.map fun worker => worker.task.deferred).Nodup)
    (fresh : ∀ task ∈ s.dispatcher.queue, task.deferred = id →
      busyWith id s.workers = [] ∧ done = [])
    (attempts : s.dispatcher.settings.retry.policy.further + 1 = limit)
    (step : Step backend s event t) :
    Headway limit (busyWith id t.workers) (took ++ (event.tookFor? id).toList)
      (answers ++ (event.answer? backend s.backend id).toList)
      (done ++ (event.settlement? id).toList) := by
  cases step with
  | @take before after task split free =>
    by_cases same : task.deferred = id
    · obtain ⟨idle, rfl⟩ := fresh task (split ▸ List.mem_append_cons_self) same
      rw [idle] at headway
      cases headway with
      | waiting =>
        have none_failed : ∀ failure ∈ ([] : List Error), failure.MayPass := nofun
        have new := Headway.calling (β := β) task none_failed ((Nat.add_comm _ _).trans attempts)
        unfold busyWith at idle ⊢
        simpa [Event.tookFor?, Event.answer?, Event.settlement?, same, idle] using new
    · simpa [busyWith, Event.tookFor?, Event.answer?, Event.settlement?, same] using headway
  | @call before after task attempt further split =>
    rw [split] at headway distinct
    simp only [Event.tookFor?, Option.toList_none, List.append_nil took]
    refine headway.move [_] distinct ?_ ?_ ?_
    · exact List.forall_mem_singleton.mpr (congrArg Task.deferred (Worker.afterAttempt_eq ..).1)
    · rintro rfl here
      cases here with
      | calling task passing left => exact call task passing left
    · intro other
      exact ⟨congrArg Option.toList (Event.answer?_of_ne other _ backend s.backend), rfl⟩
  | @settle before after task outcome split =>
    rw [split] at headway distinct
    simp only [Event.tookFor?, Option.toList_none, List.append_nil took]
    refine headway.move [_] distinct (List.forall_mem_singleton.mpr rfl) ?_ ?_
    · rintro rfl here
      cases here with
      | settling task decides =>
        simpa [Event.answer?, Event.settlement?] using Headway.notifying task _ decides
    · intro other
      exact ⟨rfl, congrArg Option.toList (if_neg other)⟩
  | @notify before after task notice rest split =>
    rw [split] at headway distinct
    simp only [Event.tookFor?, Option.toList_none, List.append_nil took]
    refine headway.move [_] distinct (List.forall_mem_singleton.mpr rfl) ?_ fun _ => ⟨rfl, rfl⟩
    rintro rfl here
    cases here with
    | notifying task due decides =>
      simpa [Event.answer?, Event.settlement?] using Headway.notifying task _ decides
  | @release before after task split =>
    rw [split] at headway distinct
    simp only [Event.tookFor?, Option.toList_none, List.append_nil took]
    refine headway.move [] distinct nofun ?_ fun _ => ⟨rfl, rfl⟩
    rintro rfl here
    cases here with
    | notifying task due decides =>
      simpa [Event.answer?, Event.settlement?] using Headway.released task decides
  | submit | letIn | turnAway | queue | flush | poll | close | expire | drain | finish | watch
  | group | advance | deliver =>
    simp only [Event.tookFor?, Event.answer?, Event.settlement?, Option.toList_none,
      List.append_nil]
    exact headway

/-- A request that was taken is with a worker that has not completed it, or was completed once as
the answers decide. -/
theorem fate {own : List (Worker β)} {took : List Task} {done : List Outcome}
    (headway : Headway limit own took answers done) {task : Task} (taken : task ∈ took)
    {request : Request} (described : task.submission = .request request) :
    (done = [] ∧ (∃ worker ∈ own, worker.isSettled = false) ∧
        (Inconclusive limit answers ∨ ∃ outcome, request.Decides limit answers outcome)) ∨
      ∃ outcome, done = [outcome] ∧ request.Decides limit answers outcome := by
  cases headway with
  | waiting => cases taken
  | calling other passing left =>
    exact .inl ⟨rfl, ⟨_, List.mem_cons_self, rfl⟩, .inl ⟨_, rfl, by omega, passing⟩⟩
  | settling other decides =>
    obtain rfl := List.mem_singleton.mp taken
    exact .inl ⟨rfl, ⟨_, List.mem_cons_self, rfl⟩, .inr ⟨_, decides request described⟩⟩
  | notifying other due decides =>
    obtain rfl := List.mem_singleton.mp taken
    exact .inr ⟨_, rfl, decides request described⟩
  | released other decides =>
    obtain rfl := List.mem_singleton.mp taken
    exact .inr ⟨_, rfl, decides request described⟩

end Headway

/-! ## In a run -/

variable {settings : Settings} {clock : Clock} {store : σ}

/-- No two workers are busy for one deferred result, and none is while its task waits. -/
theorem Owned.apart {accepted released : List Ticket} (owned : s.Owned accepted released) :
    (s.workers.map fun worker => worker.task.deferred).Nodup ∧
      ∀ task ∈ s.dispatcher.queue, busyWith task.deferred s.workers = [] := by
  have distinct := (List.nodup_append.mp owned.custody.distinct).1
  rw [holdings_tasks, tasks, List.map_append, List.map_map] at distinct
  obtain ⟨workers, -, apart⟩ := List.nodup_append.mp distinct
  refine ⟨workers, fun task waits => List.filter_eq_nil_iff.mpr fun worker busy same => ?_⟩
  exact apart _ (List.mem_map_of_mem busy) _ (List.mem_map_of_mem waits) (of_decide_eq_true same)

/-- What a deferred result was completed with is its outcome. -/
theorem Run.outcome_of_mem (run : Run backend (start settings clock store) trace s)
    {outcome : Outcome} (present : outcome ∈ settlements id trace) :
    s.outcome? id = some outcome := by
  obtain ⟨event, listed, seen⟩ := List.mem_filterMap.mp present
  cases event with
  | settled task other =>
    obtain ⟨rfl, same⟩ := Option.ite_none_right_eq_some.mp seen
    cases same
    exact run.outcome_of_completion listed
  | submitted | admitted | queued | flushed | polled | closing | expired | drained | closed
  | watched | grouped | advanced | took | called | delivered | released => cases seen

/-- Only a pool with a worker takes tasks. -/
theorem Run.hasWorker (run : Run backend (start settings clock store) trace s) {position : Nat}
    {task : Task} (took : .took position task ∈ trace) : 0 < settings.concurrency.maxWorkers := by
  induction run with
  | nil => cases took
  | @snoc trace u v event earlier step ih =>
    rcases List.mem_append.mp took with older | new
    · exact ih older
    · obtain rfl := List.mem_singleton.mp new
      have same := earlier.settings (orderly_start settings clock store)
      cases step with
      | take task split free =>
        rw [same] at free
        exact Int.lt_of_le_of_lt (Int.natCast_nonneg _) free

/-- In every dialogue the task for the deferred result has come this far. -/
theorem Dialogue.headway {limit : Nat} (attempts : settings.retry.policy.further + 1 = limit)
    (dialogue : Dialogue backend id (start settings clock store) trace answers s) :
    Headway limit (busyWith id s.workers) (trace.filterMap (Event.tookFor? id)) answers
      (settlements id trace) := by
  induction dialogue with
  | nil => exact .waiting
  | @snoc trace answers u v event earlier step ih =>
    obtain ⟨owned, orderly⟩ := earlier.run.owned
    obtain ⟨distinct, apart⟩ := owned.apart
    have same := earlier.run.settings (orderly_start settings clock store)
    have next := ih.step distinct (fun task waits equal => ?_) (by rw [same]; exact attempts) step
    · unfold settlements
      rw [filterMap_middle, filterMap_middle, List.filterMap_nil, List.append_nil,
        List.filterMap_nil, List.append_nil]
      exact next
    · subst equal
      refine ⟨apart task waits, List.eq_nil_iff_forall_not_mem.mpr fun outcome present => ?_⟩
      cases (earlier.run.outcome_of_mem present).symm.trans (owned.backed.waits waits)

/-- How a request that a worker took fares. -/
structure Served (s : Pipeline β σ) (backend : Backend σ) (request : Request) (limit : Nat)
    (id : DeferredId) (trace : List Event) (answers : List (Except Error Store.Reply)) :
    Prop where
  /-- While its deferred result is pending, nobody has completed it, and a worker is busy. The store
  is called as long as it fails in ways that are worth another attempt and attempts are left. -/
  pending : s.outcome? id = none → settlements id trace = [] ∧ s.workers ≠ [] ∧
    (Inconclusive limit answers ∨ ∃ outcome, request.Decides limit answers outcome)
  /-- Its deferred result is completed once, with the one outcome that the answers decide. -/
  completed : ∀ outcome, s.outcome? id = some outcome → settlements id trace = [outcome] ∧
    ∀ other, request.Decides limit answers other ↔ other = outcome
  /-- No error that its caller gets is flagged as worth another attempt. -/
  lasting : ∀ error, s.outcome? id = some (.error error) → error.retryable = false
  /-- Workers do not go on for ever, and can go on until none is busy. -/
  ends : s.RunsDry backend

/-- However many clients and workers there are, the store is called for a request that a worker
took until it answers, fails for good or has been tried as often as the settings say, and what it
answered to these calls decides alone what the request's deferred result is completed with, once. -/
theorem request_outcome {limit : Nat} (bound : settings.retry.maxAttempts = limit)
    (positive : 0 < limit)
    (dialogue : Dialogue backend id (start settings clock store) trace answers s)
    {position : Nat} {request : Request} {filter : Option Store.Filter}
    (took : .took position ⟨request, id, filter⟩ ∈ trace) :
    s.Served backend request limit id trace answers := by
  have attempts : settings.retry.policy.further + 1 = limit := by
    unfold RetrySettings.policy RetryPolicy.further
    simp only [bound]
    omega
  have run := dialogue.run
  obtain ⟨owned, orderly⟩ := run.owned
  have taken : (⟨request, id, filter⟩ : Task) ∈ trace.filterMap (Event.tookFor? id) :=
    List.mem_filterMap.mpr ⟨_, took, if_pos rfl⟩
  have workers : 0 < s.dispatcher.settings.concurrency.maxWorkers := by
    rw [run.settings (orderly_start settings clock store)]
    exact run.hasWorker took
  have ends : s.RunsDry backend := orderly.runsDry workers
  rcases (dialogue.headway attempts).fate taken rfl with
    ⟨none_done, ⟨worker, busy, unsettled⟩, calls⟩ | ⟨outcome, once, decides⟩
  · obtain ⟨present, same⟩ := List.mem_filter.mp busy
    obtain rfl := of_decide_eq_true same
    have pending : s.outcome? worker.task.deferred = none :=
      owned.backed.busy (List.mem_map.mpr ⟨worker, present, by rw [unsettled]⟩)
    refine ⟨fun _ => ⟨none_done, List.ne_nil_of_mem present, calls⟩, ?_, ?_, ends⟩
    · intro outcome done
      cases pending.symm.trans done
    · intro error done
      cases pending.symm.trans done
  · have done : s.outcome? id = some outcome := by
      apply run.outcome_of_mem
      rw [once]
      exact List.mem_cons_self
    refine ⟨?_, ?_, ?_, ends⟩
    · intro pending
      cases done.symm.trans pending
    · intro other also
      obtain rfl := Option.some.inj (done.symm.trans also)
      exact ⟨once, fun other => ⟨fun others => others.unique decides, fun same => same ▸ decides⟩⟩
    · intro error failed
      obtain rfl := Option.some.inj (done.symm.trans failed)
      exact decides.lasting

/-- Settings without triggers and with three attempts for each call. -/
def insistent : Settings := { manual with retry := RetrySettings.standard }

/-- A table with one column family, behind a script that fails the first two calls on a row. -/
def troubled : FaultyStore :=
  ⟨oneTable, [⟨[97], [.plain .backendUnavailable none, .flagged .general [] true], none⟩], []⟩

/-- An append to that row is tried three times, and a put to another row comes between. -/
def appendThenPut : List (Action Unit) :=
  [.submit (smallAppend [97] [49]), .submit (smallPut [98]), .flush .explicit, .take 0, .take 0,
    .work 0, .work 1, .work 0, .work 0, .work 0]

/-- What becomes of both. -/
def retried : List Event × Pipeline Unit FaultyStore :=
  played FaultyStore.answer (start insistent ⟨.int 0⟩ troubled) appendThenPut

/-- What the store answers to the calls for the append. -/
def outages : List (Except Error Store.Reply) :=
  [.error (.plain .backendUnavailable none), .error (.flagged .general [] true),
    .ok (.cell ⟨[97], [102], [113], [49], 2⟩)]

/-- The append is served: it resolves on its last attempt, with the cell that it wrote. -/
theorem request_outcome_after_outages :
    insistent.retry.maxAttempts = 3 ∧
      Dialogue FaultyStore.answer 0 (start insistent ⟨.int 0⟩ troubled)
        retried.1 outages retried.2 ∧
      .took 0 ⟨smallAppend [97] [49], 0, none⟩ ∈ retried.1 ∧
      retried.2.Served FaultyStore.answer (smallAppend [97] [49]) 3 0 retried.1 outages ∧
      retried.2.outcome? 0 = some (.ok (.cells [⟨[97], [102], [113], [49], 2⟩])) := by
  have possible : play FaultyStore.answer (start insistent ⟨.int 0⟩ troubled) appendThenPut =
      some (retried.1, retried.2) := rfl
  have dialogue : Dialogue FaultyStore.answer 0 (start insistent ⟨.int 0⟩ troubled)
      retried.1 outages retried.2 := dialogue_of_play possible
  have took : .took 0 ⟨smallAppend [97] [49], 0, none⟩ ∈ retried.1 :=
    List.mem_of_getElem? (i := 3) rfl
  exact ⟨rfl, dialogue, took, request_outcome rfl (by decide) dialogue took, rfl⟩

end WideColumn.Pipeline
