import WideColumn.Proofs.Pipeline.Changes
import WideColumn.Proofs.Pipeline.History

/-!
# The pool runs dry

Left to themselves, workers and callbacks come to an end: a task is taken once and tried a bounded
number of times, each callback runs once, and no callback of the pipeline's own makes more of them.
`work` is an upper bound for what is left to do. Every step that is not a client's makes it smaller,
and as long as something is queued or a worker is busy there is such a step.
-/
namespace WideColumn

variable {β σ : Type}

namespace Deferreds

/-- How many callbacks wait in the table. -/
def registrations (table : Deferreds β) : Nat :=
  (table.entries.flatMap Deferred.callbacks).length

/-- How many callbacks wait after one entry was changed. -/
theorem registrations_modify {table : Deferreds β} {id : DeferredId} {deferred : Deferred β}
    (found : table.get? id = some deferred) (change : Deferred β → Deferred β) :
    (table.modify id change).registrations + deferred.callbacks.length =
      table.registrations + (change deferred).callbacks.length := by
  obtain ⟨before, after, was, became⟩ := entries_modify found change
  unfold registrations
  rw [was, became]
  simp only [List.flatMap_append, List.flatMap_cons, List.length_append]
  omega

/-- A completion makes callbacks due that waited, one for one. -/
theorem registrations_complete {table after : Deferreds β} {id : DeferredId} {outcome : Outcome}
    {due : List (Notice β)} (done : table.complete id outcome = .ok (after, due)) :
    after.registrations + due.length = table.registrations := by
  unfold complete at done
  split at done
  · cases done
    rfl
  · rename_i deferred found
    split at done
    · cases done
    · cases done
      have moved := registrations_modify found
        fun d => { d with outcome := some outcome, callbacks := [] }
      unfold notices
      rw [List.length_map]
      exact moved

/-- Counting a member of a barrier makes callbacks due that waited, one for one. -/
theorem registrations_arrive {table after : Deferreds β} {barrier : DeferredId}
    {due : List (Notice β)} (arrived : table.arrive barrier = .ok (after, due)) :
    after.registrations + due.length = table.registrations := by
  cases about : table.fanIn? barrier with
  | none =>
    unfold fanIn? at about
    unfold arrive at arrived
    rw [about] at arrived
    cases arrived
    rfl
  | some fanIn =>
    obtain ⟨deferred, found, _⟩ := Option.bind_eq_some_iff.mp about
    have same : (table.counted barrier fanIn).registrations = table.registrations := by
      have moved := registrations_modify found
        fun d => { d with fanIn := some { fanIn with remaining := fanIn.remaining - 1 } }
      exact Nat.add_right_cancel moved
    rw [arrive_eq about] at arrived
    split at arrived
    · rw [← same]
      exact registrations_complete arrived
    · cases arrived
      exact same

/-- A callback makes others due only that waited. -/
theorem registrations_deliver (table : Deferreds β) (notice : Notice β) :
    (table.deliver notice).1.registrations + (table.deliver notice).2.1.length =
      table.registrations := by
  unfold deliver
  cases notice.callback with
  | member barrier =>
    cases arrived : table.arrive barrier with
    | ok reached =>
      simp only [arrived]
      exact registrations_arrive arrived
    | error error =>
      simp only [arrived]
      rfl
  | flushed reason batch => rfl
  | client scope body => rfl

end Deferreds

namespace Dispatcher

/-- Completing a task makes callbacks due only that waited. -/
theorem registrations_settle (task : Task) (outcome : Outcome) (dispatcher : Dispatcher β) :
    (dispatcher.settle task outcome).2.deferreds.registrations +
      (dispatcher.settle task outcome).1.length = dispatcher.deferreds.registrations := by
  unfold settle
  cases outcome with
  | ok result =>
    cases done : dispatcher.deferreds.complete task.deferred (.ok result) with
    | ok completed =>
      simp only [done]
      exact Deferreds.registrations_complete done
    | error error =>
      simp only [done]
      rfl
  | error error =>
    cases done : dispatcher.deferreds.complete task.deferred (.error error) with
    | ok completed =>
      simp only [log, done]
      exact Deferreds.registrations_complete done
    | error refused =>
      simp only [log, done]
      rfl

end Dispatcher

/-- The most steps that a worker has left with its task, callbacks apart: calls, the completion and
the release. -/
def Worker.effort : Worker β → Nat
  | calling _ _ further => further + 3
  | settling .. => 2
  | notifying .. => 1

@[simp] theorem Worker.effort_calling (task : Task) (attempt further : Nat) :
    (calling (β := β) task attempt further).effort = further + 3 := rfl

@[simp] theorem Worker.effort_settling (task : Task) (outcome : Outcome) :
    (settling (β := β) task outcome).effort = 2 := rfl

@[simp] theorem Worker.effort_notifying (task : Task) (due : List (Notice β)) :
    (notifying task due).effort = 1 := rfl

/-- After a call there is less to do. -/
theorem Worker.effort_afterAttempt (task : Task) (attempt further : Nat) (outcome : Outcome) :
    (afterAttempt (β := β) task attempt further outcome).1.effort < further + 3 := by
  unfold afterAttempt
  split
  · exact Nat.lt_add_left _ (Nat.lt_succ_self 2)
  · exact Nat.lt_succ_self 2
  · exact Nat.lt_succ_self _

/-- The most steps that workers have left, callbacks apart. -/
def efforts : List (Worker β) → Nat
  | [] => 0
  | worker :: rest => worker.effort + efforts rest

@[simp] theorem efforts_nil : efforts ([] : List (Worker β)) = 0 := rfl

@[simp] theorem efforts_cons (worker : Worker β) (rest : List (Worker β)) :
    efforts (worker :: rest) = worker.effort + efforts rest := rfl

@[simp] theorem efforts_append (workers others : List (Worker β)) :
    efforts (workers ++ others) = efforts workers + efforts others := by
  induction workers with
  | nil => exact (Nat.zero_add _).symm
  | cons worker rest ih => rw [List.cons_append, efforts_cons, efforts_cons, ih, Nat.add_assoc]

namespace Pipeline

/-- An upper bound for the steps that workers and callbacks can take without clients. -/
def work (s : Pipeline β σ) : Nat :=
  s.dispatcher.queue.length * (s.dispatcher.settings.retry.policy.further + 4) +
    efforts s.workers + s.allDue.length + s.dispatcher.deferreds.registrations

/-- Whether nothing is queued and no worker is busy. -/
def IsAtRest (s : Pipeline β σ) : Prop := s.dispatcher.queue = [] ∧ s.workers = []

/-- Whether nobody but workers and callbacks did anything. -/
def Alone (trace : List Event) : Prop := ∀ event ∈ trace, event.isForeign = false

/-- Where nothing happened, nobody did anything. -/
theorem alone_nil : Alone [] := fun _ listed => absurd listed List.not_mem_nil

/-- With one event more, nobody else did anything before and the event is nobody else's. -/
theorem alone_snoc {trace : List Event} {event : Event} (alone : Alone (trace ++ [event])) :
    Alone trace ∧ event.isForeign = false :=
  ⟨fun other listed => alone other (List.mem_append_left _ listed),
    alone event (List.mem_append_right _ List.mem_cons_self)⟩

variable {s t : Pipeline β σ} {backend : Backend σ} {event : Event}

/-- Every step of a worker and every callback leaves less to do. -/
theorem Step.work_lt (step : Step backend s event t) (alone : event.isForeign = false) :
    t.work < s.work := by
  cases step with
  | take task split free =>
    unfold work allDue
    simp only [split, List.length_append, List.length_cons, efforts_append, efforts_cons,
      efforts_nil, List.flatMap_append, List.flatMap_cons, List.flatMap_nil, Worker.effort_calling,
      Worker.due_calling, List.length_nil, Nat.add_mul, Nat.one_mul]
    omega
  | call task attempt further split =>
    have less := Worker.effort_afterAttempt (β := β) task attempt further
      (task.submission.execute backend task.filter s.backend).1
    have quiet := (Worker.afterAttempt_eq (β := β) task attempt further
      (task.submission.execute backend task.filter s.backend).1).2.2
    obtain ⟨journal, logged⟩ := s.dispatcher.logAny_eq
      (Worker.afterAttempt (β := β) task attempt further
        (task.submission.execute backend task.filter s.backend).1).2
    rw [logged]
    unfold work allDue
    simp only [split, efforts_append, efforts_cons, List.flatMap_append, List.flatMap_cons,
      List.length_append, quiet, Worker.due_calling, Worker.effort_calling]
    omega
  | settle task outcome split =>
    have moved := s.dispatcher.registrations_settle task outcome
    obtain ⟨deferreds, journal, settled, _⟩ := s.dispatcher.settle_frame task outcome
    rw [settled] at moved ⊢
    unfold work allDue
    simp only [split, efforts_append, efforts_cons, List.flatMap_append, List.flatMap_cons,
      List.length_append, Worker.due_settling, Worker.due_notifying, Worker.effort_settling,
      Worker.effort_notifying, List.length_nil] at moved ⊢
    omega
  | notify task notice rest split =>
    have moved := s.dispatcher.deferreds.registrations_deliver notice
    obtain ⟨journal, delivered⟩ := s.dispatcher.deliver_eq notice
    rw [delivered]
    unfold work allDue
    simp only [split, efforts_append, efforts_cons, List.flatMap_append, List.flatMap_cons,
      List.length_append, Worker.due_notifying, Worker.effort_notifying, List.length_cons]
      at moved ⊢
    omega
  | deliver notice split =>
    have moved := s.dispatcher.deferreds.registrations_deliver notice
    obtain ⟨journal, delivered⟩ := s.dispatcher.deliver_eq notice
    rw [delivered]
    unfold work allDue
    simp only [split, List.length_append, List.length_cons] at moved ⊢
    omega
  | release task split =>
    obtain ⟨inFlight, released⟩ := s.dispatcher.release_eq task
    rw [released]
    unfold work allDue
    simp only [split, efforts_append, efforts_cons, List.flatMap_append, List.flatMap_cons,
      List.length_append, Worker.due_notifying, Worker.effort_notifying, List.length_nil]
    omega
  | submit | letIn | turnAway | queue | flush | poll | close | expire | drain | finish | watch
  | group | advance => cases alone

/-- Workers and callbacks alone take no more steps than there is work. -/
theorem Run.length_le_work {later : List Event} (run : Run backend s later t)
    (alone : Alone later) : later.length + t.work ≤ s.work := by
  induction run with
  | nil => exact Nat.le_of_eq (Nat.zero_add _)
  | snoc earlier step ih =>
    obtain ⟨before, last⟩ := alone_snoc alone
    have sofar := ih before
    have less := step.work_lt last
    rw [List.length_append, List.length_singleton]
    omega

/-- As long as something is queued or a worker is busy, somebody can go on. -/
theorem exists_step (backend : Backend σ)
    (workers : 0 < s.dispatcher.settings.concurrency.maxWorkers) (busy : ¬ s.IsAtRest) :
    ∃ event t, event.isForeign = false ∧ Step backend s event t := by
  cases found : s.workers with
  | cons worker rest =>
    have split : s.workers = [] ++ worker :: rest := found
    cases worker with
    | calling task attempt further => exact ⟨_, _, rfl, .call task attempt further split⟩
    | settling task outcome => exact ⟨_, _, rfl, .settle task outcome split⟩
    | notifying task due =>
      cases due with
      | nil => exact ⟨_, _, rfl, .release task split⟩
      | cons notice later => exact ⟨_, _, rfl, .notify task notice later split⟩
  | nil =>
    cases waits : s.dispatcher.queue with
    | nil => exact absurd ⟨waits, found⟩ busy
    | cons task rest =>
      have split : s.dispatcher.queue = [] ++ task :: rest := waits
      have free : (s.workers.length : Int) < s.dispatcher.settings.concurrency.maxWorkers := by
        rw [found]
        exact workers
      exact ⟨_, _, rfl, .take task split free⟩

/-- Workers and callbacks neither buffer nor close anything. -/
theorem Changes.alone {d d' : Dispatcher β} (changes : Changes d event d')
    (alone : event.isForeign = false) : d'.buffer = d.buffer ∧ d'.isClosed = d.isClosed := by
  cases changes with
  | silent | took => exact ⟨rfl, rfl⟩
  | released task =>
    obtain ⟨inFlight, released⟩ := d.release_eq task
    rw [released]
    exact ⟨rfl, rfl⟩
  | shutDown ends => rcases ends with rfl | rfl <;> cases alone
  | buffered | triggered | flushed | evaluated | polled | closed | again | queued => cases alone

/-- However long workers and callbacks go on alone, they neither buffer nor close anything. -/
theorem Run.alone {later : List Event} (run : Run backend s later t) (orderly : s.Orderly)
    (alone : Alone later) :
    t.dispatcher.buffer = s.dispatcher.buffer ∧ t.dispatcher.isClosed = s.dispatcher.isClosed := by
  induction run with
  | nil => exact ⟨rfl, rfl⟩
  | snoc earlier step ih =>
    obtain ⟨before, last⟩ := alone_snoc alone
    obtain ⟨buffer, isClosed⟩ := ih before
    have changes := step.changes (earlier.grows orderly).2
    exact ⟨(changes.alone last).1.trans buffer, (changes.alone last).2.trans isClosed⟩

/-- Settings never change. -/
theorem Run.settings {later : List Event} (run : Run backend s later t) (orderly : s.Orderly) :
    t.dispatcher.settings = s.dispatcher.settings := by
  induction run with
  | nil => rfl
  | snoc earlier step ih => exact (step.changes (earlier.grows orderly).2).settings.trans ih

/-- Left to themselves, workers and callbacks come to rest: they do not go on for ever, and they can
go on until nothing is queued and no worker is busy. -/
structure RunsDry (backend : Backend σ) (s : Pipeline β σ) : Prop where
  /-- They do not go on for ever. -/
  bounded : ∃ most, ∀ {later : List Event} {t : Pipeline β σ}, Run backend s later t →
    Alone later → later.length ≤ most
  /-- They can go on until nothing is queued and no worker is busy. -/
  onward : ∀ {later : List Event} {t : Pipeline β σ}, Run backend s later t → Alone later →
    t.IsAtRest ∨ ∃ event u, event.isForeign = false ∧ Step backend t event u

/-- A pool that has a worker runs dry. -/
theorem Orderly.runsDry (orderly : s.Orderly)
    (workers : 0 < s.dispatcher.settings.concurrency.maxWorkers) : s.RunsDry backend := by
  constructor
  · refine ⟨s.work, fun run alone => ?_⟩
    have total := run.length_le_work alone
    omega
  · intro later t run alone
    by_cases rest : t.IsAtRest
    · exact .inl rest
    · rw [← run.settings orderly] at workers
      exact .inr (exists_step backend workers rest)

/-- From every state a pool that has a worker can come to rest without clients. -/
theorem Orderly.exists_rest {s : Pipeline β σ} (orderly : s.Orderly) (backend : Backend σ)
    (workers : 0 < s.dispatcher.settings.concurrency.maxWorkers) :
    ∃ later t, Run backend s later t ∧ Alone later ∧ t.IsAtRest := by
  by_cases rest : s.IsAtRest
  · exact ⟨[], s, .nil, alone_nil, rest⟩
  · obtain ⟨event, u, alone, step⟩ := exists_step backend workers rest
    have less := step.work_lt alone
    rw [← (step.changes orderly).settings] at workers
    obtain ⟨later, t, run, others, rest⟩ := (orderly.step step).exists_rest backend workers
    refine ⟨[event] ++ later, t, (Run.single step).append run, ?_, rest⟩
    intro other listed
    rcases List.mem_cons.mp listed with rfl | listed
    · exact alone
    · exact others other listed
termination_by s.work

end Pipeline
end WideColumn
