import WideColumn.Proofs.Pipeline.Custody
import WideColumn.Proofs.Store.Writes

/-!
# Executing writes one at a time

The plain way to execute writes: one after another, each tried until it resolves or is given up. A
write that is given up has no effect, so the store afterwards is the store after the calls of those
that resolved, and each of these resolved with what the store answered at its place.
-/
namespace WideColumn.Pipeline

variable {β σ : Type}

/-- Calls that try writes one after another, each at least once. -/
inductive Tries : List Ticket → List Ticket → Prop where
  /-- No call tries no write. -/
  | nil : Tries [] []
  /-- The next write is tried once or more. -/
  | next {calls writes : List Ticket} (earlier : Tries calls writes) (write : Ticket)
    (again : Nat) : Tries (calls ++ List.replicate (again + 1) write) (writes ++ [write])

/-- Execute writes one at a time. One that fails is skipped, any other resolves with what the store
answers. -/
inductive Executes (start : Store) : List (Ticket × Outcome) → Store → Prop where
  /-- Nothing is executed. -/
  | nil : Executes start [] start
  /-- The next write takes effect. -/
  | resolved {done : List (Ticket × Outcome)} {store : Store} (earlier : Executes start done store)
    (write : Ticket) {reply : Store.Reply}
    (answer : (write.request.call.run store).1 = .ok reply) :
    Executes start (done ++ [(write, .ok (write.request.result reply))])
      (write.request.call.run store).2
  /-- The next write is skipped. -/
  | failed {done : List (Ticket × Outcome)} {store : Store} (earlier : Executes start done store)
    (write : Ticket) (error : Error) : Executes start (done ++ [(write, .error error)]) store

/-- A number of calls for a task, if it is a write. -/
def repeated (number : Nat) (task : Task) : List Ticket :=
  task.ticket?.toList.flatMap (List.replicate number)

/-- One call more. -/
theorem repeated_succ (number : Nat) (task : Task) :
    repeated (number + 1) task = repeated number task ++ task.ticket?.toList := by
  unfold repeated
  cases task.ticket? with
  | none => rfl
  | some write => simp [List.replicate_succ']

/-- Calls for a task try it, if it is a write. -/
theorem Tries.task {calls writes : List Ticket} (earlier : Tries calls writes) (task : Task)
    (again : Nat) :
    Tries (calls ++ repeated (again + 1) task) (writes ++ task.ticket?.toList) := by
  unfold repeated
  cases task.ticket? with
  | none =>
    rw [Option.toList_none, List.flatMap_nil, List.append_nil, List.append_nil]
    exact earlier
  | some write =>
    rw [Option.toList_some, List.flatMap_cons, List.flatMap_nil, List.append_nil]
    exact earlier.next write again

variable {backend : Backend σ} {contents : σ → Store} {s : Pipeline β σ}

/-- An attempt at a task resolves and takes effect if the task is a write, or fails and has no
effect. -/
theorem Executes.attempt (behind : backend.Over contents) {start : Store}
    {done : List (Ticket × Outcome)} {state : σ} (earlier : Executes start done (contents state))
    (task : Task) :
    (∃ result, (task.submission.execute backend task.filter state).1 = .ok result ∧
      Executes start (done ++ (task.ticket?.map (·, .ok result)).toList)
        (contents (task.submission.execute backend task.filter state).2)) ∨
    ∃ error, (task.submission.execute backend task.filter state).1 = .error error ∧
      contents (task.submission.execute backend task.filter state).2 = contents state := by
  cases found : task.ticket? with
  | none =>
    have same := Submission.execute_other behind
      (fun request described => Task.isRead_of_ticket found described) task.filter state
    cases answer : (task.submission.execute backend task.filter state).1 with
    | ok result =>
      left
      refine ⟨result, rfl, ?_⟩
      rw [same, Option.map_none, Option.toList_none, List.append_nil]
      exact earlier
    | error error => exact .inr ⟨error, rfl, same⟩
  | some write =>
    obtain ⟨described, isWrite⟩ := Task.submission_of_ticket found
    rw [described]
    rcases Submission.execute_write behind isWrite task.filter state with
      ⟨reply, answer, run, effect⟩ | ⟨error, answer, effect⟩
    · left
      refine ⟨write.request.result reply, answer, ?_⟩
      rw [effect]
      exact earlier.resolved write run
    · exact .inr ⟨error, answer, effect⟩

/-- The calls of the writes that did not fail. -/
def effective (done : List (Ticket × Outcome)) : List Store.Call :=
  (done.filter fun entry => entry.2.isOk).map fun entry => entry.1.request.call

/-- The store after executing writes is the store after the calls of those that did not fail. -/
theorem Executes.store_eq {start store : Store} {done : List (Ticket × Outcome)}
    (executes : Executes start done store) : store = start.after (effective done) := by
  induction executes with
  | nil => rfl
  | @resolved done store earlier write reply answer ih =>
    have more : effective (done ++ [(write, .ok (write.request.result reply))]) =
        effective done ++ [write.request.call] := by
      unfold effective
      rw [List.filter_append, List.map_append]
      rfl
    rw [more]
    unfold Store.after at ih ⊢
    rw [List.foldl_append, ← ih]
    rfl
  | @failed done store earlier write error ih =>
    have same : effective (done ++ [(write, .error error)]) = effective done := by
      unfold effective
      rw [List.filter_append, List.map_append]
      exact List.append_nil _
    rw [same]
    exact ih

/-- A write that resolved did so with what the store answered after the writes before it. -/
theorem Executes.answer {start store : Store} {all earlier later : List (Ticket × Outcome)}
    {write : Ticket} {outcome : Outcome} (executes : Executes start all store)
    (split : all = earlier ++ (write, outcome) :: later) :
    ∀ result, outcome = .ok result → ∃ reply,
      (write.request.call.run (start.after (effective earlier))).1 = .ok reply ∧
        result = write.request.result reply := by
  -- Seen from the end, the write is the last one or stands before the last one.
  have lastOr {done : List (Ticket × Outcome)} {last : Ticket × Outcome}
      {later : List (Ticket × Outcome)}
      (ends : done ++ [last] = earlier ++ (write, outcome) :: later) :
      (done = earlier ∧ last = (write, outcome)) ∨
        ∃ rest, done = earlier ++ (write, outcome) :: rest := by
    rcases List.eq_nil_or_concat later with rfl | ⟨rest, other, rfl⟩
    · obtain ⟨front, back⟩ := List.append_inj' ends rfl
      exact .inl ⟨front, List.head_eq_of_cons_eq back⟩
    · rw [List.concat_eq_append, ← List.cons_append, ← List.append_assoc] at ends
      exact .inr ⟨rest, (List.append_inj' ends rfl).1⟩
  induction executes generalizing later with
  | nil => simp at split
  | resolved before other answer ih =>
    rcases lastOr split with ⟨rfl, last⟩ | ⟨rest, older⟩
    · intro result resolved
      obtain ⟨rfl, rfl⟩ := Prod.mk.inj last
      rw [before.store_eq] at answer
      exact ⟨_, answer, (Except.ok.inj resolved).symm⟩
    · exact ih older
  | failed before other error ih =>
    rcases lastOr split with ⟨rfl, last⟩ | ⟨rest, older⟩
    · intro result resolved
      obtain ⟨rfl, rfl⟩ := Prod.mk.inj last
      cases resolved
    · exact ih older

/-- Whether a reference has resolved with a result. -/
def isResolved (pipeline : Pipeline β σ) (id : DeferredId) : Bool :=
  (pipeline.outcome? id).any Except.isOk

/-- The calls of those among writes that have resolved, in order. -/
def resolvedCalls (pipeline : Pipeline β σ) (writes : List Ticket) : List Store.Call :=
  (writes.filter fun write => pipeline.isResolved write.deferred).map fun write =>
    write.request.call

/-- The writes that did not fail are those that have resolved. -/
theorem effective_eq {done : List (Ticket × Outcome)}
    (recorded : ∀ entry ∈ done, s.outcome? entry.1.deferred = some entry.2) :
    effective done = s.resolvedCalls (done.map Prod.fst) := by
  unfold effective resolvedCalls
  rw [List.filter_map, List.map_map]
  congr 1
  apply List.filter_congr
  intro entry present
  show entry.2.isOk = s.isResolved entry.1.deferred
  unfold isResolved
  rw [recorded entry present]
  rfl

end WideColumn.Pipeline
