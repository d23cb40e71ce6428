import WideColumn.Proofs.Pipeline.Basic

/-!
# Schedules

A schedule says who does something next: which client call is made, which worker goes on, which
callback runs. Playing one from a state is a computation, and the runs from that state are exactly
what schedules play.
-/
namespace WideColumn.Pipeline

variable {β σ : Type}

/-- What happens next. Positions count from zero. -/
inductive Action (β : Type) where
  /-- A client submits a write. -/
  | submit (request : Request)
  /-- A client submits a read. -/
  | read (submission : Submission)
  /-- The admitted read at a position reaches the pool. -/
  | queue (position : Nat)
  /-- A client flushes. -/
  | flush (reason : FlushReason)
  /-- A client or the timer polls the triggers. -/
  | poll
  /-- A client begins to close. -/
  | close
  /-- Closing gives up waiting. -/
  | expire
  /-- Closing finds its barrier terminal. -/
  | drain
  /-- Closing is complete. -/
  | finish
  /-- A client registers a callback. -/
  | watch (id : DeferredId) (scope : Scope) (body : β)
  /-- A client builds a barrier. -/
  | group (members : List DeferredId) (timeout : Option Number)
  /-- Time passes. -/
  | advance (seconds : Number)
  /-- A free worker takes the task at a position of the queue. -/
  | take (position : Nat)
  /-- The busy worker at a position goes on with its task. -/
  | work (position : Nat)
  /-- A client runs the callback at a position. -/
  | deliver (position : Nat)

/-- What a worker at a position does next. -/
def goOn (backend : Backend σ) (position : Nat) (s : Pipeline β σ) :
    Option (Event × Pipeline β σ) :=
  let before := s.workers.take position
  let after := s.workers.drop (position + 1)
  match s.workers[position]? with
  | none => none
  | some (.calling task attempt further) =>
    let (outcome, backend) := task.submission.execute backend task.filter s.backend
    let (worker, event) := Worker.afterAttempt task attempt further outcome
    some (.called task outcome,
      { s with
        backend
        workers := before ++ worker :: after
        dispatcher := s.dispatcher.logAny event })
  | some (.settling task outcome) =>
    let (due, dispatcher) := s.dispatcher.settle task outcome
    some (.settled task outcome,
      { s with dispatcher, workers := before ++ .notifying task due :: after })
  | some (.notifying task (notice :: rest)) =>
    let (fresh, dispatcher) := s.dispatcher.deliver notice
    some (.delivered notice.subject,
      { s with dispatcher, workers := before ++ .notifying task (fresh ++ rest) :: after })
  | some (.notifying task []) =>
    some (.released task,
      { s with dispatcher := s.dispatcher.release task, workers := before ++ after })

/-- What an action does, if it is possible. -/
def perform (backend : Backend σ) (s : Pipeline β σ) :
    Action β → Option (Event × Pipeline β σ)
  | .submit request =>
    if request.kind.isWrite then
      let (answer, section_) := s.dispatcher.enqueue request
      some (.submitted request answer, s.after section_)
    else none
  | .read submission =>
    if submission.write?.isNone then
      match s.dispatcher.admitRead submission with
      | .ok filter =>
        some (.admitted submission (.ok filter),
          { s with reads := s.reads ++ [(submission, filter)] })
      | .error error => some (.admitted submission (.error error), s)
    else none
  | .queue position =>
    match s.reads[position]? with
    | none => none
    | some (submission, filter) =>
      let (answer, dispatcher) := s.dispatcher.queueRead submission filter
      some (.queued submission answer,
        { s with
          reads := s.reads.take position ++ s.reads.drop (position + 1)
          dispatcher })
  | .flush reason =>
    let (answer, section_) := s.dispatcher.flush reason
    some (.flushed reason answer, s.after section_)
  | .poll =>
    let (answer, section_) := s.dispatcher.poll
    some (.polled answer, s.after section_)
  | .close =>
    let (answer, section_) := s.dispatcher.beginClose
    some (.closing answer,
      { s.after section_ with
        closing := match answer with
          | .ok (some barrier) => .waiting barrier
          | _ => s.closing })
  | .expire =>
    match s.closing with
    | .waiting _ =>
      some (.expired, { s with dispatcher := s.dispatcher.shutDownPool, closing := .expired })
    | _ => none
  | .drain =>
    match s.closing with
    | .waiting barrier =>
      if s.deferreds.isDone barrier then
        some (.drained, { s with dispatcher := s.dispatcher.shutDownPool, closing := .draining })
      else none
    | _ => none
  | .finish =>
    match s.closing, s.dispatcher.queue, s.workers with
    | .draining, [], [] =>
      some (.closed,
        { s with dispatcher := s.dispatcher.log Dispatcher.closed, closing := .finished })
    | _, _, _ => none
  | .watch id scope body =>
    if id < s.deferreds.entries.length then
      let (deferreds, due) := s.deferreds.register id (.client scope body)
      some (.watched id, s.after (due, { s.dispatcher with deferreds }))
    else none
  | .group members timeout =>
    if members.all (· < s.deferreds.entries.length) then
      let (barrier, deferreds) := s.deferreds.group members timeout
      some (.grouped barrier, { s with dispatcher := { s.dispatcher with deferreds } })
    else none
  | .advance seconds =>
    match s.dispatcher.clock.advance seconds with
    | .ok clock =>
      some (.advanced seconds, { s with dispatcher := { s.dispatcher with clock } })
    | .error _ => none
  | .take position =>
    match s.dispatcher.queue[position]? with
    | none => none
    | some task =>
      if (s.workers.length : Int) < s.dispatcher.settings.concurrency.maxWorkers then
        some (.took position task,
          { s with
            dispatcher := { s.dispatcher with
              queue := s.dispatcher.queue.take position ++
                s.dispatcher.queue.drop (position + 1) }
            workers := s.workers ++
              [.calling task 1 s.dispatcher.settings.retry.policy.further] })
      else none
  | .work position => goOn backend position s
  | .deliver position =>
    match s.due[position]? with
    | none => none
    | some notice =>
      let (fresh, dispatcher) := s.dispatcher.deliver notice
      some (.delivered notice.subject,
        { s with
          dispatcher
          due := s.due.take position ++ fresh ++ s.due.drop (position + 1) })

/-- Play a schedule: what is seen of it and the state afterwards, if each action is possible. -/
def play (backend : Backend σ) (s : Pipeline β σ) :
    List (Action β) → Option (List Event × Pipeline β σ)
  | [] => some ([], s)
  | action :: rest =>
    match perform backend s action with
    | none => none
    | some (event, t) => (play backend t rest).map fun (events, u) => (event :: events, u)

/-- A list is what stands before a position, the entry there, and what stands after it. -/
theorem split_at {α : Type} {entries : List α} {position : Nat} {entry : α}
    (found : entries[position]? = some entry) :
    entries = entries.take position ++ entry :: entries.drop (position + 1) := by
  obtain ⟨inside, rfl⟩ := List.getElem?_eq_some_iff.mp found
  rw [← List.drop_eq_getElem_cons inside, List.take_append_drop]

variable {backend : Backend σ} {s t : Pipeline β σ} {event : Event}

/-- What a worker does next is a step. -/
theorem step_of_goOn {position : Nat} (done : goOn backend position s = some (event, t)) :
    Step backend s event t := by
  unfold goOn at done
  cases found : s.workers[position]? with
  | none => simp [found] at done
  | some worker =>
    have split := split_at found
    cases worker with
    | calling task attempt further =>
      simp only [found, Option.some.injEq, Prod.mk.injEq] at done
      obtain ⟨rfl, rfl⟩ := done
      exact .call task attempt further split
    | settling task outcome =>
      simp only [found, Option.some.injEq, Prod.mk.injEq] at done
      obtain ⟨rfl, rfl⟩ := done
      exact .settle task outcome split
    | notifying task due =>
      cases due with
      | nil =>
        simp only [found, Option.some.injEq, Prod.mk.injEq] at done
        obtain ⟨rfl, rfl⟩ := done
        exact .release task split
      | cons notice rest =>
        simp only [found, Option.some.injEq, Prod.mk.injEq] at done
        obtain ⟨rfl, rfl⟩ := done
        exact .notify task notice rest split

/-- What an action does is a step. -/
theorem step_of_perform {action : Action β} (done : perform backend s action = some (event, t)) :
    Step backend s event t := by
  cases action with
  | submit request =>
    simp only [perform] at done
    split at done
    · rename_i isWrite
      cases done
      exact .submit request isWrite
    · cases done
  | read submission =>
    simp only [perform] at done
    split at done
    · rename_i isRead
      have isRead := Option.isNone_iff_eq_none.mp isRead
      split at done
      · rename_i filter admitted
        cases done
        exact .letIn submission isRead filter admitted
      · rename_i error refused
        cases done
        exact .turnAway submission isRead error refused
    · cases done
  | queue position =>
    simp only [perform] at done
    split at done
    · cases done
    · rename_i submission filter found
      cases done
      exact .queue submission filter (split_at found)
  | flush reason =>
    cases done
    exact .flush reason
  | poll =>
    cases done
    exact .poll
  | close =>
    cases done
    exact .close
  | expire =>
    simp only [perform] at done
    split at done
    · rename_i waits
      cases done
      exact .expire waits
    · cases done
  | drain =>
    simp only [perform] at done
    split at done
    · rename_i barrier waits
      split at done
      · rename_i isDone
        cases done
        exact .drain waits isDone
      · cases done
    · cases done
  | finish =>
    simp only [perform] at done
    split at done
    · rename_i waits queue workers
      cases done
      exact .finish waits queue workers
    · cases done
  | watch id scope body =>
    simp only [perform] at done
    split at done
    · rename_i known
      cases done
      exact .watch id known scope body
    · cases done
  | group members timeout =>
    simp only [perform] at done
    split at done
    · rename_i known
      cases done
      refine .group members ?_ timeout
      intro member listed
      exact of_decide_eq_true (List.all_eq_true.mp known member listed)
    · cases done
  | advance seconds =>
    simp only [perform] at done
    split at done
    · rename_i clock passed
      cases done
      exact .advance seconds clock passed
    · cases done
  | take position =>
    simp only [perform] at done
    split at done
    · cases done
    · rename_i task found
      split at done
      · rename_i free
        cases done
        have inside := (List.getElem?_eq_some_iff.mp found).1
        have step : Step backend s _ _ := .take task (split_at found) free
        rw [List.length_take, Nat.min_eq_left (Nat.le_of_lt inside)] at step
        exact step
      · cases done
  | work position => exact step_of_goOn done
  | deliver position =>
    simp only [perform] at done
    split at done
    · cases done
    · rename_i notice found
      cases done
      exact .deliver notice (split_at found)

/-- What a schedule plays is a run. -/
theorem run_of_play {actions : List (Action β)} {trace : List Event}
    (played : play backend s actions = some (trace, t)) : Run backend s trace t := by
  induction actions generalizing s trace with
  | nil =>
    cases played
    exact .nil
  | cons action rest ih =>
    simp only [play] at played
    split at played
    · cases played
    · rename_i event u done
      obtain ⟨⟨events, v⟩, others, same⟩ := Option.map_eq_some_iff.mp played
      cases same
      exact (Run.single (step_of_perform done)).append (ih others)

/-- Every step is what some action does. -/
theorem perform_of_step (step : Step backend s event t) :
    ∃ action : Action β, perform backend s action = some (event, t) := by
  cases step with
  | submit request isWrite => exact ⟨.submit request, by simp [perform, isWrite]⟩
  | letIn submission isRead filter admitted =>
    exact ⟨.read submission, by simp [perform, isRead, admitted]⟩
  | turnAway submission isRead error refused =>
    exact ⟨.read submission, by simp [perform, isRead, refused]⟩
  | @queue before after submission filter split =>
    exact ⟨.queue before.length, by simp [perform, split]⟩
  | flush reason => exact ⟨.flush reason, rfl⟩
  | poll => exact ⟨.poll, rfl⟩
  | close => exact ⟨.close, rfl⟩
  | expire waits => exact ⟨.expire, by simp [perform, waits]⟩
  | drain waits done => exact ⟨.drain, by simp [perform, waits, done]⟩
  | finish waits queue workers => exact ⟨.finish, by simp [perform, waits, queue, workers]⟩
  | watch id known scope body => exact ⟨.watch id scope body, by simp [perform, known]⟩
  | group members known timeout =>
    have all : members.all (· < s.deferreds.entries.length) = true :=
      List.all_eq_true.mpr fun member listed => decide_eq_true (known member listed)
    exact ⟨.group members timeout, by simp only [perform, all, ↓reduceIte]⟩
  | advance seconds clock passed => exact ⟨.advance seconds, by simp [perform, passed]⟩
  | @take before after task split free =>
    exact ⟨.take before.length, by simp [perform, split, free]⟩
  | @call before after task attempt further split =>
    exact ⟨.work before.length, by simp [perform, goOn, split]⟩
  | @settle before after task outcome split =>
    exact ⟨.work before.length, by simp [perform, goOn, split]⟩
  | @notify before after task notice rest split =>
    exact ⟨.work before.length, by simp [perform, goOn, split]⟩
  | @deliver before after notice split =>
    exact ⟨.deliver before.length, by simp [perform, split]⟩
  | @release before after task split =>
    exact ⟨.work before.length, by simp [perform, goOn, split]⟩

/-- A schedule after a schedule. -/
theorem play_append {first second : List (Action β)} {earlier later : List Event}
    {u : Pipeline β σ} (before : play backend s first = some (earlier, t))
    (after : play backend t second = some (later, u)) :
    play backend s (first ++ second) = some (earlier ++ later, u) := by
  induction first generalizing s earlier with
  | nil =>
    cases before
    exact after
  | cons action rest ih =>
    simp only [play] at before
    split at before
    · cases before
    · rename_i event v done
      obtain ⟨⟨events, w⟩, others, same⟩ := Option.map_eq_some_iff.mp before
      cases same
      have next := ih others
      simp only [List.cons_append, play, done, next]
      rfl

/-- The runs from a state are exactly what schedules play from it. -/
theorem run_iff_play {trace : List Event} :
    Run backend s trace t ↔
      ∃ actions : List (Action β), play backend s actions = some (trace, t) := by
  constructor
  · intro run
    induction run with
    | nil => exact ⟨[], rfl⟩
    | snoc earlier step ih =>
      obtain ⟨actions, played⟩ := ih
      obtain ⟨action, done⟩ := perform_of_step step
      refine ⟨actions ++ [action], play_append played ?_⟩
      simp only [play, done]
      rfl
  · rintro ⟨actions, played⟩
    exact run_of_play played

/-- What is seen of a schedule and the state afterwards; nothing happens if it is not possible. -/
def played (backend : Backend σ) (s : Pipeline β σ) (actions : List (Action β)) :
    List Event × Pipeline β σ :=
  (play backend s actions).getD ([], s)

/-- A schedule that is possible is a run. -/
theorem run_played {actions : List (Action β)} (possible : (play backend s actions).isSome = true) :
    Run backend s (played backend s actions).1 (played backend s actions).2 := by
  obtain ⟨⟨trace, u⟩, done⟩ := Option.isSome_iff_exists.mp possible
  unfold played
  rw [done]
  exact run_of_play done

/-! ## Small surroundings -/

/-- Settings without triggers and with one attempt for each call. -/
def manual : Settings :=
  { Settings.standard with
    buffer := ⟨none, none, 100⟩
    retry := { RetrySettings.standard with maxAttempts := 1 } }

/-- A store of one table with one column family. -/
def oneTable : Store := Store.empty.setTable [116] ⟨[[102]], .empty⟩

/-- A store that forgets what it is given and finds no table to remove from. -/
def forgetful : Backend Unit
  | .delete table .., state => (.error (.tableNotFound table), state)
  | _, state => (.ok .nothing, state)

/-- A put of a value to the one cell of a row. -/
def smallPut (key : Bytes) : Request := .put [116] key ⟨[102], [113]⟩ [49]

/-- An append to the one cell of a row. -/
def smallAppend (key value : Bytes) : Request := .append [116] key ⟨[102], [113]⟩ value

/-- The removal of a row. -/
def smallRemoval (key : Bytes) : Request := .delete [116] key .all

end WideColumn.Pipeline
