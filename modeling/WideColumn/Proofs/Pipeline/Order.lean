import WideColumn.Proofs.Pipeline.History

/-!
# The order of waiting writes

The queue of the pool and the buffer behind it are one line: what is accepted goes in at the end,
and a flush moves the border between the two without changing anything's place. If workers take
tasks in order of submission, what they take comes out at the front.
-/
namespace WideColumn.Pipeline

variable {β σ : Type} {accepted released : List Ticket} {s t : Pipeline β σ}
  {backend : Backend σ} {event : Event}

/-- The accepted writes that no worker has taken, those with the pool first. -/
def waiting (pipeline : Pipeline β σ) : List Ticket := pipeline.queued ++ pipeline.buffered

/-- Whether an event takes a task, if it takes one, at the front of the queue. -/
def Event.InOrder : Event → Prop
  | .took position _ => position = 0
  | _ => True

instance : DecidablePred Event.InOrder := fun event =>
  match event with
  | .took position _ => inferInstanceAs (Decidable (position = 0))
  | .submitted .. | .admitted .. | .queued .. | .flushed .. | .polled _ | .closing _ | .expired
  | .drained | .closed | .watched _ | .grouped _ | .advanced _ | .called .. | .settled ..
  | .delivered _ | .released _ => isTrue trivial

/-- A flush changes nothing's place. -/
theorem waiting_flush (s : Pipeline β σ) (isWrite : ∀ write ∈ s.dispatcher.buffer.entries,
      write.request.kind.isWrite = true)
    (accepts : s.dispatcher.isShutDown = true → s.dispatcher.buffer.entries = [])
    (reason : FlushReason) : (s.after (s.dispatcher.flush reason).2).waiting = s.waiting := by
  obtain ⟨journal, flushed⟩ := s.dispatcher.flush_eq reason accepts
  rw [flushed]
  show (s.dispatcher.queue ++ s.dispatcher.buffer.entries.map BufferedWrite.toTask).filterMap
    Task.ticket? ++ [] = s.waiting
  rw [List.append_nil, List.filterMap_append, BufferedWrite.tickets_toTask isWrite]
  rfl

/-- An accepted write goes in at the end. -/
theorem waiting_accept (request : Request) :
    ({ s with dispatcher := (s.dispatcher.accept request).2 } : Pipeline β σ).waiting =
      s.waiting ++ [⟨s.deferreds.size, request⟩] := by
  show s.queued ++ (s.dispatcher.buffer.entries ++ [_]).map BufferedWrite.ticket = _
  rw [List.map_append, ← List.append_assoc]
  rfl

/-- Submitting a write puts it at the end of the line if it is accepted. -/
theorem waiting_submit (owned : s.Owned accepted released) (orderly : s.Orderly)
    {request : Request} (isWrite : request.kind.isWrite = true) :
    (s.after (s.dispatcher.enqueue request).2).waiting = s.waiting ++
      (Event.submitted request (s.dispatcher.enqueue request).1).accepted?.toList := by
  have ended := s.dispatcher.enqueues request
  generalize s.dispatcher.enqueue request = result at ended
  cases ended with
  | late isClosed => exact (List.append_nil _).symm
  | full isOpen reached => exact (List.append_nil _).symm
  | buffered isOpen below quiet => exact waiting_accept request
  | triggered isOpen below reason fired =>
    have running := orderly.accepts_more request isOpen
    have moved := waiting_flush _ (owned.accept request isWrite).custody.isWrite running reason
    obtain ⟨journal, answer⟩ := (s.dispatcher.accept request).2.flush_eq reason running
    rw [show ((s.dispatcher.accept request).2.flush reason).1 = _ from congrArg Prod.fst answer]
    exact moved.trans (waiting_accept request)

/-- A poll changes nothing's place. -/
theorem waiting_poll (owned : s.Owned accepted released) (orderly : s.Orderly) :
    (s.after s.dispatcher.poll.2).waiting = s.waiting := by
  have ended := s.dispatcher.polls
  generalize s.dispatcher.poll = result at ended
  cases ended with
  | quiet triggers => rfl
  | fired triggers reason =>
    exact waiting_flush { s with dispatcher := { s.dispatcher with triggers } }
      owned.custody.isWrite orderly.accepts reason

/-- Beginning to close changes nothing's place. -/
theorem waiting_close (owned : s.Owned accepted released) (orderly : s.Orderly) :
    (s.after s.dispatcher.beginClose.2).waiting = s.waiting := by
  unfold Dispatcher.beginClose
  by_cases isClosed : s.dispatcher.isClosed = true
  · simp only [isClosed, ↓reduceIte]
    rfl
  · simp only [isClosed]
    exact waiting_flush { s with dispatcher := { s.dispatcher with isClosed := true } }
      owned.custody.isWrite (fun shut => absurd (orderly.closed shut) isClosed) .shutdown

/-- Queueing a read puts nothing into the line. -/
theorem waiting_queueRead {reads : List (Submission × Option Store.Filter)}
    {submission : Submission} (isRead : submission.write? = none) (filter : Option Store.Filter) :
    ({ s with reads, dispatcher := (s.dispatcher.queueRead submission filter).2 } :
      Pipeline β σ).waiting = s.waiting := by
  unfold Dispatcher.queueRead
  by_cases shut : s.dispatcher.isShutDown = true
  · simp only [shut, ↓reduceIte]
    rfl
  · simp only [shut, Bool.false_eq_true, ↓reduceIte]
    show (s.dispatcher.queue ++ [_]).filterMap Task.ticket? ++ s.buffered = _
    rw [List.filterMap_append, List.filterMap_cons, Task.ticket_of_read isRead]
    show s.queued ++ [] ++ s.buffered = _
    rw [List.append_nil]
    rfl

/-- The line is first in, first out. -/
theorem Step.waiting (step : Step backend s event t) (owned : s.Owned accepted released)
    (orderly : s.Orderly) (inOrder : event.InOrder) :
    s.waiting ++ event.accepted?.toList = taken [event] ++ t.waiting := by
  -- All events but two neither put anything in nor take anything out.
  have unmoved (none_accepted : event.accepted? = none) (none_taken : taken [event] = [])
      (same : t.waiting = s.waiting) :
      s.waiting ++ event.accepted?.toList = taken [event] ++ t.waiting := by
    rw [none_accepted, none_taken, same, List.nil_append]
    exact List.append_nil _
  cases step with
  | submit request isWrite =>
    rw [waiting_submit owned orderly isWrite]
    rfl
  | @take before after task split free =>
    obtain rfl : before = [] := List.length_eq_zero_iff.mp inOrder
    rw [taken_took]
    show s.queued ++ s.buffered ++ [] = task.ticket?.toList ++ (after.filterMap Task.ticket? ++ _)
    unfold queued
    rw [split, List.nil_append, List.filterMap_cons, List.append_nil, ← List.append_assoc]
    cases task.ticket? with
    | none => rfl
    | some ticket => rfl
  | flush reason =>
    exact unmoved rfl rfl (waiting_flush s owned.custody.isWrite orderly.accepts reason)
  | poll => exact unmoved rfl rfl (waiting_poll owned orderly)
  | close => exact unmoved rfl rfl (waiting_close owned orderly)
  | @queue before after submission filter split =>
    have isRead : submission.write? = none :=
      owned.reads (submission, filter) (by rw [split]; simp)
    exact unmoved rfl rfl (waiting_queueRead isRead filter)
  | call task attempt further split =>
    apply unmoved rfl rfl
    obtain ⟨journal, logged⟩ := s.dispatcher.logAny_eq
      (Worker.afterAttempt (β := β) task attempt further
        (task.submission.execute backend task.filter s.backend).1).2
    rw [logged]
    rfl
  | settle task outcome split =>
    apply unmoved rfl rfl
    obtain ⟨deferreds, journal, settled, _⟩ := s.dispatcher.settle_frame task outcome
    rw [settled]
    rfl
  | notify task notice rest split =>
    apply unmoved rfl rfl
    obtain ⟨journal, delivered⟩ := s.dispatcher.deliver_eq notice
    rw [delivered]
    rfl
  | deliver notice split =>
    apply unmoved rfl rfl
    obtain ⟨journal, delivered⟩ := s.dispatcher.deliver_eq notice
    rw [delivered]
    rfl
  | release task split =>
    apply unmoved rfl rfl
    obtain ⟨inFlight, released⟩ := s.dispatcher.release_eq task
    rw [released]
    rfl
  | letIn | turnAway | expire | drain | finish | watch | group | advance =>
    exact unmoved rfl rfl rfl

end WideColumn.Pipeline
