import Mathlib.Data.List.Pairwise
import WideColumn.Proofs.Deferred.Evolution

/-!
# The life of a deferred result

One thread of callers works with one deferred result: they complete it, register callbacks for it,
and the callbacks, while they run, may do the same and may end with an error. Calls and callbacks
nest, so what is in progress is a stack. In every run the first completion is the only one, later
ones are refused and run nothing, and a callback runs once if it is for the outcome and never
otherwise: in order of registration within the completion if it was registered before, and within
its own registration if it came later. However callbacks end, the others get their turn.
-/
namespace WideColumn

/-- A call or a callback in progress. -/
inductive Frame where
  /-- A call, and the callbacks that it has yet to run. -/
  | call (number : Nat) (due : List (Notice Nat))
  /-- The callback of a registration. -/
  | body (registration : Nat)

namespace Frame

/-- The number of the call. -/
def number? : Frame → Option Nat
  | call number _ => some number
  | body _ => none

/-- The callback that a notice runs, with the outcome it is told: none if it is not for that. -/
def runs (notice : Notice Nat) : Option (Nat × Outcome) :=
  match notice.callback with
  | .client scope registration =>
    if scope.covers notice.outcome then some (registration, notice.outcome) else none
  | _ => none

/-- The callbacks that a call has yet to run. -/
def remaining (call : Nat) : Frame → List (Nat × Outcome)
  | .call number due => if number = call then due.filterMap runs else []
  | body _ => []

end Frame

/-- Callers and a deferred result. Calls are numbered, and the number of a registration is the body
of its callback in the table. -/
structure Conversation where
  /-- The table. -/
  table : Deferreds Nat
  /-- How many calls have been made. -/
  calls : Nat
  /-- What is in progress, the innermost first. -/
  frames : List Frame

namespace Conversation

/-- What is seen of a conversation. -/
inductive Event where
  /-- A call completes the deferred result. -/
  | completed (call : Nat) (outcome : Outcome)
  /-- A call that would complete it raises an error. -/
  | refused (call : Nat) (attempted : Outcome) (error : Error)
  /-- A call registers a callback. -/
  | registered (call : Nat) (scope : Scope)
  /-- Within a call, the callback of a registration begins and is told an outcome. -/
  | invoked (call registration : Nat) (told : Outcome)
  /-- Within a call, a callback is passed over. -/
  | skipped (call : Nat)
  /-- The callback of a registration ends, with an error if it raised one. -/
  | ended (registration : Nat) (raised : Option Error)
  /-- A call returns. -/
  | returned (call : Nat)

namespace Event

/-- The number of the call that begins. -/
def begins? : Event → Option Nat
  | completed call _ | refused call .. | registered call _ => some call
  | _ => none

/-- The registration that is made. -/
def registration? : Event → Option (Nat × Scope)
  | registered call scope => some (call, scope)
  | _ => none

/-- The callback that begins within a call. -/
def invocationIn? (call : Nat) : Event → Option (Nat × Outcome)
  | invoked number registration told => if number = call then some (registration, told) else none
  | _ => none

/-- Whether the callback of a registration begins. -/
def invokes (registration : Nat) : Event → Bool
  | invoked _ number _ => number == registration
  | _ => false

/-- Whether a completion takes effect. -/
def isCompletion : Event → Bool
  | completed .. => true
  | _ => false

/-- Nothing is refused and no callback begins. -/
def IsQuiet : Event → Prop
  | refused .. | invoked .. => False
  | _ => True

/-- Nobody makes a call: what was begun goes on, and callbacks end as they are said to. -/
def GoesOn (raises : Nat → Option Error) : Event → Prop
  | ended registration raised => raised = raises registration
  | completed .. | refused .. | registered .. => False
  | _ => True

end Event

/-- The registrations, in order. -/
def registrations (log : List Event) : List (Nat × Scope) := log.filterMap Event.registration?

/-- The callbacks that begin within a call, in order, with what they are told. -/
def invokedIn (call : Nat) (log : List Event) : List (Nat × Outcome) :=
  log.filterMap (Event.invocationIn? call)

/-- How often the callback of a registration begins. -/
def timesInvoked (registration : Nat) (log : List Event) : Nat :=
  log.countP (Event.invokes registration)

/-- The registrations that are for an outcome, with that outcome. -/
def fitting (outcome : Outcome) (made : List (Nat × Scope)) : List (Nat × Outcome) :=
  (made.filter fun made => made.2.covers outcome).map fun made => (made.1, outcome)

/-- The state that an outcome leads to. -/
def stateOf : Outcome → DeferredState
  | .ok _ => .resolved
  | .error _ => .failed

/-- Callers may make a call when nothing is in progress, and from within a callback. -/
def MayCall : List Frame → Prop
  | [] | .body _ :: _ => True
  | .call .. :: _ => False

/-- A conversation about a deferred result that has just been made. -/
def start (table : Deferreds Nat) (timeout : Option Number) : Conversation :=
  ⟨(table.create timeout).2, 0, []⟩

/-- The steps of a conversation about a deferred result. -/
inductive Step (id : DeferredId) : Conversation → Event → Conversation → Prop where
  /-- A completion takes effect. -/
  | complete {s : Conversation} (free : MayCall s.frames) (outcome : Outcome)
    {table : Deferreds Nat} {due : List (Notice Nat)}
    (done : s.table.complete id outcome = .ok (table, due)) :
    Step id s (.completed s.calls outcome) ⟨table, s.calls + 1, .call s.calls due :: s.frames⟩
  /-- A completion is refused. -/
  | refuse {s : Conversation} (free : MayCall s.frames) (outcome : Outcome) {error : Error}
    (late : s.table.complete id outcome = .error error) :
    Step id s (.refused s.calls outcome error) { s with calls := s.calls + 1 }
  /-- A callback is registered. -/
  | register {s : Conversation} (free : MayCall s.frames) (scope : Scope) {table : Deferreds Nat}
    {due : List (Notice Nat)}
    (made : s.table.register id (.client scope s.calls) = (table, due)) :
    Step id s (.registered s.calls scope) ⟨table, s.calls + 1, .call s.calls due :: s.frames⟩
  /-- The innermost call delivers a notice, and the callback begins. -/
  | invoke {s : Conversation} {call : Nat} {notice : Notice Nat} {rest : List (Notice Nat)}
    {below : List Frame} (innermost : s.frames = .call call (notice :: rest) :: below)
    {table : Deferreds Nat} {fresh : List (Notice Nat)} {registration : Nat} {told : Outcome}
    (delivered : s.table.deliver notice = (table, fresh, .client registration told)) :
    Step id s (.invoked call registration told)
      ⟨table, s.calls, .body registration :: .call call (fresh ++ rest) :: below⟩
  /-- The innermost call delivers a notice for a callback that is not for the outcome. -/
  | skip {s : Conversation} {call : Nat} {notice : Notice Nat} {rest : List (Notice Nat)}
    {below : List Frame} (innermost : s.frames = .call call (notice :: rest) :: below)
    {table : Deferreds Nat} {fresh : List (Notice Nat)}
    (delivered : s.table.deliver notice = (table, fresh, .none)) :
    Step id s (.skipped call) ⟨table, s.calls, .call call (fresh ++ rest) :: below⟩
  /-- A callback ends, one way or the other. -/
  | finish {s : Conversation} {registration : Nat} {below : List Frame}
    (innermost : s.frames = .body registration :: below) (raised : Option Error) :
    Step id s (.ended registration raised) { s with frames := below }
  /-- A call that has run all its callbacks returns. -/
  | leave {s : Conversation} {call : Nat} {below : List Frame}
    (innermost : s.frames = .call call [] :: below) :
    Step id s (.returned call) { s with frames := below }

/-- Steps one after another, with what is seen of them. -/
inductive Run (id : DeferredId) (s : Conversation) : List Event → Conversation → Prop where
  /-- No step. -/
  | nil : Run id s [] s
  /-- A step more. -/
  | snoc {log : List Event} {t u : Conversation} {event : Event} (earlier : Run id s log t)
    (step : Step id t event u) : Run id s (log ++ [event]) u

variable {id : DeferredId} {s t : Conversation} {log : List Event} {event : Event}

/-! ## Numbers of calls -/

/-- The calls in progress. -/
def inProgress (frames : List Frame) : List Nat := frames.filterMap Frame.number?

/-- Calls are numbered in the order in which they begin, a number stands on the stack at most once,
and a call that has returned is off the stack. -/
structure Numbered (log : List Event) (s : Conversation) : Prop where
  /-- The calls that began. -/
  begun : log.filterMap Event.begins? = List.range s.calls
  /-- Calls in progress are different. -/
  nodup : (inProgress s.frames).Nodup
  /-- Calls in progress have begun. -/
  below : ∀ call ∈ inProgress s.frames, call < s.calls
  /-- Calls in progress have not returned. -/
  unreturned : ∀ call ∈ inProgress s.frames, .returned call ∉ log
  /-- Only a call that began returns. -/
  returned_lt : ∀ call, .returned call ∈ log → call < s.calls
  /-- Callbacks begin within calls that are in progress. -/
  during : ∀ front call registration told rest,
    log = front ++ .invoked call registration told :: rest →
      call ∈ front.filterMap Event.begins? ∧ .returned call ∉ front

/-- What is in a longer log was in the shorter one or is new. -/
theorem mem_concat {other : Event} : other ∈ log ++ [event] ↔ other ∈ log ∨ other = event := by
  rw [List.mem_append, List.mem_singleton]

/-- Whatever stands before each callback, it does so in a longer log if it stands before a new
callback. -/
theorem forall_invoked_concat {P : List Event → Nat → Prop}
    (before : ∀ front call registration told rest,
      log = front ++ .invoked call registration told :: rest → P front call)
    (last : ∀ call registration told, event = .invoked call registration told → P log call) :
    ∀ front call registration told rest,
      log ++ [event] = front ++ .invoked call registration told :: rest → P front call := by
  intro front call registration told rest split
  rcases List.eq_nil_or_concat rest with rfl | ⟨shorter, final, rfl⟩
  · obtain ⟨rfl, same⟩ := List.append_inj' split rfl
    exact last call registration told (List.singleton_inj.mp same)
  · have longer : log ++ [event] =
        (front ++ .invoked call registration told :: shorter) ++ [final] := by
      rw [split, List.concat_eq_append, List.append_assoc, List.cons_append]
    obtain ⟨rfl, -⟩ := List.append_inj' longer rfl
    exact before front call registration told shorter rfl

namespace Numbered

variable {frames : List Frame}

/-- Nothing has begun. -/
theorem start (table : Deferreds Nat) (timeout : Option Number) :
    Numbered [] (start table timeout) :=
  ⟨rfl, List.nodup_nil, nofun, nofun, nofun, by simp⟩

/-- A call begins, and stays in progress or not. -/
theorem begin (numbered : Numbered log s) (begins : event.begins? = some s.calls)
    (calls : t.calls = s.calls + 1)
    (frames : inProgress t.frames = inProgress s.frames ∨
      inProgress t.frames = s.calls :: inProgress s.frames) :
    Numbered (log ++ [event]) t := by
  have different {call : Nat} : event ≠ .returned call := by
    rintro rfl
    cases begins
  have fresh : s.calls ∉ inProgress s.frames := fun listed =>
    Nat.lt_irrefl _ (numbered.below _ listed)
  have unreturned (call : Nat) : .returned call ∉ log ++ [event] ↔ .returned call ∉ log := by
    rw [mem_concat, or_iff_left different.symm]
  have listed {call : Nat} (present : call ∈ inProgress t.frames) :
      call = s.calls ∨ call ∈ inProgress s.frames := by
    rcases frames with same | pushed
    · exact .inr (same ▸ present)
    · exact List.mem_cons.mp (pushed ▸ present)
  refine ⟨?_, ?_, ?_, ?_, ?_, ?_⟩
  · rw [List.filterMap_append, numbered.begun, calls, List.range_succ]
    simp [begins]
  · rcases frames with same | pushed
    · rw [same]
      exact numbered.nodup
    · rw [pushed]
      exact List.nodup_cons.mpr ⟨fresh, numbered.nodup⟩
  · intro call present
    rw [calls]
    rcases listed present with rfl | older
    · exact Nat.lt_succ_self _
    · exact Nat.lt_succ_of_lt (numbered.below call older)
  · intro call present
    rw [unreturned]
    rcases listed present with rfl | older
    · exact fun returned => Nat.lt_irrefl _ (numbered.returned_lt _ returned)
    · exact numbered.unreturned call older
  · intro call returned
    rw [calls]
    rcases mem_concat.mp returned with older | same
    · exact Nat.lt_succ_of_lt (numbered.returned_lt call older)
    · exact absurd same.symm different
  · refine forall_invoked_concat (P := fun front call =>
      call ∈ front.filterMap Event.begins? ∧ .returned call ∉ front) numbered.during ?_
    rintro call registration told rfl
    cases begins

/-- Something goes on within the calls in progress. -/
theorem goOn (numbered : Numbered log s) (begins : event.begins? = none)
    (stays : ∀ call, event ≠ .returned call) (calls : t.calls = s.calls)
    (frames : inProgress t.frames = inProgress s.frames)
    (invokes : ∀ call registration told, event = .invoked call registration told →
      call ∈ inProgress s.frames) :
    Numbered (log ++ [event]) t := by
  have returned {call : Nat} : .returned call ∈ log ++ [event] ↔ .returned call ∈ log := by
    rw [mem_concat, or_iff_left (stays call).symm]
  refine ⟨?_, ?_, ?_, ?_, ?_, ?_⟩
  · rw [List.filterMap_append, numbered.begun, calls]
    simp [begins]
  · rw [frames]
    exact numbered.nodup
  · rw [frames, calls]
    exact numbered.below
  · intro call present
    rw [returned]
    exact numbered.unreturned call (frames ▸ present)
  · intro call left
    rw [calls]
    exact numbered.returned_lt call (returned.mp left)
  · refine forall_invoked_concat (P := fun front call =>
      call ∈ front.filterMap Event.begins? ∧ .returned call ∉ front) numbered.during ?_
    intro call registration told same
    have present := invokes call registration told same
    exact ⟨numbered.begun ▸ List.mem_range.mpr (numbered.below call present),
      numbered.unreturned call present⟩

/-- The innermost call returns. -/
theorem leave (numbered : Numbered log s) {call : Nat} (calls : t.calls = s.calls)
    (frames : inProgress s.frames = call :: inProgress t.frames) :
    Numbered (log ++ [.returned call]) t := by
  have nodup := numbered.nodup
  rw [frames] at nodup
  obtain ⟨gone, nodup⟩ := List.nodup_cons.mp nodup
  have older {other : Nat} (present : other ∈ inProgress t.frames) :
      other ∈ inProgress s.frames := by
    rw [frames]
    exact List.mem_cons_of_mem call present
  refine ⟨?_, nodup, ?_, ?_, ?_, ?_⟩
  · rw [List.filterMap_append, numbered.begun, calls]
    simp [Event.begins?]
  · intro other present
    rw [calls]
    exact numbered.below other (older present)
  · intro other present returned
    rcases mem_concat.mp returned with before | same
    · exact numbered.unreturned other (older present) before
    · obtain rfl := Event.returned.inj same
      exact gone present
  · intro other returned
    rw [calls]
    rcases mem_concat.mp returned with before | same
    · exact numbered.returned_lt other before
    · obtain rfl := Event.returned.inj same
      exact numbered.below other (frames ▸ List.mem_cons_self)
  · refine forall_invoked_concat (P := fun front call =>
      call ∈ front.filterMap Event.begins? ∧ .returned call ∉ front) numbered.during ?_
    rintro _ _ _ ⟨⟩

/-- Every step keeps the numbers in order. -/
theorem step (numbered : Numbered log s) (step : Step id s event t) :
    Numbered (log ++ [event]) t := by
  cases step with
  | complete free outcome done => exact numbered.begin rfl rfl (.inr rfl)
  | refuse free outcome late => exact numbered.begin rfl rfl (.inl rfl)
  | register free scope made => exact numbered.begin rfl rfl (.inr rfl)
  | invoke innermost delivered =>
    refine numbered.goOn rfl nofun rfl (by rw [innermost]; rfl) ?_
    rintro call registration told ⟨⟩
    rw [innermost]
    exact List.mem_cons_self
  | skip innermost delivered =>
    exact numbered.goOn rfl nofun rfl (by rw [innermost]; rfl) nofun
  | finish innermost raised =>
    exact numbered.goOn rfl nofun rfl (by rw [innermost]; rfl) nofun
  | leave innermost => exact numbered.leave rfl (by rw [innermost]; rfl)

end Numbered

/-! ## What calls have yet to run -/

/-- The callbacks that a call has yet to run. -/
def remaining (call : Nat) (frames : List Frame) : List (Nat × Outcome) :=
  frames.flatMap (Frame.remaining call)

/-- The callbacks that a call has run and those that it has yet to run. -/
def agenda (call : Nat) (log : List Event) (s : Conversation) : List (Nat × Outcome) :=
  invokedIn call log ++ remaining call s.frames

/-- What a longer log shows within a call. -/
theorem invokedIn_concat (call : Nat) (log : List Event) (event : Event) :
    invokedIn call (log ++ [event]) = invokedIn call log ++ invokedIn call [event] :=
  List.filterMap_append

/-- A call that is not in progress has nothing left to run. -/
theorem remaining_eq_nil {call : Nat} {frames : List Frame} (off : call ∉ inProgress frames) :
    remaining call frames = [] := by
  induction frames with
  | nil => rfl
  | cons first rest ih =>
    cases first with
    | body registration => exact ih off
    | call number due =>
      obtain ⟨different, off⟩ := List.ne_and_not_mem_of_not_mem_cons off
      have rest_ := ih off
      unfold remaining at rest_ ⊢
      rw [List.flatMap_cons, rest_, Frame.remaining, if_neg different.symm]
      rfl

/-- What a call in progress has yet to run. -/
theorem remaining_call (call number : Nat) (due : List (Notice Nat)) (below : List Frame) :
    remaining call (.call number due :: below) =
      (if number = call then due.filterMap Frame.runs else []) ++ remaining call below := rfl

/-- What begins within a call when a callback does. -/
theorem invokedIn_invoked (call number registration : Nat) (told : Outcome) :
    invokedIn call [.invoked number registration told] =
      if number = call then [(registration, told)] else [] := by
  unfold invokedIn
  by_cases same : number = call <;> simp [Event.invocationIn?, same]

/-- Only callbacks that callers registered are due. -/
def IsPlain (frames : List Frame) : Prop :=
  ∀ call due, .call call due ∈ frames → ∀ notice ∈ due,
    ∃ scope registration, notice.callback = .client scope registration

/-- Delivering the notice of a callback that a caller registered. -/
theorem deliver_client (table : Deferreds Nat) {notice : Notice Nat} {scope : Scope}
    {registration : Nat} (client : notice.callback = .client scope registration) :
    table.deliver notice = (table, [],
      if scope.covers notice.outcome then .client registration notice.outcome else .none) := by
  unfold Deferreds.deliver
  rw [client]

/-- The callback that a caller registered runs if it is for the outcome. -/
theorem runs_client {notice : Notice Nat} {scope : Scope} {registration : Nat}
    (client : notice.callback = .client scope registration) :
    Frame.runs notice =
      if scope.covers notice.outcome then some (registration, notice.outcome) else none := by
  unfold Frame.runs
  rw [client]

/-- Steps within calls move callbacks from those yet to run to those that have begun, in order. -/
theorem Step.agenda_eq (step : Step id s event t) (plain : IsPlain s.frames) {call : Nat}
    (uncompleted : ∀ outcome, event ≠ .completed call outcome)
    (unregistered : ∀ scope, event ≠ .registered call scope) :
    agenda call (log ++ [event]) t = agenda call log s := by
  unfold agenda
  rw [invokedIn_concat, List.append_assoc]
  congr 1
  cases step with
  | complete free outcome done =>
    have different : s.calls ≠ call := fun same => uncompleted outcome (same ▸ rfl)
    rw [remaining_call, if_neg different]
    rfl
  | register free scope made =>
    have different : s.calls ≠ call := fun same => unregistered scope (same ▸ rfl)
    rw [remaining_call, if_neg different]
    rfl
  | refuse free outcome late => rfl
  | @invoke number notice rest below innermost table fresh registration told delivered =>
    obtain ⟨scope, body, client⟩ :=
      plain number _ (innermost ▸ List.mem_cons_self) notice List.mem_cons_self
    rw [deliver_client s.table client] at delivered
    obtain ⟨-, rfl, effect⟩ := Prod.mk.inj delivered |>.imp_right Prod.mk.inj
    split at effect
    · next covers =>
      obtain ⟨rfl, rfl⟩ := Deferreds.Effect.client.inj effect
      rw [innermost, remaining_call, invokedIn_invoked, List.filterMap_cons, runs_client client,
        if_pos covers]
      change _ ++ remaining call (.call number rest :: below) = _
      rw [remaining_call]
      split <;> rfl
    · cases effect
  | @skip number notice rest below innermost table fresh delivered =>
    obtain ⟨scope, body, client⟩ :=
      plain number _ (innermost ▸ List.mem_cons_self) notice List.mem_cons_self
    rw [deliver_client s.table client] at delivered
    obtain ⟨-, rfl, effect⟩ := Prod.mk.inj delivered |>.imp_right Prod.mk.inj
    split at effect
    · cases effect
    · next passes =>
      rw [innermost, remaining_call call number (notice :: rest), List.filterMap_cons,
        runs_client client, if_neg passes]
      rfl
  | finish innermost raised =>
    rw [innermost]
    rfl
  | leave innermost =>
    rw [innermost, remaining_call]
    split <;> rfl

/-! ## Before and after the completion -/

/-- A second completion is refused with an error that tells the state and what was attempted. -/
theorem complete_twice {table : Deferreds Nat} {outcome attempted : Outcome}
    (done : table.outcome? id = some outcome) :
    table.complete id attempted =
      .error (.doubleCompletion (stateOf outcome) (completionVerb attempted)) := by
  obtain ⟨deferred, found, has⟩ := Option.bind_eq_some_iff.mp done
  have closed : deferred.isDone = true := by simp [Deferred.isDone, has]
  have state : deferred.state = stateOf outcome := by
    unfold Deferred.state stateOf
    rw [has]
    cases outcome <;> rfl
  unfold Deferreds.complete
  simp [found, closed, state]

/-- Where nothing runs, no callback begins within any call. -/
theorem invokedIn_eq_nil (call : Nat) (quiet : ∀ event ∈ log, event.IsQuiet) :
    invokedIn call log = [] := by
  apply List.filterMap_eq_nil_iff.mpr
  intro event listed
  have silent := quiet event listed
  cases event with
  | invoked => cases silent
  | completed | refused | registered | skipped | ended | returned => rfl

/-- The callbacks that are for an outcome run when they are told it. -/
theorem filterMap_notices (outcome : Outcome) (made : List (Nat × Scope)) :
    (Deferreds.notices id outcome (made.map fun made => .client made.2 made.1)).filterMap
      Frame.runs = fitting outcome made := by
  unfold Deferreds.notices fitting
  induction made with
  | nil => rfl
  | cons first rest ih =>
    rw [List.map_cons, List.map_cons, List.filterMap_cons, runs_client rfl, ih]
    cases covers : first.2.covers outcome with
    | true => simp [covers]
    | false => simp [covers]

/-- The conversation before a completion. -/
structure Pending (id : DeferredId) (log : List Event) (s : Conversation) : Prop where
  /-- The deferred result is known. -/
  known : id < s.table.size
  /-- It has no outcome. -/
  pending : s.table.outcome? id = none
  /-- Nothing ran and nothing was refused. -/
  quiet : ∀ event ∈ log, event.IsQuiet
  /-- No completion took effect. -/
  uncompleted : ∀ event ∈ log, event.isCompletion = false
  /-- The callbacks wait in order of registration. -/
  callbacks : s.table.callbacksOf id = (registrations log).map fun made => .client made.2 made.1
  /-- No call has anything to run. -/
  idle : ∀ frame ∈ s.frames, ∃ call, frame = .call call []

/-- The conversation after a completion: every call has run, or has yet to run, what it is for. -/
structure Done (id : DeferredId) (before : List Event) (call : Nat) (outcome : Outcome)
    (after : List Event) (s : Conversation) : Prop where
  /-- Before it nothing ran and nothing was refused. -/
  quiet : ∀ event ∈ before, event.IsQuiet
  /-- No other completion took effect. -/
  only : ∀ event ∈ before ++ after, event.isCompletion = false
  /-- The outcome is kept. -/
  kept : s.table.outcome? id = some outcome
  /-- Further completions were refused. -/
  refusals : ∀ number attempted error, .refused number attempted error ∈ after →
    error = .doubleCompletion (stateOf outcome) (completionVerb attempted)
  /-- The completion is for the callbacks that were registered before. -/
  first : agenda call (before ++ .completed call outcome :: after) s =
    fitting outcome (registrations before)
  /-- A later registration is for its own callback. -/
  own : ∀ number scope, .registered number scope ∈ after →
    agenda number (before ++ .completed call outcome :: after) s =
      fitting outcome [(number, scope)]
  /-- Other calls are for none. -/
  others : ∀ number, number ≠ call → (∀ scope, .registered number scope ∉ after) →
    agenda number (before ++ .completed call outcome :: after) s = []

/-- One of the two. -/
inductive Phase (id : DeferredId) (log : List Event) (s : Conversation) : Prop where
  /-- Before a completion. -/
  | pending (state : Pending id log s)
  /-- After it. -/
  | done {before : List Event} {call : Nat} {outcome : Outcome} {after : List Event}
    (split : log = before ++ .completed call outcome :: after)
    (state : Done id before call outcome after s)

/-- Calls in the log have numbers below that of the next one. -/
theorem Numbered.lt {number : Nat} {other : Event} (numbered : Numbered log s)
    (listed : other ∈ log) (begins : other.begins? = some number) : number < s.calls := by
  rw [← List.mem_range, ← numbered.begun]
  exact List.mem_filterMap.mpr ⟨other, listed, begins⟩

/-- Calls in progress that have nothing to run leave nothing to run. -/
theorem remaining_idle (call : Nat) {frames : List Frame}
    (idle : ∀ frame ∈ frames, ∃ number, frame = .call number []) : remaining call frames = [] := by
  apply List.flatMap_eq_nil_iff.mpr
  intro frame listed
  obtain ⟨number, rfl⟩ := idle frame listed
  exact ite_self _

/-- A conversation begins without a completion. -/
theorem Pending.start (table : Deferreds Nat) (timeout : Option Number) :
    Pending table.size [] (start table timeout) where
  known := by
    change table.size < (table.add _).2.size
    rw [Deferreds.size_add]
    exact Nat.lt_succ_self _
  pending := Deferreds.outcome?_add_self table _
  quiet := nofun
  uncompleted := nofun
  callbacks := Deferreds.callbacksOf_add_self table _
  idle := nofun

/-- A frame in front of plain ones. -/
theorem IsPlain.cons {frame : Frame} {frames : List Frame} (plain : IsPlain frames)
    (front : ∀ call due, frame = .call call due → ∀ notice ∈ due,
      ∃ scope registration, notice.callback = .client scope registration) :
    IsPlain (frame :: frames) := by
  intro call due listed
  rcases List.mem_cons.mp listed with same | older
  · exact front call due same.symm
  · exact plain call due older

/-- Only callbacks that callers registered become due. -/
theorem Pending.plain (state : Pending id log s) : IsPlain s.frames := by
  intro call due listed notice present
  obtain ⟨number, same⟩ := state.idle _ listed
  obtain ⟨rfl, rfl⟩ := Frame.call.inj same
  cases present

/-- The first completion takes effect and makes the callbacks due that were registered before. -/
theorem Pending.complete (state : Pending id log s) {outcome : Outcome} {table : Deferreds Nat}
    {due : List (Notice Nat)}
    (done : s.table.complete id outcome = .ok (table, due)) :
    IsPlain (.call s.calls due :: s.frames) ∧
      Done id log s.calls outcome [] ⟨table, s.calls + 1, .call s.calls due :: s.frames⟩ := by
  rw [Deferreds.complete_eq state.known state.pending, state.callbacks] at done
  obtain ⟨rfl, rfl⟩ := Prod.mk.inj (Except.ok.inj done)
  have unheard (number : Nat) : invokedIn number (log ++ [.completed s.calls outcome]) = [] := by
    rw [invokedIn_concat, invokedIn_eq_nil number state.quiet]
    rfl
  refine ⟨state.plain.cons ?_, state.quiet, ?_, Deferreds.outcome?_completed_self state.known _,
    nofun, ?_, nofun, ?_⟩
  · rintro _ _ ⟨⟩ notice present
    obtain ⟨callback, waits, rfl⟩ := List.mem_map.mp present
    obtain ⟨made, -, rfl⟩ := List.mem_map.mp waits
    exact ⟨made.2, made.1, rfl⟩
  · rw [List.append_nil]
    exact state.uncompleted
  · unfold agenda
    rw [unheard, remaining_call, if_pos rfl, remaining_idle _ state.idle, filterMap_notices,
      List.append_nil]
    rfl
  · intro number different _
    unfold agenda
    rw [unheard, remaining_call, if_neg different.symm, remaining_idle _ state.idle]
    rfl

/-- A callback that is registered before the completion waits behind the others. -/
theorem Pending.register (state : Pending id log s) {scope : Scope} {table : Deferreds Nat}
    {due : List (Notice Nat)}
    (made : s.table.register id (.client scope s.calls) = (table, due)) :
    Pending id (log ++ [.registered s.calls scope])
      ⟨table, s.calls + 1, .call s.calls due :: s.frames⟩ := by
  rw [Deferreds.register_pending state.pending] at made
  obtain ⟨rfl, rfl⟩ := Prod.mk.inj made
  refine ⟨?_, ?_, ?_, ?_, ?_, ?_⟩
  · rw [Deferreds.size_registered]
    exact state.known
  · rw [Deferreds.outcome?_registered]
    exact state.pending
  · intro event listed
    rcases mem_concat.mp listed with older | rfl
    · exact state.quiet event older
    · trivial
  · intro event listed
    rcases mem_concat.mp listed with older | rfl
    · exact state.uncompleted event older
    · rfl
  · rw [Deferreds.callbacksOf_registered state.known, if_pos rfl, state.callbacks]
    simp [registrations, Event.registration?]
  · intro frame listed
    rcases List.mem_cons.mp listed with rfl | older
    · exact ⟨s.calls, rfl⟩
    · exact state.idle frame older

/-- A call that has nothing to run returns. -/
theorem Pending.leave (state : Pending id log s) {call : Nat} {below : List Frame}
    (innermost : s.frames = .call call [] :: below) :
    Pending id (log ++ [.returned call]) { s with frames := below } := by
  refine ⟨state.known, state.pending, ?_, ?_, ?_, ?_⟩
  · intro event listed
    rcases mem_concat.mp listed with older | rfl
    · exact state.quiet event older
    · trivial
  · intro event listed
    rcases mem_concat.mp listed with older | rfl
    · exact state.uncompleted event older
    · rfl
  · rw [state.callbacks]
    simp [registrations, Event.registration?]
  · intro frame listed
    exact state.idle frame (innermost ▸ List.mem_cons_of_mem _ listed)

/-- A step before the completion. -/
theorem Pending.step (state : Pending id log s) (step : Step id s event t) :
    IsPlain t.frames ∧ Phase id (log ++ [event]) t := by
  have running {frame : Frame} {below : List Frame} (innermost : s.frames = frame :: below) :
      ∃ call, frame = .call call [] := state.idle frame (innermost ▸ List.mem_cons_self)
  cases step with
  | complete free outcome done =>
    obtain ⟨plain, done⟩ := state.complete done
    exact ⟨plain, .done rfl done⟩
  | refuse free outcome late =>
    rw [Deferreds.complete_eq state.known state.pending] at late
    cases late
  | register free scope made =>
    have next := state.register made
    exact ⟨next.plain, .pending next⟩
  | invoke innermost delivered =>
    obtain ⟨call, same⟩ := running innermost
    cases same
  | skip innermost delivered =>
    obtain ⟨call, same⟩ := running innermost
    cases same
  | finish innermost raised =>
    obtain ⟨call, same⟩ := running innermost
    cases same
  | leave innermost =>
    have next := state.leave innermost
    exact ⟨next.plain, .pending next⟩

/-- After the completion a step changes neither the outcome nor what is due but plainly, and it
completes nothing. -/
theorem Step.after_done {outcome : Outcome} (step : Step id s event t) (plain : IsPlain s.frames)
    (kept : s.table.outcome? id = some outcome) :
    t.table.outcome? id = some outcome ∧ IsPlain t.frames ∧ event.isCompletion = false := by
  have below {frame : Frame} {below : List Frame} (innermost : s.frames = frame :: below) :
      IsPlain below := fun call due listed =>
    plain call due (innermost ▸ List.mem_cons_of_mem frame listed)
  have rest {call : Nat} {notice : Notice Nat} {rest : List (Notice Nat)} {below : List Frame}
      (innermost : s.frames = .call call (notice :: rest) :: below) :
      (∃ scope registration, notice.callback = .client scope registration) ∧
        ∀ other ∈ rest, ∃ scope registration, other.callback = .client scope registration := by
    have due := plain call _ (innermost ▸ List.mem_cons_self)
    exact ⟨due notice List.mem_cons_self,
      fun other listed => due other (List.mem_cons_of_mem notice listed)⟩
  cases step with
  | complete free attempted done =>
    rw [complete_twice kept] at done
    cases done
  | refuse free attempted late => exact ⟨kept, plain, rfl⟩
  | register free scope made =>
    rw [Deferreds.register_done kept] at made
    obtain ⟨rfl, rfl⟩ := Prod.mk.inj made
    refine ⟨kept, plain.cons ?_, rfl⟩
    rintro _ _ ⟨⟩ notice present
    obtain rfl := List.mem_singleton.mp present
    exact ⟨scope, s.calls, rfl⟩
  | @invoke call notice waiting under innermost table fresh registration told delivered =>
    obtain ⟨⟨scope, body, client⟩, others⟩ := rest innermost
    rw [deliver_client s.table client] at delivered
    obtain ⟨rfl, same⟩ := Prod.mk.inj delivered
    obtain ⟨rfl, -⟩ := Prod.mk.inj same
    refine ⟨kept, ((below innermost).cons ?_).cons nofun, rfl⟩
    rintro _ _ ⟨⟩
    exact others
  | @skip call notice waiting under innermost table fresh delivered =>
    obtain ⟨⟨scope, body, client⟩, others⟩ := rest innermost
    rw [deliver_client s.table client] at delivered
    obtain ⟨rfl, same⟩ := Prod.mk.inj delivered
    obtain ⟨rfl, -⟩ := Prod.mk.inj same
    refine ⟨kept, (below innermost).cons ?_, rfl⟩
    rintro _ _ ⟨⟩
    exact others
  | finish innermost raised => exact ⟨kept, below innermost, rfl⟩
  | leave innermost => exact ⟨kept, below innermost, rfl⟩

/-- A step that registers a callback gives it the number of the call. -/
theorem Step.registers {number : Nat} {scope : Scope}
    (step : Step id s (.registered number scope) t) : number = s.calls ∧
      ∃ table due, s.table.register id (.client scope s.calls) = (table, due) ∧
        t = ⟨table, s.calls + 1, .call s.calls due :: s.frames⟩ := by
  cases step with
  | register free _ made => exact ⟨rfl, _, _, made, rfl⟩

/-- A step that refuses a completion does so with the error of the table. -/
theorem Step.refuses {number : Nat} {attempted : Outcome} {error : Error}
    (step : Step id s (.refused number attempted error) t) :
    s.table.complete id attempted = .error error := by
  cases step with
  | refuse free _ late => exact late

/-- A step after the completion. -/
theorem Done.step {before after : List Event} {call : Nat} {outcome : Outcome}
    (state : Done id before call outcome after s)
    (numbered : Numbered (before ++ .completed call outcome :: after) s)
    (plain : IsPlain s.frames) (step : Step id s event t) :
    Done id before call outcome (after ++ [event]) t := by
  obtain ⟨kept, -, completes⟩ := step.after_done plain state.kept
  have longer : before ++ .completed call outcome :: (after ++ [event]) =
      (before ++ .completed call outcome :: after) ++ [event] := by
    rw [List.append_assoc, List.cons_append]
  have uncompleted (other : Nat) (outcome : Outcome) : event ≠ .completed other outcome := by
    rintro rfl
    cases completes
  have call_lt : call < s.calls :=
    numbered.lt (List.mem_append_right before List.mem_cons_self) rfl
  have registered_lt {number : Nat} {scope : Scope} (listed : .registered number scope ∈ after) :
      number < s.calls :=
    numbered.lt (List.mem_append_right before (List.mem_cons_of_mem _ listed)) rfl
  have unregistered {number : Nat} (older : number < s.calls) (scope : Scope) :
      event ≠ .registered number scope := by
    rintro rfl
    exact Nat.ne_of_lt older step.registers.1
  refine ⟨state.quiet, ?_, kept, ?_, ?_, ?_, ?_⟩
  · intro other listed
    rw [← List.append_assoc] at listed
    rcases mem_concat.mp listed with older | rfl
    · exact state.only other older
    · exact completes
  · intro number attempted error listed
    rcases mem_concat.mp listed with older | rfl
    · exact state.refusals number attempted error older
    · have late := step.refuses
      rw [complete_twice state.kept] at late
      exact (Except.error.inj late).symm
  · rw [longer, step.agenda_eq plain (uncompleted call) (unregistered call_lt), state.first]
  · intro number scope listed
    rw [longer]
    rcases mem_concat.mp listed with older | rfl
    · rw [step.agenda_eq plain (uncompleted number) (unregistered (registered_lt older)),
        state.own number scope older]
    · -- The call is new, so nothing began within it and nothing of it was in progress.
      obtain ⟨rfl, table, due, made, rfl⟩ := step.registers
      have fresh := state.others s.calls (Nat.ne_of_gt call_lt)
        fun other listed => Nat.lt_irrefl _ (registered_lt listed)
      obtain ⟨unheard, nothing⟩ := List.append_eq_nil_iff.mp fresh
      rw [Deferreds.register_done state.kept] at made
      obtain ⟨rfl, rfl⟩ := Prod.mk.inj made
      unfold agenda
      rw [invokedIn_concat, unheard, remaining_call, if_pos rfl, nothing, List.append_nil]
      exact filterMap_notices outcome [(s.calls, scope)]
  · intro number different unlisted
    have before (scope : Scope) : .registered number scope ∉ after := fun listed =>
      unlisted scope (List.mem_append_left _ listed)
    have now (scope : Scope) : event ≠ .registered number scope := by
      rintro rfl
      exact unlisted scope (List.mem_append_right _ (List.mem_singleton.mpr rfl))
    rw [longer, step.agenda_eq plain (uncompleted number) now,
      state.others number different before]

/-- In every state of a run calls are numbered, plain callbacks are due, and the conversation is
before the completion or after it. -/
theorem Run.phase {table : Deferreds Nat} {timeout : Option Number}
    (run : Run table.size (start table timeout) log s) :
    Numbered log s ∧ IsPlain s.frames ∧ Phase table.size log s := by
  induction run with
  | nil => exact ⟨.start table timeout, nofun, .pending (.start table timeout)⟩
  | snoc earlier step ih =>
    obtain ⟨numbered, plain, phase⟩ := ih
    refine ⟨numbered.step step, ?_⟩
    cases phase with
    | pending state => exact state.step step
    | done split state =>
      subst split
      refine ⟨(step.after_done plain state.kept).2.1, .done ?_ (state.step numbered plain step)⟩
      rw [List.append_assoc, List.cons_append]

/-! ## Once, in order, and within which call -/

/-- No two calls have one number. -/
theorem Numbered.pairwise (numbered : Numbered log s) :
    log.Pairwise fun one other =>
      ∀ m, one.begins? = some m → ∀ n, other.begins? = some n → m ≠ n := by
  rw [← List.pairwise_filterMap, numbered.begun]
  exact List.nodup_range

/-- A number stands for one call. -/
theorem Numbered.unique (numbered : Numbered log s) {one other : Event} {number : Nat}
    (first : one ∈ log) (second : other ∈ log) (begins : one.begins? = some number)
    (begins' : other.begins? = some number) : one = other := by
  by_contra different
  have symmetric : Std.Symm fun one other : Event =>
      ∀ m, one.begins? = some m → ∀ n, other.begins? = some n → m ≠ n :=
    ⟨fun _ _ apart m left n right => (apart n right m left).symm⟩
  exact numbered.pairwise.forall first second different number begins number begins' rfl

/-- A call that has returned has nothing left to run. -/
theorem Numbered.remaining_returned {call : Nat} (numbered : Numbered log s)
    (returned : .returned call ∈ log) : remaining call s.frames = [] :=
  remaining_eq_nil fun listed => numbered.unreturned call listed returned

/-- Registrations are counted within the one call in which they run. -/
theorem timesInvoked_eq {registration call : Nat}
    (within : ∀ number told, .invoked number registration told ∈ log → number = call) :
    timesInvoked registration log =
      (invokedIn call log).countP fun begun => begun.1 == registration := by
  unfold timesInvoked invokedIn
  rw [List.countP_filterMap]
  apply List.countP_congr
  intro event listed
  cases event with
  | invoked number other told =>
    by_cases same : other = registration
    · subst same
      simp [Event.invokes, Event.invocationIn?, within number told listed]
    · by_cases here : number = call <;> simp [Event.invokes, Event.invocationIn?, same, here]
  | completed | refused | registered | skipped | ended | returned => rfl

/-- Among registrations with different numbers one is for an outcome once or not at all. -/
theorem countP_fitting {made : List (Nat × Scope)} {registration : Nat} {scope : Scope}
    (different : made.Pairwise fun one other => one.1 ≠ other.1)
    (listed : (registration, scope) ∈ made) (outcome : Outcome) :
    (fitting outcome made).countP (fun begun => begun.1 == registration) =
      (scope.covers outcome).toNat := by
  unfold fitting
  rw [List.countP_map, List.countP_filter]
  induction made with
  | nil => cases listed
  | cons first rest ih =>
    obtain ⟨apart, different⟩ := List.pairwise_cons.mp different
    rw [List.countP_cons]
    rcases List.mem_cons.mp listed with rfl | older
    · have none_left : rest.countP (fun made => (made.1 == registration) && made.2.covers outcome) =
          0 := by
        apply List.countP_eq_zero.mpr
        intro other present
        simp [(apart other present).symm]
      cases covers : scope.covers outcome <;> simpa [covers] using none_left
    · have other : first.1 ≠ registration := apart _ older
      simpa [other] using ih different older

/-- A registration begins a call of its number. -/
theorem begins_of_registration {made : Nat × Scope} (registers : event.registration? = some made) :
    event.begins? = some made.1 := by
  cases event with
  | registered number scope =>
    obtain rfl := Option.some.inj registers
    rfl
  | completed | refused | invoked | skipped | ended | returned => cases registers

/-- A registration is one of the log. -/
theorem mem_registrations {registration : Nat} {scope : Scope} :
    (registration, scope) ∈ registrations log ↔ .registered registration scope ∈ log := by
  unfold registrations
  rw [List.mem_filterMap]
  constructor
  · rintro ⟨event, listed, same⟩
    cases event with
    | registered number other =>
      obtain ⟨rfl, rfl⟩ := Prod.mk.inj (Option.some.inj same)
      exact listed
    | completed | refused | invoked | skipped | ended | returned => cases same
  · intro listed
    exact ⟨_, listed, rfl⟩

/-- What begins within a call. -/
theorem mem_invokedIn {call registration : Nat} {told : Outcome} :
    (registration, told) ∈ invokedIn call log ↔ .invoked call registration told ∈ log := by
  unfold invokedIn
  rw [List.mem_filterMap]
  constructor
  · rintro ⟨event, listed, same⟩
    cases event with
    | invoked number other outcome =>
      obtain ⟨rfl, begun⟩ := Option.ite_none_right_eq_some.mp same
      obtain ⟨rfl, rfl⟩ := Prod.mk.inj (Option.some.inj begun)
      exact listed
    | completed | refused | registered | skipped | ended | returned => cases same
  · intro listed
    exact ⟨_, listed, if_pos rfl⟩

/-- What is for an outcome. -/
theorem mem_fitting {outcome told : Outcome} {made : List (Nat × Scope)} {registration : Nat} :
    (registration, told) ∈ fitting outcome made ↔
      told = outcome ∧ ∃ scope, scope.covers outcome = true ∧ (registration, scope) ∈ made := by
  unfold fitting
  rw [List.mem_map]
  constructor
  · rintro ⟨⟨number, scope⟩, listed, same⟩
    obtain ⟨rfl, rfl⟩ := Prod.mk.inj same
    obtain ⟨present, covers⟩ := List.mem_filter.mp listed
    exact ⟨rfl, scope, covers, present⟩
  · rintro ⟨rfl, scope, covers, present⟩
    exact ⟨(registration, scope), List.mem_filter.mpr ⟨present, covers⟩, rfl⟩

/-- What holds from a completion on. -/
structure Settled (id : DeferredId) (before : List Event) (call : Nat) (outcome : Outcome)
    (after log : List Event) (s : Conversation) : Prop where
  /-- No other completion takes effect. -/
  only : ∀ event ∈ before ++ after, event.isCompletion = false
  /-- Before it nothing is refused, and no callback begins. -/
  quiet : ∀ event ∈ before, event.IsQuiet
  /-- Its outcome is kept. -/
  kept : s.table.outcome? id = some outcome
  /-- Every later attempt is refused, with the state and what was attempted, and runs nothing. -/
  refusals : ∀ number attempted error, .refused number attempted error ∈ log →
    error = .doubleCompletion (stateOf outcome) (completionVerb attempted) ∧
      invokedIn number log = []
  /-- The completion runs, in order, the callbacks for its outcome that were registered before. -/
  inOrder : invokedIn call log <+: fitting outcome (registrations before)
  /-- When it returns it has run them all. -/
  all : .returned call ∈ log → invokedIn call log = fitting outcome (registrations before)
  /-- A later registration runs its own callback if that is for the outcome, and no other. -/
  own : ∀ number scope, .registered number scope ∈ after →
    invokedIn number log <+: fitting outcome [(number, scope)] ∧
      (.returned number ∈ log → invokedIn number log = fitting outcome [(number, scope)])
  /-- A callback that begins is told the outcome, is for it, and runs within the call that it should
  run in. -/
  told : ∀ number registration told, .invoked number registration told ∈ log →
    told = outcome ∧ ∃ scope, scope.covers outcome = true ∧
      (number = call ∧ .registered registration scope ∈ before ∨
        number = registration ∧ .registered registration scope ∈ after)
  /-- A callback runs at most once, and only if it is for the outcome; once no call is in progress,
  it has run if it is. -/
  once : ∀ registration scope, .registered registration scope ∈ log →
    timesInvoked registration log ≤ (scope.covers outcome).toNat ∧
      (s.frames = [] → timesInvoked registration log = (scope.covers outcome).toNat)
  /-- A callback begins after the call in which it runs has begun and before that returns. -/
  during : ∀ front number registration told rest,
    log = front ++ .invoked number registration told :: rest →
      number ∈ front.filterMap Event.begins? ∧ .returned number ∉ front

/-- After the completion a callback runs in one call only, and is told the outcome. -/
theorem Done.told {before after : List Event} {call : Nat} {outcome : Outcome}
    (state : Done id before call outcome after s)
    (log_eq : log = before ++ .completed call outcome :: after) {number registration : Nat}
    {told : Outcome} (listed : .invoked number registration told ∈ log) :
    told = outcome ∧ ∃ scope, scope.covers outcome = true ∧
      (number = call ∧ .registered registration scope ∈ before ∨
        number = registration ∧ .registered registration scope ∈ after) := by
  have member : (registration, told) ∈ agenda number log s :=
    List.mem_append_left _ (mem_invokedIn.mpr listed)
  rw [log_eq] at member
  by_cases first : number = call
  · subst first
    rw [state.first] at member
    obtain ⟨same, scope, covers, made⟩ := mem_fitting.mp member
    exact ⟨same, scope, covers, .inl ⟨rfl, mem_registrations.mp made⟩⟩
  · by_cases registers : ∃ scope, .registered number scope ∈ after
    · obtain ⟨scope, made⟩ := registers
      rw [state.own number scope made] at member
      obtain ⟨same, other, covers, single⟩ := mem_fitting.mp member
      obtain ⟨rfl, rfl⟩ := Prod.mk.inj (List.mem_singleton.mp single)
      exact ⟨same, other, covers, .inr ⟨rfl, made⟩⟩
    · rw [state.others number first fun scope made => registers ⟨scope, made⟩] at member
      cases member

/-- How often a callback runs, if all that its call runs or has yet to run is known. -/
theorem timesInvoked_of_agenda (call : Nat) {registration : Nat} {scope : Scope}
    {outcome : Outcome} {made : List (Nat × Scope)}
    (within : ∀ number told, .invoked number registration told ∈ log → number = call)
    (known : agenda call log s = fitting outcome made)
    (different : made.Pairwise fun one other => one.1 ≠ other.1)
    (listed : (registration, scope) ∈ made) :
    timesInvoked registration log ≤ (scope.covers outcome).toNat ∧
      (s.frames = [] → timesInvoked registration log = (scope.covers outcome).toNat) := by
  have total := countP_fitting different listed outcome
  rw [← known, agenda, List.countP_append, ← timesInvoked_eq within] at total
  refine ⟨by omega, fun idle => ?_⟩
  rw [idle] at total
  exact total

/-- After the completion an attempt is refused for the outcome, and its call runs nothing. -/
theorem Done.refused {before after : List Event} {call : Nat} {outcome : Outcome}
    (state : Done id before call outcome after s)
    (log_eq : log = before ++ .completed call outcome :: after) (numbered : Numbered log s)
    {number : Nat} {attempted : Outcome} {error : Error}
    (listed : .refused number attempted error ∈ log) :
    error = .doubleCompletion (stateOf outcome) (completionVerb attempted) ∧
      invokedIn number log = [] := by
  have late : .refused number attempted error ∈ after := by
    rw [log_eq] at listed
    rcases List.mem_append.mp listed with early | here
    · exact (state.quiet _ early).elim
    · exact (List.mem_cons.mp here).resolve_left nofun
  -- The number stands for the refused call, which is neither the completion nor a registration.
  have other {event : Event} (present : event ∈ log) (begins : event.begins? = some number) :
      event = .refused number attempted error := numbered.unique present listed begins rfl
  refine ⟨state.refusals number attempted error late, ?_⟩
  have nothing : agenda number log s = [] := by
    rw [log_eq]
    apply state.others number
    · rintro rfl
      have completed : .completed number outcome ∈ log :=
        log_eq ▸ List.mem_append_right before List.mem_cons_self
      cases other completed rfl
    · intro scope made
      have registered : .registered number scope ∈ log :=
        log_eq ▸ List.mem_append_right before (List.mem_cons_of_mem _ made)
      cases other registered rfl
  exact (List.append_eq_nil_iff.mp nothing).1

/-- A callback runs at most once, and once no call is in progress it has run if it is for the
outcome. -/
theorem Done.once {before after : List Event} {call : Nat} {outcome : Outcome}
    (state : Done id before call outcome after s)
    (log_eq : log = before ++ .completed call outcome :: after) (numbered : Numbered log s)
    {registration : Nat} {scope : Scope} (made : .registered registration scope ∈ log) :
    timesInvoked registration log ≤ (scope.covers outcome).toNat ∧
      (s.frames = [] → timesInvoked registration log = (scope.covers outcome).toNat) := by
  have pairwise := numbered.pairwise
  rw [log_eq, List.pairwise_append] at pairwise
  obtain ⟨numbers, -, apart⟩ := pairwise
  -- A number stands for one call, so no registration is both early and late.
  have early_late {registration : Nat} {one other : Scope}
      (early : .registered registration one ∈ before)
      (late : .registered registration other ∈ after) : False :=
    apart _ early _ (List.mem_cons_of_mem _ late) registration rfl registration rfl rfl
  rw [log_eq] at made
  rcases List.mem_append.mp made with early | here
  · refine timesInvoked_of_agenda call ?_ (log_eq ▸ state.first) ?_
      (mem_registrations.mpr early)
    · intro number told listed
      obtain ⟨-, other, -, ⟨same, -⟩ | ⟨rfl, late⟩⟩ := state.told log_eq listed
      · exact same
      · exact (early_late early late).elim
    · refine List.pairwise_filterMap.mpr (numbers.imp ?_)
      intro one other differ a registers b registers'
      refine differ a.1 ?_ b.1 ?_
      · exact begins_of_registration registers
      · exact begins_of_registration registers'
  · have late := (List.mem_cons.mp here).resolve_left nofun
    refine timesInvoked_of_agenda registration ?_ (log_eq ▸ state.own registration scope late)
      (List.pairwise_singleton _ _) (List.mem_singleton.mpr rfl)
    intro number told listed
    obtain ⟨-, other, -, ⟨-, early⟩ | ⟨same, -⟩⟩ := state.told log_eq listed
    · exact (early_late early late).elim
    · exact same

/-- What holds after the completion, put together. -/
theorem Done.settled {before after : List Event} {call : Nat} {outcome : Outcome}
    (state : Done id before call outcome after s)
    (log_eq : log = before ++ .completed call outcome :: after) (numbered : Numbered log s) :
    Settled id before call outcome after log s := by
  have first := state.first
  have own := state.own
  rw [← log_eq] at first own
  refine ⟨state.only, state.quiet, state.kept,
    fun number attempted error listed => state.refused log_eq numbered listed, ⟨_, first⟩, ?_, ?_,
    fun number registration told listed => state.told log_eq listed,
    fun registration scope made => state.once log_eq numbered made, numbered.during⟩
  · intro returned
    rw [← first, agenda, numbered.remaining_returned returned, List.append_nil]
  · intro number scope made
    have known := own number scope made
    refine ⟨⟨_, known⟩, fun returned => ?_⟩
    rw [← known, agenda, numbered.remaining_returned returned, List.append_nil]

/-! ## Everything returns -/

/-- Steps after steps. -/
theorem Run.append {u : Conversation} {more : List Event} (run : Run id s log t)
    (longer : Run id t more u) : Run id s (log ++ more) u := by
  induction longer with
  | nil => rwa [List.append_nil]
  | snoc earlier step ih =>
    rw [← List.append_assoc]
    exact ih.snoc step

/-- How many steps a frame takes at most, if nobody makes a call. -/
def Frame.load : Frame → Nat
  | .call _ due => 2 * due.length + 1
  | .body _ => 1

/-- How many steps it takes at most until nothing is in progress, if nobody makes a call. -/
def load : List Frame → Nat
  | [] => 0
  | innermost :: below => Frame.load innermost + load below

/-- What is in progress goes on by a step. -/
theorem progress (id : DeferredId) (raises : Nat → Option Error) (plain : IsPlain s.frames)
    (busy : s.frames ≠ []) : ∃ event t, Step id s event t ∧ event.GoesOn raises ∧ IsPlain t.frames ∧
      load t.frames < load s.frames := by
  obtain ⟨table, calls, frames⟩ := s
  cases frames with
  | nil => exact absurd rfl busy
  | cons innermost below =>
    have below_plain : IsPlain below := fun call due listed =>
      plain call due (List.mem_cons_of_mem innermost listed)
    cases innermost with
    | body registration =>
      refine ⟨_, _, .finish rfl (raises registration), rfl, below_plain, ?_⟩
      simp [load, Frame.load]
    | call number due =>
      have due_plain := plain number due List.mem_cons_self
      cases due with
      | nil =>
        refine ⟨_, _, .leave rfl, trivial, below_plain, ?_⟩
        simp [load, Frame.load]
      | cons notice rest =>
        obtain ⟨scope, registration, client⟩ := due_plain notice List.mem_cons_self
        have rest_plain : IsPlain (.call number rest :: below) := below_plain.cons <| by
          rintro _ _ ⟨⟩ other listed
          exact due_plain other (List.mem_cons_of_mem notice listed)
        have delivered := deliver_client table client
        split at delivered
        · refine ⟨_, _, .invoke rfl delivered, trivial, rest_plain.cons nofun, ?_⟩
          simp only [load, Frame.load, List.nil_append, List.length_cons]
          omega
        · refine ⟨_, _, .skip rfl delivered, trivial, rest_plain, ?_⟩
          simp only [load, Frame.load, List.nil_append, List.length_cons]
          omega

/-- However callbacks end, all calls in progress return. -/
theorem unwinds (raises : Nat → Option Error) (plain : IsPlain s.frames) :
    ∃ more t, Run id s more t ∧ t.frames = [] ∧ ∀ event ∈ more, event.GoesOn raises := by
  induction size : load s.frames using Nat.strongRecOn generalizing s with
  | ind size ih =>
    by_cases idle : s.frames = []
    · exact ⟨[], s, .nil, idle, nofun⟩
    · obtain ⟨event, t, step, goesOn, plain, less⟩ := progress id raises plain idle
      obtain ⟨more, u, run, idle, rest⟩ := ih _ (size ▸ less) plain rfl
      refine ⟨[event] ++ more, u, (Run.nil.snoc step).append run, idle, ?_⟩
      rintro other listed
      rcases List.mem_cons.mp listed with rfl | later
      · exact goesOn
      · exact rest other later

/-! ## The life of a deferred result -/

/-- A log splits in one way at its only completion. -/
theorem split_unique {before before' after after' : List Event} {one other : Event}
    (same : before ++ one :: after = before' ++ other :: after')
    (only : ∀ event ∈ before ++ after, event.isCompletion = false)
    (completes : other.isCompletion = true) :
    before = before' ∧ one = other ∧ after = after' := by
  induction before generalizing before' with
  | nil =>
    cases before' with
    | nil =>
      obtain ⟨rfl, rfl⟩ := List.cons.inj same
      exact ⟨rfl, rfl, rfl⟩
    | cons first rest =>
      obtain ⟨rfl, rfl⟩ := List.cons.inj same
      rw [only other (by simp)] at completes
      cases completes
  | cons first rest ih =>
    cases before' with
    | nil =>
      obtain ⟨rfl, rfl⟩ := List.cons.inj same
      rw [only first (by simp)] at completes
      cases completes
    | cons first' rest' =>
      obtain ⟨rfl, tail⟩ := List.cons.inj same
      obtain ⟨rfl, rfl, rfl⟩ := ih tail fun event listed =>
        only event (List.mem_cons_of_mem first listed)
      exact ⟨rfl, rfl, rfl⟩

/-- In every run of completions and registrations, made between calls and from within callbacks that
may end with an error: as long as no completion has taken effect, the result is pending, nothing is
refused and no callback begins; from the first completion on, its outcome is kept, all others are
refused, and callbacks run once if they are for the outcome, when and within the call that they
should. However callbacks end, all calls in progress return. -/
theorem lifecycle_of_run {table : Deferreds Nat} {timeout : Option Number}
    (run : Run table.size (start table timeout) log s) :
    ((∀ event ∈ log, event.isCompletion = false) →
      s.table.outcome? table.size = none ∧ ∀ event ∈ log, event.IsQuiet) ∧
    (∀ before call outcome after, log = before ++ .completed call outcome :: after →
      Settled table.size before call outcome after log s) ∧
    ∀ raises : Nat → Option Error, ∃ more t, Run table.size s more t ∧ t.frames = [] ∧
      ∀ event ∈ more, event.GoesOn raises := by
  obtain ⟨numbered, plain, phase⟩ := run.phase
  refine ⟨fun uncompleted => ?_, fun before call outcome after log_eq => ?_, fun raises =>
    unwinds raises plain⟩
  · cases phase with
    | pending state => exact ⟨state.pending, state.quiet⟩
    | done log_eq state =>
      have completed := uncompleted _ (log_eq ▸ List.mem_append_right _ List.mem_cons_self)
      cases completed
  · cases phase with
    | pending state =>
      have completed :=
        state.uncompleted _ (log_eq ▸ List.mem_append_right before List.mem_cons_self)
      cases completed
    | done split state =>
      obtain ⟨rfl, same, rfl⟩ := split_unique (split.symm.trans log_eq) state.only rfl
      obtain ⟨rfl, rfl⟩ := Event.completed.inj same
      exact state.settled log_eq numbered

/-- Three callbacks are registered, and the result is completed. The first callback tries to fail
it, registers a callback that raises an error, and raises one itself; the second runs
nevertheless, and the third, which is for failures, does not. -/
theorem lifecycle_of_run_nested :
    let before : List Event := [.registered 0 .both, .returned 0, .registered 1 .success,
      .returned 1, .registered 2 .failure, .returned 2]
    let after : List Event := [.invoked 3 0 (.ok .nothing),
      .refused 4 (.error .stillPending) (.doubleCompletion .resolved "fail"),
      .registered 5 .both, .invoked 5 5 (.ok .nothing), .ended 5 (some .stillPending),
      .returned 5, .ended 0 (some .stillPending), .invoked 3 1 (.ok .nothing), .ended 1 none,
      .skipped 3, .returned 3]
    ∃ s, Run 0 (start .empty none) (before ++ .completed 3 (.ok .nothing) :: after) s ∧
      Settled 0 before 3 (.ok .nothing) after
        (before ++ .completed 3 (.ok .nothing) :: after) s := by
  intro before after
  have idle : Run (.empty : Deferreds Nat).size (start .empty none) [] _ := .nil
  have registered := idle
    |>.snoc (.register (by trivial) .both rfl) |>.snoc (.leave rfl)
    |>.snoc (.register (by trivial) .success rfl) |>.snoc (.leave rfl)
    |>.snoc (.register (by trivial) .failure rfl) |>.snoc (.leave rfl)
  have begun := registered
    |>.snoc (.complete (by trivial) (.ok .nothing) rfl) |>.snoc (.invoke rfl rfl)
    |>.snoc (.refuse (by trivial) (.error .stillPending) rfl)
    |>.snoc (.register (by trivial) .both rfl) |>.snoc (.invoke rfl rfl)
  have run := begun
    |>.snoc (.finish rfl (some .stillPending)) |>.snoc (.leave rfl)
    |>.snoc (.finish rfl (some .stillPending)) |>.snoc (.invoke rfl rfl)
    |>.snoc (.finish rfl none) |>.snoc (.skip rfl rfl) |>.snoc (.leave rfl)
  exact ⟨_, run, (lifecycle_of_run run).2.1 before 3 (.ok .nothing) after rfl⟩

end Conversation
end WideColumn
