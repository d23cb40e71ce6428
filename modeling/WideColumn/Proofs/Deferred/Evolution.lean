import WideColumn.Proofs.Deferred.Lookup

/-!
# How the table of deferred results evolves

Whatever happens to the table, references stay valid, a barrier keeps its members and an outcome is
for good. A deferred result that is no barrier gets its outcome by an explicit completion only,
which is the one parameter of `Evolves`; every other operation leaves its outcome as it was.
-/
namespace WideColumn.Deferreds

variable {β : Type}

/-! ## Look-ups after each operation -/

/-- A change that keeps outcomes is not seen in them. -/
theorem outcome?_modify (table : Deferreds β) (id other : DeferredId)
    {change : Deferred β → Deferred β} (keeps : ∀ d, (change d).outcome = d.outcome) :
    (table.modify id change).outcome? other = table.outcome? other := by
  unfold outcome?
  rw [get?_modify]
  split
  · cases table.get? other with
    | none => rfl
    | some deferred => exact keeps deferred
  · rfl

/-- A change that keeps what barriers wait for is not seen there. -/
theorem fanIn?_modify (table : Deferreds β) (id other : DeferredId)
    {change : Deferred β → Deferred β} (keeps : ∀ d, (change d).fanIn = d.fanIn) :
    (table.modify id change).fanIn? other = table.fanIn? other := by
  unfold fanIn?
  rw [get?_modify]
  split
  · cases table.get? other with
    | none => rfl
    | some deferred => exact keeps deferred
  · rfl

/-- A change that keeps callbacks is not seen in them. -/
theorem callbacksOf_modify (table : Deferreds β) (id other : DeferredId)
    {change : Deferred β → Deferred β} (keeps : ∀ d, (change d).callbacks = d.callbacks) :
    (table.modify id change).callbacksOf other = table.callbacksOf other := by
  unfold callbacksOf
  rw [get?_modify]
  split
  · cases table.get? other with
    | none => rfl
    | some deferred =>
      show ((some (change deferred)).map Deferred.callbacks).getD [] = _
      simp [keeps deferred]
  · rfl

/-- A new entry leaves older outcomes alone. -/
theorem outcome?_add_ne (table : Deferreds β) (deferred : Deferred β) {id : DeferredId}
    (different : id ≠ table.size) : (table.add deferred).2.outcome? id = table.outcome? id := by
  unfold outcome?
  rw [get?_add_ne table deferred different]

@[simp] theorem outcome?_add_self (table : Deferreds β) (deferred : Deferred β) :
    (table.add deferred).2.outcome? table.size = deferred.outcome := by
  unfold outcome?
  rw [get?_add_self]
  rfl

/-- A new entry leaves older barriers alone. -/
theorem fanIn?_add_ne (table : Deferreds β) (deferred : Deferred β) {id : DeferredId}
    (different : id ≠ table.size) : (table.add deferred).2.fanIn? id = table.fanIn? id := by
  unfold fanIn?
  rw [get?_add_ne table deferred different]

@[simp] theorem fanIn?_add_self (table : Deferreds β) (deferred : Deferred β) :
    (table.add deferred).2.fanIn? table.size = deferred.fanIn := by
  unfold fanIn?
  rw [get?_add_self]
  rfl

/-- A new entry leaves the callbacks of older entries alone. -/
theorem callbacksOf_add_ne (table : Deferreds β) (deferred : Deferred β) {id : DeferredId}
    (different : id ≠ table.size) :
    (table.add deferred).2.callbacksOf id = table.callbacksOf id := by
  unfold callbacksOf
  rw [get?_add_ne table deferred different]

@[simp] theorem callbacksOf_add_self (table : Deferreds β) (deferred : Deferred β) :
    (table.add deferred).2.callbacksOf table.size = deferred.callbacks := by
  unfold callbacksOf
  rw [get?_add_self]
  rfl

/-- The table after a completion that takes effect. -/
def completed (table : Deferreds β) (id : DeferredId) (outcome : Outcome) : Deferreds β :=
  table.modify id fun d => { d with outcome := some outcome, callbacks := [] }

/-- The first completion of a deferred result takes effect and makes its callbacks due. -/
theorem complete_eq {table : Deferreds β} {id : DeferredId} (known : id < table.size)
    (pending : table.outcome? id = none) (outcome : Outcome) :
    table.complete id outcome =
      .ok (table.completed id outcome, notices id outcome (table.callbacksOf id)) := by
  obtain ⟨deferred, found⟩ := (table.exists_get?_iff id).mpr known
  have open_ : deferred.isDone = false := by
    simpa [outcome?, found, Deferred.isDone] using pending
  unfold complete callbacksOf completed
  simp [found, open_]

/-- A completion of something that has an outcome is refused. -/
theorem complete_error {table : Deferreds β} {id : DeferredId} {outcome old : Outcome}
    (done : table.outcome? id = some old) : ∃ error, table.complete id outcome = .error error := by
  obtain ⟨deferred, found, has⟩ := Option.bind_eq_some_iff.mp done
  have closed : deferred.isDone = true := by simp [Deferred.isDone, has]
  exact ⟨.doubleCompletion deferred.state (completionVerb outcome), by
    unfold complete
    simp [found, closed]⟩

/-- Only what is pending is completed. -/
theorem of_complete_ok {table after : Deferreds β} {id : DeferredId} (known : id < table.size)
    {outcome : Outcome} {fresh : List (Notice β)}
    (done : table.complete id outcome = .ok (after, fresh)) :
    table.outcome? id = none ∧ after = table.completed id outcome ∧
      fresh = notices id outcome (table.callbacksOf id) := by
  cases before : table.outcome? id with
  | some old =>
    obtain ⟨error, refused⟩ := complete_error before
    rw [refused] at done
    cases done
  | none =>
    rw [complete_eq known before] at done
    obtain ⟨rfl, rfl⟩ := Prod.mk.inj (Except.ok.inj done)
    exact ⟨rfl, rfl, rfl⟩

@[simp] theorem size_completed (table : Deferreds β) (id : DeferredId) (outcome : Outcome) :
    (table.completed id outcome).size = table.size := size_modify ..

/-- A completion is seen under its reference. -/
theorem outcome?_completed_self {table : Deferreds β} {id : DeferredId} (known : id < table.size)
    (outcome : Outcome) : (table.completed id outcome).outcome? id = some outcome := by
  obtain ⟨deferred, found⟩ := (table.exists_get?_iff id).mpr known
  unfold outcome? completed
  rw [get?_modify_self found]
  rfl

/-- A completion leaves other outcomes alone. -/
theorem outcome?_completed_ne (table : Deferreds β) {id other : DeferredId}
    (different : id ≠ other) (outcome : Outcome) :
    (table.completed id outcome).outcome? other = table.outcome? other := by
  unfold outcome? completed
  rw [get?_modify_ne table different]

@[simp] theorem fanIn?_completed (table : Deferreds β) (id other : DeferredId)
    (outcome : Outcome) : (table.completed id outcome).fanIn? other = table.fanIn? other :=
  fanIn?_modify table id other fun _ => rfl

/-- What is complete has no callbacks left. -/
theorem callbacksOf_completed (table : Deferreds β) (id other : DeferredId) (outcome : Outcome) :
    (table.completed id outcome).callbacksOf other =
      if id = other then [] else table.callbacksOf other := by
  unfold callbacksOf completed
  rw [get?_modify]
  split
  · cases table.get? other <;> rfl
  · rfl

/-- Completing makes waiting callbacks due, one for one. -/
theorem waiting_completed {table : Deferreds β} {id : DeferredId} (known : id < table.size)
    (outcome : Outcome) (barrier : DeferredId) :
    (table.completed id outcome).waiting barrier +
        Notice.dueFor barrier (notices id outcome (table.callbacksOf id)) =
      table.waiting barrier := by
  obtain ⟨deferred, found⟩ := (table.exists_get?_iff id).mpr known
  have moved := waiting_modify found
    (fun d => { d with outcome := some outcome, callbacks := [] }) barrier
  have counted : Notice.dueFor barrier (notices id outcome (table.callbacksOf id)) =
      Callback.counting barrier deferred.callbacks := by
    unfold Notice.dueFor notices callbacksOf
    rw [found, List.map_map]
    exact congrArg _ (List.map_id _)
  rw [counted]
  exact moved

/-- The table after a callback was registered for something pending. -/
def registered (table : Deferreds β) (id : DeferredId) (callback : Callback β) : Deferreds β :=
  table.modify id fun d => { d with callbacks := d.callbacks ++ [callback] }

@[simp] theorem size_registered (table : Deferreds β) (id : DeferredId)
    (callback : Callback β) : (table.registered id callback).size = table.size := size_modify ..

@[simp] theorem outcome?_registered (table : Deferreds β) (id other : DeferredId)
    (callback : Callback β) :
    (table.registered id callback).outcome? other = table.outcome? other :=
  outcome?_modify table id other fun _ => rfl

@[simp] theorem fanIn?_registered (table : Deferreds β) (id other : DeferredId)
    (callback : Callback β) : (table.registered id callback).fanIn? other = table.fanIn? other :=
  fanIn?_modify table id other fun _ => rfl

/-- A registered callback comes after those that wait already. -/
theorem callbacksOf_registered {table : Deferreds β} {id : DeferredId} (known : id < table.size)
    (callback : Callback β) (other : DeferredId) :
    (table.registered id callback).callbacksOf other =
      if id = other then table.callbacksOf other ++ [callback] else table.callbacksOf other := by
  obtain ⟨deferred, found⟩ := (table.exists_get?_iff id).mpr known
  unfold callbacksOf registered
  rw [get?_modify]
  split
  · rename_i same
    subst same
    rw [found]
    rfl
  · rfl

/-- A registered callback is counted. -/
theorem waiting_registered {table : Deferreds β} {id : DeferredId} (known : id < table.size)
    (callback : Callback β) (barrier : DeferredId) :
    (table.registered id callback).waiting barrier =
      table.waiting barrier + if callback.countsFor barrier then 1 else 0 := by
  obtain ⟨deferred, found⟩ := (table.exists_get?_iff id).mpr known
  have moved := waiting_modify found
    (fun d => { d with callbacks := d.callbacks ++ [callback] }) barrier
  simp only [Callback.counting_append, Callback.counting_cons, Callback.counting_nil] at moved
  unfold registered
  omega

/-- A callback for something pending waits. -/
theorem register_pending {table : Deferreds β} {id : DeferredId}
    (pending : table.outcome? id = none) (callback : Callback β) :
    table.register id callback = (table.registered id callback, []) := by
  unfold register
  rw [pending]
  rfl

/-- A callback for something terminal is due at once. -/
theorem register_done {table : Deferreds β} {id : DeferredId} {outcome : Outcome}
    (done : table.outcome? id = some outcome) (callback : Callback β) :
    table.register id callback = (table, [⟨id, callback, outcome⟩]) := by
  unfold register
  rw [done]

/-- A registration leaves what barriers wait for as it is. -/
theorem fanIn?_register (table : Deferreds β) (id other : DeferredId) (callback : Callback β) :
    (table.register id callback).1.fanIn? other = table.fanIn? other := by
  cases done : table.outcome? id with
  | none =>
    rw [register_pending done]
    exact fanIn?_registered table id other callback
  | some outcome => rw [register_done done]

/-- A registration leaves outcomes as they are. -/
theorem outcome?_register (table : Deferreds β) (id other : DeferredId) (callback : Callback β) :
    (table.register id callback).1.outcome? other = table.outcome? other := by
  cases done : table.outcome? id with
  | none =>
    rw [register_pending done]
    exact outcome?_registered table id other callback
  | some outcome => rw [register_done done]

/-! ## Evolution -/

/-- What becomes of a table: nothing that was known changes, but for the outcome of one deferred
result that may be completed, and of barriers. -/
structure Evolves (completes : Option DeferredId) (a b : Deferreds β) : Prop where
  /-- References stay valid. -/
  size_le : a.size ≤ b.size
  /-- A barrier keeps its members, and nothing else becomes a barrier. -/
  members : ∀ {id}, id < a.size → b.members? id = a.members? id
  /-- An outcome is for good. -/
  outcome : ∀ {id outcome}, a.outcome? id = some outcome → b.outcome? id = some outcome
  /-- What is no barrier stays pending unless it is completed. -/
  plain : ∀ {id}, id < a.size → a.members? id = none → completes ≠ some id →
    b.outcome? id = a.outcome? id

namespace Evolves

/-- Nothing happened. -/
theorem refl (completes : Option DeferredId) (a : Deferreds β) : Evolves completes a a :=
  ⟨Nat.le_refl _, fun _ => rfl, fun done => done, fun _ _ _ => rfl⟩

/-- One thing after another. -/
theorem trans {completes : Option DeferredId} {a b c : Deferreds β}
    (first : Evolves completes a b) (second : Evolves completes b c) : Evolves completes a c := by
  refine ⟨Nat.le_trans first.size_le second.size_le, ?_, ?_, ?_⟩
  · intro id known
    rw [second.members (Nat.lt_of_lt_of_le known first.size_le), first.members known]
  · intro id outcome done
    exact second.outcome (first.outcome done)
  · intro id known free other
    have still : b.members? id = none := by rw [first.members known, free]
    rw [second.plain (Nat.lt_of_lt_of_le known first.size_le) still other,
      first.plain known free other]

end Evolves

/-- What is for good: references, the members of a barrier, and outcomes. -/
structure Grows (a b : Deferreds β) : Prop where
  /-- References stay valid. -/
  size_le : a.size ≤ b.size
  /-- A barrier keeps its members, and nothing else becomes a barrier. -/
  members : ∀ {id}, id < a.size → b.members? id = a.members? id
  /-- An outcome is for good. -/
  outcome : ∀ {id outcome}, a.outcome? id = some outcome → b.outcome? id = some outcome

/-- Whatever is completed, this much is for good. -/
theorem Evolves.grows {completes : Option DeferredId} {a b : Deferreds β}
    (evolves : Evolves completes a b) : Grows a b :=
  ⟨evolves.size_le, evolves.members, evolves.outcome⟩

/-- One thing after another. -/
theorem Grows.trans {a b c : Deferreds β} (first : Grows a b) (second : Grows b c) :
    Grows a c := by
  refine ⟨Nat.le_trans first.size_le second.size_le, ?_, ?_⟩
  · intro id known
    rw [second.members (Nat.lt_of_lt_of_le known first.size_le), first.members known]
  · intro id outcome done
    exact second.outcome (first.outcome done)

/-- Equal fan-ins have equal members. -/
theorem members?_congr {a b : Deferreds β} {id : DeferredId} (same : b.fanIn? id = a.fanIn? id) :
    b.members? id = a.members? id := by
  unfold members?
  rw [same]

/-- A new entry leaves everything as it was. -/
theorem evolves_add (table : Deferreds β) (deferred : Deferred β) :
    Evolves none table (table.add deferred).2 := by
  have older {id : DeferredId} (known : id < table.size) : id ≠ table.size := Nat.ne_of_lt known
  refine ⟨by simp, ?_, ?_, ?_⟩
  · intro id known
    exact members?_congr (fanIn?_add_ne table deferred (older known))
  · intro id outcome done
    rw [outcome?_add_ne table deferred (older (lt_size_of_outcome done)), done]
  · intro id known _ _
    exact outcome?_add_ne table deferred (older known)

/-- A change that keeps outcomes and members. -/
theorem evolves_modify (table : Deferreds β) (id : DeferredId) {change : Deferred β → Deferred β}
    (outcomes : ∀ d, (change d).outcome = d.outcome)
    (members : ∀ other, (table.modify id change).members? other = table.members? other) :
    Evolves none table (table.modify id change) := by
  refine ⟨by simp, fun _ => members _, ?_, ?_⟩
  · intro other outcome done
    rw [outcome?_modify table id other outcomes, done]
  · intro other _ _ _
    exact outcome?_modify table id other outcomes

/-- Registering a callback leaves everything as it was. -/
theorem evolves_register (table : Deferreds β) (id : DeferredId) (callback : Callback β) :
    Evolves none table (table.register id callback).1 := by
  cases done : table.outcome? id with
  | none =>
    rw [register_pending done]
    exact evolves_modify table id (fun _ => rfl)
      fun other => members?_congr (fanIn?_modify table id other fun _ => rfl)
  | some outcome =>
    rw [register_done done]
    exact .refl none table

/-- Completing changes the outcome of what is completed, and of nothing else. -/
theorem evolves_completed (table : Deferreds β) {id : DeferredId}
    (pending : table.outcome? id = none) (outcome : Outcome) :
    Evolves (some id) table (table.completed id outcome) := by
  refine ⟨by simp, fun _ => members?_congr (fanIn?_completed table id _ outcome), ?_, ?_⟩
  · intro other old done
    have different : id ≠ other := by
      rintro rfl
      rw [pending] at done
      cases done
    rw [outcome?_completed_ne table different outcome, done]
  · intro other _ _ different
    exact outcome?_completed_ne table (fun same => different (congrArg some same)) outcome

/-- Completing a barrier leaves everything but barriers as it was. -/
theorem evolves_completed_barrier (table : Deferreds β) {id : DeferredId} {fanIn : FanIn}
    (barrier : table.fanIn? id = some fanIn) (pending : table.outcome? id = none)
    (outcome : Outcome) : Evolves none table (table.completed id outcome) := by
  have step := evolves_completed table pending outcome
  refine ⟨step.size_le, step.members, step.outcome, ?_⟩
  intro other known free _
  apply step.plain known free
  intro same
  obtain rfl := Option.some.inj same
  simp [members?, barrier] at free

/-- The table after a barrier counted a member as terminal, before it completes. -/
def counted (table : Deferreds β) (barrier : DeferredId) (fanIn : FanIn) : Deferreds β :=
  table.modify barrier fun d =>
    { d with fanIn := some { fanIn with remaining := fanIn.remaining - 1 } }

@[simp] theorem size_counted (table : Deferreds β) (barrier : DeferredId) (fanIn : FanIn) :
    (table.counted barrier fanIn).size = table.size := size_modify ..

@[simp] theorem outcome?_counted (table : Deferreds β) (barrier other : DeferredId)
    (fanIn : FanIn) : (table.counted barrier fanIn).outcome? other = table.outcome? other :=
  outcome?_modify table barrier other fun _ => rfl

@[simp] theorem callbacksOf_counted (table : Deferreds β) (barrier other : DeferredId)
    (fanIn : FanIn) : (table.counted barrier fanIn).callbacksOf other = table.callbacksOf other :=
  callbacksOf_modify table barrier other fun _ => rfl

/-- Counting a member is seen in the barrier. -/
theorem fanIn?_counted_self {table : Deferreds β} {barrier : DeferredId} {fanIn : FanIn}
    (found : table.fanIn? barrier = some fanIn) :
    (table.counted barrier fanIn).fanIn? barrier =
      some { fanIn with remaining := fanIn.remaining - 1 } := by
  obtain ⟨deferred, present, _⟩ := Option.bind_eq_some_iff.mp found
  unfold fanIn? counted
  rw [get?_modify_self present]
  rfl

/-- Counting a member leaves other barriers alone. -/
theorem fanIn?_counted_ne (table : Deferreds β) {barrier other : DeferredId}
    (different : barrier ≠ other) (fanIn : FanIn) :
    (table.counted barrier fanIn).fanIn? other = table.fanIn? other := by
  unfold fanIn? counted
  rw [get?_modify_ne table different]

@[simp] theorem waiting_counted (table : Deferreds β) (barrier other : DeferredId)
    (fanIn : FanIn) : (table.counted barrier fanIn).waiting other = table.waiting other := by
  cases found : table.get? barrier with
  | none =>
    have outside : table.entries.length ≤ barrier := List.getElem?_eq_none_iff.mp found
    unfold counted waiting modify
    rw [List.modify_eq_self outside]
  | some deferred =>
    have same := waiting_modify found
      (fun d => { d with fanIn := some { fanIn with remaining := fanIn.remaining - 1 } }) other
    exact Nat.add_right_cancel same

/-- Counting a member leaves members and outcomes as they were. -/
theorem evolves_counted {table : Deferreds β} {barrier : DeferredId} {fanIn : FanIn}
    (found : table.fanIn? barrier = some fanIn) :
    Evolves none table (table.counted barrier fanIn) := by
  refine evolves_modify table barrier (fun _ => rfl) fun other => ?_
  show (table.counted barrier fanIn).members? other = table.members? other
  unfold members?
  by_cases same : barrier = other
  · subst same
    rw [fanIn?_counted_self found, found]
    rfl
  · rw [fanIn?_counted_ne table same]

/-- What counting a terminal member does to a barrier. -/
theorem arrive_eq {table : Deferreds β} {barrier : DeferredId} {fanIn : FanIn}
    (found : table.fanIn? barrier = some fanIn) :
    table.arrive barrier =
      if fanIn.remaining - 1 = 0 then
        (table.counted barrier fanIn).complete barrier
          ((table.counted barrier fanIn).verdict fanIn.members)
      else .ok (table.counted barrier fanIn, []) := by
  unfold fanIn? at found
  unfold arrive
  rw [found]
  rfl

/-- Counting a terminal member, and completing the barrier if it was the last, changes no outcome
but that of barriers. -/
theorem evolves_arrive {table after : Deferreds β} {barrier : DeferredId}
    {due : List (Notice β)} (arrived : table.arrive barrier = .ok (after, due)) :
    Evolves none table after := by
  cases found : table.fanIn? barrier with
  | none =>
    unfold fanIn? at found
    unfold arrive at arrived
    rw [found] at arrived
    cases arrived
    exact .refl none table
  | some fanIn =>
    rw [arrive_eq found] at arrived
    split at arrived
    · cases pending : (table.counted barrier fanIn).outcome? barrier with
      | some old =>
        obtain ⟨error, refused⟩ := complete_error pending
        rw [refused] at arrived
        cases arrived
      | none =>
        have known : barrier < (table.counted barrier fanIn).size := by
          simpa using lt_size_of_fanIn found
        rw [complete_eq known pending] at arrived
        cases arrived
        exact (evolves_counted found).trans
          (evolves_completed_barrier _ (fanIn?_counted_self found) pending _)
    · cases arrived
      exact evolves_counted found

/-- Delivering a notice to a barrier counts a member. -/
theorem deliver_member {table after : Deferreds β} {notice : Notice β} {barrier : DeferredId}
    {due : List (Notice β)} (callback : notice.callback = .member barrier)
    (arrived : table.arrive barrier = .ok (after, due)) :
    table.deliver notice = (after, due, .none) := by
  unfold deliver
  simp only [callback, arrived]

/-- Delivering a notice changes no outcome but that of barriers. -/
theorem evolves_deliver (table : Deferreds β) (notice : Notice β) :
    Evolves none table (table.deliver notice).1 := by
  cases callback : notice.callback with
  | member barrier =>
    cases arrived : table.arrive barrier with
    | ok result =>
      obtain ⟨after, due⟩ := result
      rw [deliver_member callback arrived]
      exact evolves_arrive arrived
    | error error =>
      unfold deliver
      simp only [callback, arrived]
      exact .refl none table
  | flushed reason batch =>
    unfold deliver
    simp only [callback]
    exact .refl none table
  | client scope body =>
    unfold deliver
    simp only [callback]
    exact .refl none table

/-- A barrier waits for a member that is pending. -/
theorem enrollAll_pending {table : Deferreds β} {member : DeferredId} (barrier : DeferredId)
    (rest : List DeferredId) (pending : table.outcome? member = none) :
    enrollAll barrier (member :: rest) table =
      enrollAll barrier rest (table.registered member (.member barrier)) := by
  simp only [enrollAll, enroll, register_pending pending]

/-- A barrier counts a member that is terminal already. -/
theorem enrollAll_done {table after : Deferreds β} {barrier member : DeferredId}
    {due : List (Notice β)} (rest : List DeferredId) {outcome : Outcome}
    (done : table.outcome? member = some outcome)
    (arrived : table.arrive barrier = .ok (after, due)) :
    enrollAll barrier (member :: rest) table = enrollAll barrier rest after := by
  simp only [enrollAll, enroll, register_done done, arrived]

/-- Having a barrier learn of its members changes no outcome but that of barriers. -/
theorem evolves_enrollAll (barrier : DeferredId) (members : List DeferredId)
    (table : Deferreds β) : Evolves none table (enrollAll barrier members table) := by
  induction members generalizing table with
  | nil => exact .refl none table
  | cons member rest ih =>
    cases done : table.outcome? member with
    | none =>
      have first := evolves_register table member (.member barrier)
      rw [register_pending done] at first
      rw [enrollAll_pending barrier rest done]
      exact first.trans (ih _)
    | some outcome =>
      cases arrived : table.arrive barrier with
      | ok result =>
        obtain ⟨after, due⟩ := result
        rw [enrollAll_done rest done arrived]
        exact (evolves_arrive arrived).trans (ih after)
      | error error =>
        simp only [enrollAll, enroll, register_done done, arrived]
        exact ih table

/-- A new barrier changes no outcome but that of barriers. -/
theorem evolves_group (table : Deferreds β) (members : List DeferredId)
    (timeout : Option Number) : Evolves none table (table.group members timeout).2 :=
  (evolves_add table _).trans (evolves_enrollAll _ members _)

end WideColumn.Deferreds
