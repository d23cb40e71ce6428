import WideColumn.Deferred.Basic

/-!
# The table of deferred results

References are positions, given out in order and never reused. Completing a deferred result hands
back its callbacks as notices; a second completion is refused and changes nothing. A barrier counts
each of its members once it is terminal, and the last one completes it: with nothing when no member
failed, and otherwise with the errors of the failed members in order of the members.
-/
namespace WideColumn

/-- All deferred results so far. -/
structure Deferreds (β : Type) where
  /-- The deferred results by reference. -/
  entries : List (Deferred β)

namespace Deferreds

variable {β : Type}

/-- The table before the first deferred result. -/
def empty : Deferreds β := ⟨[]⟩

instance : Inhabited (Deferreds β) := ⟨empty⟩

/-- The deferred result of a reference. -/
def get? (table : Deferreds β) (id : DeferredId) : Option (Deferred β) := table.entries[id]?

/-- The outcome under a reference. -/
def outcome? (table : Deferreds β) (id : DeferredId) : Option Outcome :=
  (table.get? id).bind Deferred.outcome

/-- Whether there is an outcome under a reference. -/
def isDone (table : Deferreds β) (id : DeferredId) : Bool := (table.outcome? id).isSome

/-- Change one deferred result. -/
def modify (table : Deferreds β) (id : DeferredId) (change : Deferred β → Deferred β) :
    Deferreds β :=
  ⟨table.entries.modify id change⟩

/-- Add a deferred result. -/
def add (table : Deferreds β) (deferred : Deferred β) : DeferredId × Deferreds β :=
  (table.entries.length, ⟨table.entries ++ [deferred]⟩)

/-- Add a pending deferred result with a bound on waits that name none. -/
def create (table : Deferreds β) (timeout : Option Number) : DeferredId × Deferreds β :=
  table.add (.pending timeout)

/-- The notices for callbacks that wait for an outcome. -/
def notices (id : DeferredId) (outcome : Outcome) (callbacks : List (Callback β)) :
    List (Notice β) :=
  callbacks.map fun callback => ⟨id, callback, outcome⟩

/-- Complete a deferred result: its callbacks become due. -/
def complete (table : Deferreds β) (id : DeferredId) (outcome : Outcome) :
    Except Error (Deferreds β × List (Notice β)) :=
  match table.get? id with
  | none => .ok (table, [])
  | some deferred =>
    if deferred.isDone then
      .error (.doubleCompletion deferred.state (completionVerb outcome))
    else
      .ok (table.modify id fun d => { d with outcome := some outcome, callbacks := [] },
        notices id outcome deferred.callbacks)

/-- Register a callback: it waits for the outcome, or is due at once if there is one. -/
def register (table : Deferreds β) (id : DeferredId) (callback : Callback β) :
    Deferreds β × List (Notice β) :=
  match table.outcome? id with
  | some outcome => (table, [⟨id, callback, outcome⟩])
  | none => (table.modify id fun d => { d with callbacks := d.callbacks ++ [callback] }, [])

/-- The errors of the failed members, in order of the members. -/
def failures (table : Deferreds β) (members : List DeferredId) : List Error :=
  members.filterMap fun member => (table.get? member).bind Deferred.error?

/-- The outcome of a barrier whose members are all terminal. -/
def verdict (table : Deferreds β) (members : List DeferredId) : Outcome :=
  match table.failures members with
  | [] => .ok .nothing
  | failures => .error (.flushFailed failures)

/-- Count a member of a barrier as terminal. The last one completes the barrier. -/
def arrive (table : Deferreds β) (barrier : DeferredId) :
    Except Error (Deferreds β × List (Notice β)) :=
  match (table.get? barrier).bind Deferred.fanIn with
  | none => .ok (table, [])
  | some fanIn =>
    let remaining := fanIn.remaining - 1
    let table := table.modify barrier fun d => { d with fanIn := some { fanIn with remaining } }
    if remaining = 0 then table.complete barrier (table.verdict fanIn.members)
    else .ok (table, [])

/-- Add a barrier over members none of which is counted yet. Without members it is complete. -/
def openGroup (table : Deferreds β) (members : List DeferredId) (timeout : Option Number) :
    DeferredId × Deferreds β :=
  let outcome := if members.isEmpty then some (.ok .nothing) else none
  table.add ⟨outcome, [], timeout, some ⟨members, members.length⟩⟩

/-- Have a barrier learn of the completion of one member. -/
def enroll (table : Deferreds β) (barrier member : DeferredId) : Deferreds β × List (Notice β) :=
  table.register member (.member barrier)

/-- Have a barrier learn of the completions of its members. Members that are terminal already count
at once; since nobody else knows the barrier yet, that makes no other callback due. -/
def enrollAll (barrier : DeferredId) : List DeferredId → Deferreds β → Deferreds β
  | [], table => table
  | member :: rest, table =>
    match table.enroll barrier member with
    | (table, []) => enrollAll barrier rest table
    | (table, _ :: _) =>
      match table.arrive barrier with
      | .ok (table, _) => enrollAll barrier rest table
      | .error _ => enrollAll barrier rest table

/-- Add a barrier over members. -/
def group (table : Deferreds β) (members : List DeferredId) (timeout : Option Number) :
    DeferredId × Deferreds β :=
  let (barrier, table) := table.openGroup members timeout
  (barrier, enrollAll barrier members table)

/-- What a delivered callback does beyond the table. -/
inductive Effect (β : Type) where
  /-- Nothing. -/
  | none
  /-- A flush is over. -/
  | flushed (reason : FlushReason) (batch : Nat) (outcome : Outcome)
  /-- The body of a client's callback is to be run on an outcome. -/
  | client (body : β) (outcome : Outcome)
  /-- A barrier could not be completed, since somebody else had done so. -/
  | refused (error : Error)

/-- Deliver a notice: the table afterwards, further notices that became due, to be delivered before
anything else, and what is left to do. -/
def deliver (table : Deferreds β) (notice : Notice β) :
    Deferreds β × List (Notice β) × Effect β :=
  match notice.callback with
  | .member barrier =>
    match table.arrive barrier with
    | .ok (table, due) => (table, due, .none)
    | .error error => (table, [], .refused error)
  | .flushed reason batch => (table, [], .flushed reason batch notice.outcome)
  | .client scope body =>
    (table, [], if scope.covers notice.outcome then .client body notice.outcome else .none)

end Deferreds
end WideColumn
