import WideColumn.Execution

/-!
# Deferred results

A deferred result is pending until it is completed, once and for good, with a value or an error.
Whoever wants to know registers a callback: one registered before the completion runs when it
happens, in order of registration, and one registered later runs at once. A barrier is a deferred
result that completes when all its members have.

The table of all deferred results never runs a callback itself. An operation that makes callbacks
due gives them back as notices, and whoever performed the operation delivers these one after
another.
-/
namespace WideColumn

/-- What a deferred result is completed with. -/
abbrev Outcome := Except Error Result

/-- Which outcomes a callback is for. -/
inductive Scope where
  /-- Values. -/
  | success
  /-- Errors. -/
  | failure
  /-- Both. -/
  | both
deriving DecidableEq, Inhabited

/-- Whether a callback with a scope is for an outcome. -/
def Scope.covers : Scope → Outcome → Bool
  | success, .ok _ | failure, .error _ | both, _ => true
  | _, _ => false

/-- A reference to a deferred result. -/
abbrev DeferredId := Nat

/-- What is run on completion. Bodies of a client's own callbacks are of any type. -/
inductive Callback (β : Type) where
  /-- Count down the members that a barrier waits for. -/
  | member (barrier : DeferredId)
  /-- Report the end of a flush. -/
  | flushed (reason : FlushReason) (batch : Nat)
  /-- Run the body of a client's callback. -/
  | client (scope : Scope) (body : β)

/-- What a barrier waits for. -/
structure FanIn where
  /-- The members, in order; one may occur repeatedly. -/
  members : List DeferredId
  /-- How many of them have not yet been counted as terminal. -/
  remaining : Nat

/-- A deferred result. -/
structure Deferred (β : Type) where
  /-- The outcome, once there is one. -/
  outcome : Option Outcome
  /-- The callbacks that wait for it, in order of registration. -/
  callbacks : List (Callback β)
  /-- The bound on a wait that names none; an absent bound waits for ever. -/
  timeout : Option Number
  /-- What it waits for, if it is a barrier. -/
  fanIn : Option FanIn

namespace Deferred

variable {β : Type}

/-- A pending deferred result. -/
def pending (timeout : Option Number) : Deferred β := ⟨none, [], timeout, none⟩

instance : Inhabited (Deferred β) := ⟨pending none⟩

/-- The state. -/
def state (deferred : Deferred β) : DeferredState :=
  match deferred.outcome with
  | none => .pending
  | some (.ok _) => .resolved
  | some (.error _) => .failed

/-- Whether there is an outcome. -/
def isDone (deferred : Deferred β) : Bool := deferred.outcome.isSome

/-- The error, if that is the outcome. -/
def error? (deferred : Deferred β) : Option Error :=
  match deferred.outcome with
  | some (.error error) => some error
  | _ => none

/-- The failure of a deferred result that is terminal. -/
def failure (deferred : Deferred β) : Except Error (Option Error) :=
  if deferred.isDone then .ok deferred.error? else .error .stillPending

/-- The text of a deferred result. -/
def display (deferred : Deferred β) : Text := "<Deferred state=" ++ deferred.state.name ++ ">"

end Deferred

/-- A callback that is due, with the outcome it is for. -/
structure Notice (β : Type) where
  /-- Whose completion made it due. -/
  subject : DeferredId
  /-- The callback. -/
  callback : Callback β
  /-- The outcome. -/
  outcome : Outcome

/-- How a completion is called when it comes too late. -/
def completionVerb : Outcome → String
  | .ok _ => "resolve"
  | .error _ => "fail"

end WideColumn
