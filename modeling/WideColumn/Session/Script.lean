import WideColumn.Client
import WideColumn.Store.Faults

/-!
# Scripts

A script is what a client does, step by step, with deferred results under names. A callback has a
label and a body, which is a script of its own. Steps have answers, and running callbacks leave a
trace.
-/
namespace WideColumn

/-- A step of a client. -/
inductive Step where
  /-- Create a pending deferred result. -/
  | create (name : Text) (timeout : Option Number)
  /-- Create a deferred result that is resolved. -/
  | succeed (name : Text) (value : Value)
  /-- Create a deferred result that has failed. -/
  | failure (name : Text) (error : Error)
  /-- Create a barrier. -/
  | group (name : Text) (members : List Text) (timeout : Option Number)
  /-- Complete with a value. -/
  | resolve (name : Text) (value : Value)
  /-- Complete with an error. -/
  | fail (name : Text) (error : Error)
  /-- Show the state. -/
  | inspect (name : Text)
  /-- Ask for the error. -/
  | exception (name : Text)
  /-- Wait for the outcome, within a bound if one is named. -/
  | join (name : Text) (bound : Option (Option Number))
  /-- Register a callback. -/
  | watch (name : Text) (scope : Scope) (label : Text) (body : List Step)
  /-- Raise an error. -/
  | raise (error : Error)
  /-- Submit what was built, by the method of a kind if one is named. -/
  | submit (name : Option Text) (method : Option RequestKind) (built : Except Error Submission)
  /-- Flush. -/
  | flush (name : Option Text) (reason : FlushReason)
  /-- Flush if a trigger has fired. -/
  | poll
  /-- Let time pass. -/
  | advance (seconds : Number)
  /-- Count outstanding writes. -/
  | pending
  /-- Keep the workers from working while something waits. -/
  | hold
  /-- Let the workers work again. -/
  | release
  /-- Let the workers work off tasks, at most as many as stated. -/
  | work (limit : Option Nat)
  /-- Shut the pool down behind the dispatcher's back. -/
  | shutDownPool
  /-- Close, waiting within a bound if one is named. -/
  | close (bound : Option Number)
  /-- Enter a block that closes at its end. -/
  | enter
  /-- Leave such a block. -/
  | leave
  /-- Ask whether closing has begun. -/
  | closed
  /-- Show the settings. -/
  | settings
  /-- Plan failures of the store. -/
  | inject (key : Bytes) (errors : List Error) (always : Option Error)
  /-- Show the calls of the store so far. -/
  | calls
  /-- Call the store directly. -/
  | backend (call : Except Error Store.Call)

namespace Step

instance : Inhabited Step := ⟨.poll⟩

/-- What a step is called. -/
def name : Step → String
  | create .. => "new"
  | succeed .. => "succeed"
  | failure .. => "failure"
  | group .. => "group"
  | resolve .. => "resolve"
  | fail .. => "fail"
  | inspect .. => "state"
  | exception .. => "exception"
  | join .. => "join"
  | watch .. => "on"
  | raise .. => "raise"
  | submit .. => "submit"
  | flush .. => "flush"
  | poll => "poll"
  | advance .. => "advance"
  | pending => "pending"
  | hold => "hold"
  | release => "release"
  | work .. => "run"
  | shutDownPool => "pool_shutdown"
  | close .. => "close"
  | enter => "enter"
  | leave => "exit"
  | closed => "closed"
  | settings => "settings"
  | inject .. => "inject"
  | calls => "calls"
  | backend .. => "backend"

mutual

/-- How many steps a step holds, itself included. -/
def size : Step → Nat
  | watch _ _ _ body => sizeAll body + 1
  | _ => 1

/-- How many steps a script holds. -/
def sizeAll : List Step → Nat
  | [] => 0
  | step :: rest => step.size + sizeAll rest

end

end Step

/-- A client's callback. -/
structure ClientCallback where
  /-- What the callback is called in traces and logs. -/
  label : Text
  /-- What it does. -/
  body : List Step

/-- An outcome as it is shown. Failures of a barrier whose members have no order of their own are
marked, so that whoever shows them can choose one. -/
structure Shown (α : Type) where
  /-- What is shown. -/
  content : α
  /-- Whether the failures in it are in an order that means something. -/
  isOrdered : Bool

/-- The answer to a step. -/
inductive Reply where
  /-- Nothing. -/
  | nothing
  /-- Yes or no. -/
  | flag (value : Bool)
  /-- A number of things. -/
  | count (value : Nat)
  /-- The time. -/
  | time (value : Number)
  /-- The state of a deferred result. -/
  | state (state : DeferredState)
  /-- All that a deferred result shows of itself. -/
  | report (state : DeferredState) (isDone : Bool) (text : Text) (timeout : Option Number)
  /-- A value that was waited for. -/
  | result (result : Result)
  /-- The failure of a barrier that was waited for. -/
  | raised (error : Shown Error)
  /-- The error of a deferred result, if it failed. -/
  | exception (error : Option (Shown Error))
  /-- The reason of a flush, if there was one. -/
  | reason (reason : Option FlushReason)
  /-- Calls of the store. -/
  | calls (calls : List (RequestKind × Bytes))
  /-- The reply of the store. -/
  | stored (reply : Store.Reply)
  /-- Settings. -/
  | settings (settings : Settings)

/-- What a running callback leaves behind. -/
inductive TraceEntry where
  /-- A callback began on an outcome. -/
  | began (label : Text) (outcome : Shown Outcome)
  /-- A step of its body was answered. -/
  | acted (label : Text) (step : Step) (reply : Reply)

end WideColumn
