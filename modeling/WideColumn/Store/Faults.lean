import WideColumn.Execution

/-!
# A store with scripted failures

A store behind a script of failures per row key. A call on a key first uses up the errors that are
planned for the next calls on that key, then the error planned for good, and reaches the store only
if neither is left. Every call is put on record, whether it fails or not.
-/
namespace WideColumn

/-- The failures planned for one row key. -/
structure FaultPlan where
  /-- The row key. -/
  key : Bytes
  /-- Errors for the next calls, in order. -/
  next : List Error
  /-- An error for all further calls. -/
  always : Option Error

/-- A store behind a script of failures. -/
structure FaultyStore where
  /-- The store. -/
  store : Store
  /-- The failures that are left, at most one plan per key. -/
  plans : List FaultPlan
  /-- The calls so far, latest first. -/
  calls : List (RequestKind × Bytes)

namespace FaultyStore

/-- A store without failures. -/
def ofStore (store : Store) : FaultyStore := ⟨store, [], []⟩

/-- Take the failure of the next call on a key out of the plans. -/
def takeFault (key : Bytes) : List FaultPlan → Option Error × List FaultPlan
  | [] => (none, [])
  | plan :: rest =>
    if plan.key = key then
      match plan.next with
      | error :: next => (some error, { plan with next } :: rest)
      | [] => (plan.always, plan :: rest)
    else
      let (error, rest) := takeFault key rest
      (error, plan :: rest)

/-- Change the plan of a key, which is empty at first. -/
def revise (key : Bytes) (change : FaultPlan → FaultPlan) : List FaultPlan → List FaultPlan
  | [] => [change ⟨key, [], none⟩]
  | plan :: rest => if plan.key = key then change plan :: rest else plan :: revise key change rest

/-- Plan errors for the next calls on a key, in place of those planned before. -/
def planNext (faulty : FaultyStore) (key : Bytes) (errors : List Error) : FaultyStore :=
  { faulty with
    plans := revise key (fun plan => { plan with next := errors }) faulty.plans }

/-- Plan an error for all calls on a key once the planned ones are used up. -/
def planAlways (faulty : FaultyStore) (key : Bytes) (error : Option Error) : FaultyStore :=
  { faulty with plans := revise key (fun plan => { plan with always := error }) faulty.plans }

/-- Answer a call: put it on record, then fail as planned or pass it on. -/
def answer : Backend FaultyStore := fun call faulty =>
  match call.operation? with
  | none =>
    let (reply, store) := call.run faulty.store
    (reply, { faulty with store })
  | some (kind, key) =>
    let calls := (kind, key) :: faulty.calls
    match takeFault key faulty.plans with
    | (some error, plans) => (.error error, { faulty with plans, calls })
    | (none, plans) =>
      let (reply, store) := call.run faulty.store
      (reply, ⟨store, plans, calls⟩)

end FaultyStore
end WideColumn
