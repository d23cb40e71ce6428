import WideColumn.Dispatcher.Basic

/-!
# Workers

A worker takes the oldest task, calls the store until the retry policy is satisfied, completes the
deferred result of the task, and then releases the write, in this order. A write therefore counts as
in flight while the callbacks of its completion run.
-/
namespace WideColumn.Dispatcher

variable {β : Type}

/-- Take the oldest task. -/
def take (dispatcher : Dispatcher β) : Option (Task × Dispatcher β) :=
  match dispatcher.queue with
  | [] => none
  | task :: queue => some (task, { dispatcher with queue })

/-- The fields that every event about a task has. -/
def taskFields (task : Task) : List (String × Value) :=
  [("operation", .ofOption (fun kind => .string kind.name) task.submission.kind?),
    ("table", task.submission.tableValue), ("key", task.submission.keyValue)]

/-- The event of a call that is tried again. -/
def retrying (task : Task) (attempt : Nat) (error : Error) : Log.Event :=
  .plain source .info "Retrying backend operation"
    (taskFields task ++ [("attempt", .int attempt), ("error", .text error.message)])

/-- The event of a task that failed. -/
def taskFailed (task : Task) (error : Error) : Log.Event :=
  if error.isOperationFailure then
    .plain source .warning "Backend operation failed"
      (taskFields task ++
        [("retryable", .bool (error.operation?.any (·.retryable))),
          ("error_type", .string error.kind.name), ("error", .text error.message)])
  else
    (Log.Event.plain source .error "Request execution failed unexpectedly"
      (taskFields task ++
        [("error_type", .string error.kind.name), ("error", .text error.message)])).attached

/-- Complete the deferred result of a task. If somebody else has done so, the outcome is lost. -/
def settle (task : Task) (outcome : Outcome) (dispatcher : Dispatcher β) :
    List (Notice β) × Dispatcher β :=
  let dispatcher :=
    match outcome with
    | .ok _ => dispatcher
    | .error error => dispatcher.log (taskFailed task error)
  match dispatcher.deferreds.complete task.deferred outcome with
  | .ok (deferreds, due) => (due, { dispatcher with deferreds })
  | .error _ => ([], dispatcher)

/-- Release a task: a write is in flight no more. -/
def release (task : Task) (dispatcher : Dispatcher β) : Dispatcher β :=
  if task.submission.isWrite then
    { dispatcher with inFlight := dispatcher.inFlight.erase task.deferred }
  else dispatcher

end WideColumn.Dispatcher
