import WideColumn.Clock
import WideColumn.Dispatcher.Basic

/-!
# The flush timer

A timer waits for one period and polls the dispatcher, over and over, until it is told to stop. A
poll that fails is logged and keeps nothing from the next one.
-/
namespace WideColumn.Timer

/-- The event of a poll that failed. -/
def pollFailed (error : Error) : Log.Event :=
  (Log.Event.plain Dispatcher.source .error "Flush timer poll failed"
    [("error", .text error.message), ("error_type", .string error.kind.name)]).attached

/-- What a run of the timer leaves behind. -/
structure Report where
  /-- How often it polled. -/
  polls : Nat
  /-- The waits, the one that was cut short by the stop included. -/
  waits : List Number
  /-- What was logged. -/
  events : List Log.Event

/-- Run until the polls are used up and the timer is told to stop. -/
def run (period : Number) : List (Except Error Unit) → Report
  | [] => ⟨0, [period], []⟩
  | outcome :: rest =>
    let later := run period rest
    let events :=
      match outcome with
      | .ok () => []
      | .error error => [pollFailed error]
    ⟨later.polls + 1, period :: later.waits, events ++ later.events⟩

end WideColumn.Timer
