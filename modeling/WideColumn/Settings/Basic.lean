import WideColumn.Log.Event
import WideColumn.Retry
import WideColumn.Trigger

/-!
# Settings

The settings of a client, in five sections, with the defaults of each.
-/
namespace WideColumn

/-- Buffering of writes and what triggers a flush. -/
structure BufferSettings where
  /-- The number of buffered writes that triggers a flush, if any does. -/
  flushThreshold : Option Int
  /-- The seconds after a flush that trigger the next, if any do. -/
  flushInterval : Option Number
  /-- The bound on outstanding writes. -/
  maxPendingWrites : Int

/-- The pool of workers. -/
structure ConcurrencySettings where
  /-- How many calls of the store run at once. -/
  maxWorkers : Int

/-- Bounds on waiting; an absent bound waits for ever. -/
structure TimeoutSettings where
  /-- The bound on waiting for a result. -/
  joinTimeout : Option Number
  /-- The bound on waiting for a flush. -/
  flushTimeout : Option Number

/-- Retries of transient failures. -/
structure RetrySettings where
  /-- The number of attempts, the first included. -/
  maxAttempts : Int
  /-- The first delay. -/
  initialDelay : Number
  /-- The cap on every delay. -/
  maxDelay : Number
  /-- The factor from one delay to the next. -/
  exponentialBase : Number

/-- What is logged, and in which form. -/
structure LoggingSettings where
  /-- The least level that is logged. -/
  level : Log.Level
  /-- Whether each event is one JSON object. -/
  jsonOutput : Bool

/-- All settings of a client. -/
structure Settings where
  /-- Buffering. -/
  buffer : BufferSettings
  /-- The pool. -/
  concurrency : ConcurrencySettings
  /-- Waiting. -/
  timeouts : TimeoutSettings
  /-- Retries. -/
  retry : RetrySettings
  /-- Logging. -/
  logging : LoggingSettings

/-- Flush after a thousand writes or a second; at most ten thousand writes outstanding. -/
def BufferSettings.standard : BufferSettings := ⟨some 1000, some (.float 1.0), 10000⟩

/-- Four workers. -/
def ConcurrencySettings.standard : ConcurrencySettings := ⟨4⟩

/-- Waits without bound. -/
def TimeoutSettings.standard : TimeoutSettings := ⟨none, none⟩

/-- Three attempts, with delays from a twentieth of a second to two seconds. -/
def RetrySettings.standard : RetrySettings := ⟨3, .float 0.05, .float 2.0, .float 2.0⟩

/-- Progress and failures, as lines of text. -/
def LoggingSettings.standard : LoggingSettings := ⟨.info, false⟩

/-- The settings of a client that is given none. -/
def Settings.standard : Settings := ⟨.standard, .standard, .standard, .standard, .standard⟩

/-- The retry policy of the settings. The jitter is bounded by the first delay, so that a short
first pause stays short. -/
def RetrySettings.policy (settings : RetrySettings) : RetryPolicy :=
  ⟨settings.maxAttempts, ⟨settings.initialDelay, settings.maxDelay, settings.initialDelay,
    settings.exponentialBase⟩⟩

/-- The triggers of the settings. -/
def BufferSettings.bounds (settings : BufferSettings) : TriggerBounds Number :=
  ⟨settings.flushThreshold, settings.flushInterval⟩

end WideColumn
