import WideColumn.Settings.Basic
import WideColumn.Settings.Checked

/-!
# The schema of settings

How each section is read and shown. A section can be read on its own or as part of all settings; its
issues are the same, with the name of the section in front of their paths.
-/
namespace WideColumn

namespace BufferSettings

/-- A threshold above the bound on outstanding writes could never be reached. -/
def fault? (settings : BufferSettings) : Option SettingFault :=
  match settings.flushThreshold with
  | some threshold =>
    if settings.maxPendingWrites < threshold then
      some (.unreachable threshold settings.maxPendingWrites)
    else none
  | none => none

/-- Read the section. -/
def read (entries : Entries) : Checked BufferSettings :=
  let fields := BufferSettings.mk
    <$> entries.field "flush_threshold" (Coercion.optional Coercion.positiveInteger)
      standard.flushThreshold
    <*> entries.field "flush_interval_seconds" (Coercion.optional (Coercion.numberAbove 0))
      standard.flushInterval
    <*> entries.field "max_pending_writes" Coercion.positiveInteger standard.maxPendingWrites
    <* entries.only ["flush_threshold", "flush_interval_seconds", "max_pending_writes"]
  fields.ensure fault?

/-- The section as a value. -/
def toValue (settings : BufferSettings) : Value :=
  .mapping [("flush_threshold", .ofOption Value.int settings.flushThreshold),
    ("flush_interval_seconds", .ofOption Value.number settings.flushInterval),
    ("max_pending_writes", .int settings.maxPendingWrites)]

end BufferSettings

namespace ConcurrencySettings

/-- Read the section. -/
def read (entries : Entries) : Checked ConcurrencySettings :=
  ConcurrencySettings.mk
    <$> entries.field "max_workers" Coercion.positiveInteger standard.maxWorkers
    <* entries.only ["max_workers"]

/-- The section as a value. -/
def toValue (settings : ConcurrencySettings) : Value :=
  .mapping [("max_workers", .int settings.maxWorkers)]

end ConcurrencySettings

namespace TimeoutSettings

/-- Read the section. -/
def read (entries : Entries) : Checked TimeoutSettings :=
  TimeoutSettings.mk
    <$> entries.field "join_timeout_seconds" (Coercion.optional (Coercion.numberAbove 0))
      standard.joinTimeout
    <*> entries.field "flush_timeout_seconds" (Coercion.optional (Coercion.numberAbove 0))
      standard.flushTimeout
    <* entries.only ["join_timeout_seconds", "flush_timeout_seconds"]

/-- The section as a value. -/
def toValue (settings : TimeoutSettings) : Value :=
  .mapping [("join_timeout_seconds", .ofOption Value.number settings.joinTimeout),
    ("flush_timeout_seconds", .ofOption Value.number settings.flushTimeout)]

end TimeoutSettings

namespace RetrySettings

/-- Read the section. -/
def read (entries : Entries) : Checked RetrySettings :=
  RetrySettings.mk
    <$> entries.field "max_attempts" (Coercion.integerFrom 1) standard.maxAttempts
    <*> entries.field "initial_delay_seconds" (Coercion.numberAbove 0) standard.initialDelay
    <*> entries.field "max_delay_seconds" (Coercion.numberAbove 0) standard.maxDelay
    <*> entries.field "exponential_base" (Coercion.numberAbove 1) standard.exponentialBase
    <* entries.only ["max_attempts", "initial_delay_seconds", "max_delay_seconds",
      "exponential_base"]

/-- The section as a value. -/
def toValue (settings : RetrySettings) : Value :=
  .mapping [("max_attempts", .int settings.maxAttempts),
    ("initial_delay_seconds", .number settings.initialDelay),
    ("max_delay_seconds", .number settings.maxDelay),
    ("exponential_base", .number settings.exponentialBase)]

end RetrySettings

namespace LoggingSettings

/-- Read the section. -/
def read (entries : Entries) : Checked LoggingSettings :=
  LoggingSettings.mk
    <$> entries.field "level" Coercion.level standard.level
    <*> entries.field "json_output" Coercion.flag standard.jsonOutput
    <* entries.only ["level", "json_output"]

/-- The section as a value. -/
def toValue (settings : LoggingSettings) : Value :=
  .mapping [("level", .string settings.level.capitals), ("json_output", .bool settings.jsonOutput)]

end LoggingSettings

namespace Settings

/-- The names of the sections. -/
def sections : List String := ["buffer", "concurrency", "timeouts", "retry", "logging"]

/-- Read all sections. -/
def read (entries : Entries) : Checked Settings :=
  Settings.mk
    <$> entries.part "buffer" "BufferSettings" BufferSettings.read .standard
    <*> entries.part "concurrency" "ConcurrencySettings" ConcurrencySettings.read .standard
    <*> entries.part "timeouts" "TimeoutSettings" TimeoutSettings.read .standard
    <*> entries.part "retry" "RetrySettings" RetrySettings.read .standard
    <*> entries.part "logging" "LoggingSettings" LoggingSettings.read .standard
    <* entries.only sections

/-- All sections as a value. -/
def toValue (settings : Settings) : Value :=
  .mapping [("buffer", settings.buffer.toValue), ("concurrency", settings.concurrency.toValue),
    ("timeouts", settings.timeouts.toValue), ("retry", settings.retry.toValue),
    ("logging", settings.logging.toValue)]

/-- The title of all settings in reports of issues. -/
def title : String := "AsyncTableSettings"

/-- The settings that named values describe. -/
def ofEntries (entries : Entries) : Except Error Settings := (read entries).toExcept title

end Settings

/-- What settings can be read for: one section or all of them. -/
inductive SettingsModel where
  /-- Buffering. -/
  | buffer
  /-- The pool. -/
  | concurrency
  /-- Waiting. -/
  | timeouts
  /-- Retries. -/
  | retry
  /-- Logging. -/
  | logging
  /-- All sections. -/
  | all
deriving DecidableEq, Inhabited

namespace SettingsModel

/-- The title of a model in reports of issues. -/
def title : SettingsModel → String
  | buffer => "BufferSettings"
  | concurrency => "ConcurrencySettings"
  | timeouts => "TimeoutSettings"
  | retry => "RetrySettings"
  | logging => "LoggingSettings"
  | all => Settings.title

/-- The section that a model is for, if it is for one. -/
def section? : SettingsModel → Option String
  | buffer => some "buffer"
  | concurrency => some "concurrency"
  | timeouts => some "timeouts"
  | retry => some "retry"
  | logging => some "logging"
  | all => none

/-- Read named values by a model and show what was read. -/
def check (model : SettingsModel) (entries : Entries) : Except Error Value :=
  let shown : Checked Value :=
    match model with
    | buffer => BufferSettings.toValue <$> BufferSettings.read entries
    | concurrency => ConcurrencySettings.toValue <$> ConcurrencySettings.read entries
    | timeouts => TimeoutSettings.toValue <$> TimeoutSettings.read entries
    | retry => RetrySettings.toValue <$> RetrySettings.read entries
    | logging => LoggingSettings.toValue <$> LoggingSettings.read entries
    | all => Settings.toValue <$> Settings.read entries
  shown.toExcept model.title

/-- Settings never change: every assignment is refused. -/
def refuse (model : SettingsModel) (name : Text) : Error :=
  .invalidSettings model.title [⟨[name], .frozen⟩]

end SettingsModel
end WideColumn
