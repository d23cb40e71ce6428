import WideColumn.Settings.Schema

/-!
# What settings that were read guarantee

Each field that is read has passed its own check or holds its standard value, and a section has
passed the check of its values as a whole. What others rely on follows: bounds are positive, and a
flush threshold can be reached.
-/
namespace WideColumn

namespace Checked

variable {α γ : Type}

/-- An application is right exactly if both its parts are. -/
theorem seq_valid {f : Checked (α → γ)} {a : Checked α} {c : γ} (right : f <*> a = .valid c) :
    ∃ g x, f = .valid g ∧ a = .valid x ∧ c = g x := by
  cases f with
  | valid g =>
    cases a with
    | valid x => exact ⟨g, x, rfl, rfl, by cases right; rfl⟩
    | flawed issues => cases right
  | flawed first =>
    cases a with
    | valid x => cases right
    | flawed second => cases right

/-- A value under a function is right exactly if it is. -/
theorem map_valid {f : α → γ} {a : Checked α} {c : γ} (right : f <$> a = .valid c) :
    ∃ x, a = .valid x ∧ c = f x := by
  obtain ⟨g, x, same, found, rfl⟩ := seq_valid (f := .valid f) right
  cases same
  exact ⟨x, found, rfl⟩

/-- A value followed by a check is right only if it was before. -/
theorem seqLeft_valid {a : Checked α} {b : Checked γ} {x : α} (right : a <* b = .valid x) :
    a = .valid x := by
  obtain ⟨g, y, found, _, rfl⟩ := seq_valid (f := Function.const γ <$> a) (a := b) right
  obtain ⟨x, here, rfl⟩ := map_valid found
  exact here

/-- What passes a check of the values as a whole was right and has no fault. -/
theorem ensure_valid {a : Checked α} {fault? : α → Option SettingFault} {x : α}
    (right : a.ensure fault? = .valid x) : a = .valid x ∧ fault? x = none := by
  cases a with
  | flawed issues => cases right
  | valid y =>
    unfold ensure at right
    cases fault : fault? y with
    | none =>
      simp only [fault] at right
      cases right
      exact ⟨rfl, fault⟩
    | some found =>
      simp only [fault] at right
      cases right

/-- A section inside other settings is right exactly if it is on its own. -/
theorem within_valid {name : Text} {a : Checked α} {x : α} (right : a.within name = .valid x) :
    a = .valid x := by
  cases a with
  | valid y =>
    cases right
    rfl
  | flawed issues => cases right

/-- Settings that are accepted are right. -/
theorem toExcept_ok {title : String} {a : Checked α} {x : α} (right : a.toExcept title = .ok x) :
    a = .valid x := by
  cases a with
  | valid y =>
    cases right
    rfl
  | flawed issues => cases right

end Checked

namespace Entries

variable {α : Type} {entries : Entries} {name : String} {fallback : α}

/-- A field holds its standard value or was read. -/
theorem field_valid {read : Value → Except SettingFault α} {x : α}
    (right : entries.field name read fallback = .valid x) :
    x = fallback ∨ ∃ value, read value = .ok x := by
  unfold field at right
  split at right
  · cases right
    exact .inl rfl
  · rename_i value found
    split at right
    · rename_i y done
      cases right
      exact .inr ⟨value, done⟩
    · cases right

/-- A section holds its standard values or was read. -/
theorem part_valid {model : String} {read : Entries → Checked α} {x : α}
    (right : entries.part name model read fallback = .valid x) :
    x = fallback ∨ ∃ inner, read inner = .valid x := by
  unfold part at right
  split at right
  · cases right
    exact .inl rfl
  · rename_i inner found
    exact .inr ⟨inner, Checked.within_valid right⟩
  · cases right

end Entries

namespace Coercion

/-- A positive integer that was read is positive. -/
theorem positiveInteger_pos {value : Value} {n : Int} (read : positiveInteger value = .ok n) :
    0 < n := by
  unfold positiveInteger at read
  cases found : integer value with
  | error fault =>
    rw [found] at read
    cases read
  | ok m =>
    rw [found] at read
    by_cases positive : 0 < m
    · have same : m = n := by simpa [bind, Except.bind, pure, Except.pure, positive] using read
      exact same ▸ positive
    · simp [bind, Except.bind, throw, throwThe, MonadExceptOf.throw, positive] at read

/-- A number that was read above a bound is above it. -/
theorem numberAbove_lt {bound : Int} {value : Value} {x : Number}
    (read : numberAbove bound value = .ok x) : Number.int bound < x := by
  unfold numberAbove at read
  cases found : number value with
  | error fault =>
    rw [found] at read
    cases read
  | ok y =>
    rw [found] at read
    by_cases above : Number.int bound < y
    · have same : y = x := by simpa [bind, Except.bind, pure, Except.pure, above] using read
      exact same ▸ above
    · simp [bind, Except.bind, throw, throwThe, MonadExceptOf.throw, above] at read

/-- An integer that is read where none is needed was read as one. -/
theorem optional_some {α : Type} {read : Value → Except SettingFault α} {value : Value} {x : α}
    (done : optional read value = .ok (some x)) : read value = .ok x := by
  unfold optional at done
  split at done
  · cases done
  · cases found : read value with
    | error fault =>
      rw [found] at done
      cases done
    | ok y =>
      rw [found] at done
      cases done
      rfl

end Coercion

/-- Room for a write, and a threshold, if there is one, that is positive and can be reached. -/
structure BufferSettings.Valid (settings : BufferSettings) : Prop where
  /-- There is room for a write. -/
  capacity : 0 < settings.maxPendingWrites
  /-- Nothing buffered is below the threshold. -/
  positive : ∀ threshold, settings.flushThreshold = some threshold → 0 < threshold
  /-- The threshold can be reached. -/
  reachable : ∀ threshold, settings.flushThreshold = some threshold →
    threshold ≤ settings.maxPendingWrites

/-- The standard values are as valid as what is read. -/
theorem BufferSettings.valid_standard : BufferSettings.standard.Valid := by
  refine ⟨by decide, ?_, ?_⟩
  · intro threshold same
    cases same
    decide
  · intro threshold same
    cases same
    decide

/-- Settings on buffering that were read are valid. -/
theorem BufferSettings.valid_of_read {entries : Entries} {settings : BufferSettings}
    (right : BufferSettings.read entries = .valid settings) : settings.Valid := by
  unfold BufferSettings.read at right
  obtain ⟨fields, faultless⟩ := Checked.ensure_valid right
  have known := Checked.seqLeft_valid fields
  obtain ⟨_, capacity, two, readCapacity, rfl⟩ := Checked.seq_valid known
  obtain ⟨_, interval, one, _, rfl⟩ := Checked.seq_valid two
  obtain ⟨threshold, readThreshold, rfl⟩ := Checked.map_valid one
  refine ⟨?_, ?_, ?_⟩
  · show 0 < capacity
    rcases Entries.field_valid readCapacity with rfl | ⟨value, read⟩
    · decide
    · exact Coercion.positiveInteger_pos read
  · intro bound same
    obtain rfl : threshold = some bound := same
    rcases Entries.field_valid readThreshold with standard | ⟨value, read⟩
    · cases standard
      decide
    · exact Coercion.positiveInteger_pos (Coercion.optional_some read)
  · intro bound same
    obtain rfl : threshold = some bound := same
    show bound ≤ capacity
    by_cases beyond : capacity < bound
    · simp [BufferSettings.fault?, beyond] at faultless
    · exact Int.not_lt.mp beyond

/-- Delays that are positive and a factor that lets them grow. -/
structure RetrySettings.Valid (settings : RetrySettings) : Prop where
  /-- The first delay is positive. -/
  initial : Number.int 0 < settings.initialDelay
  /-- The cap is positive. -/
  cap : Number.int 0 < settings.maxDelay
  /-- The factor is more than one. -/
  base : Number.int 1 < settings.exponentialBase

/-- Settings on retries that were read are valid. -/
theorem RetrySettings.valid_of_read {entries : Entries} {settings : RetrySettings}
    (right : RetrySettings.read entries = .valid settings) : settings.Valid := by
  unfold RetrySettings.read at right
  have known := Checked.seqLeft_valid right
  obtain ⟨_, base, three, readBase, rfl⟩ := Checked.seq_valid known
  obtain ⟨_, cap, two, readCap, rfl⟩ := Checked.seq_valid three
  obtain ⟨_, initial, one, readInitial, rfl⟩ := Checked.seq_valid two
  obtain ⟨attempts, _, rfl⟩ := Checked.map_valid one
  refine ⟨?_, ?_, ?_⟩
  · show Number.int 0 < initial
    rcases Entries.field_valid readInitial with rfl | ⟨value, read⟩
    · decide +kernel
    · exact Coercion.numberAbove_lt read
  · show Number.int 0 < cap
    rcases Entries.field_valid readCap with rfl | ⟨value, read⟩
    · decide +kernel
    · exact Coercion.numberAbove_lt read
  · show Number.int 1 < base
    rcases Entries.field_valid readBase with rfl | ⟨value, read⟩
    · decide +kernel
    · exact Coercion.numberAbove_lt read

/-- A pool that was read has a worker. -/
theorem ConcurrencySettings.maxWorkers_pos {entries : Entries} {settings : ConcurrencySettings}
    (right : ConcurrencySettings.read entries = .valid settings) : 0 < settings.maxWorkers := by
  unfold ConcurrencySettings.read at right
  obtain ⟨workers, read, rfl⟩ := Checked.map_valid (Checked.seqLeft_valid right)
  rcases Entries.field_valid read with rfl | ⟨value, read⟩
  · decide
  · exact Coercion.positiveInteger_pos read

/-- All settings that were read have valid buffering and a worker. -/
theorem Settings.valid_of_entries {entries : Entries} {settings : Settings}
    (right : Settings.ofEntries entries = .ok settings) :
    settings.buffer.Valid ∧ 0 < settings.concurrency.maxWorkers := by
  have known := Checked.seqLeft_valid (Checked.toExcept_ok right)
  obtain ⟨_, logging, four, _, rfl⟩ := Checked.seq_valid known
  obtain ⟨_, retry, three, _, rfl⟩ := Checked.seq_valid four
  obtain ⟨_, timeouts, two, _, rfl⟩ := Checked.seq_valid three
  obtain ⟨_, pool, one, readPool, rfl⟩ := Checked.seq_valid two
  obtain ⟨buffer, readBuffer, rfl⟩ := Checked.map_valid one
  constructor
  · show buffer.Valid
    rcases Entries.part_valid readBuffer with rfl | ⟨inner, read⟩
    · exact BufferSettings.valid_standard
    · exact BufferSettings.valid_of_read read
  · show 0 < pool.maxWorkers
    rcases Entries.part_valid readPool with rfl | ⟨inner, read⟩
    · decide
    · exact ConcurrencySettings.maxWorkers_pos read

end WideColumn
