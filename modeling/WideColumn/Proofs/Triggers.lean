import WideColumn.Clock
import WideColumn.Proofs.Number
import WideColumn.Trigger

/-!
# Triggers over their history

The triggers of a buffer keep a count, two times and the reason that was found last. All they ever
answer can be told from the history of what was done with them: from the time of the last reset, the
times of the writes accepted since then, and the time at which they are asked. The latch of the size
trigger is the time of the accept that reached the threshold, and asking leaves no trace but the
reason that was found.
-/
namespace WideColumn

/-- The clock after an advance. An advance below zero is refused, and the clock stays as it is. -/
def Clock.passed (clock : Clock) (seconds : Number) : Clock :=
  match clock.advance seconds with
  | .ok later => later
  | .error _ => clock

/-- If the time after an advance is in the order of numbers, so is the time before it. -/
theorem Clock.ordered_of_passed {clock : Clock} {seconds : Number}
    (ordered : (clock.passed seconds).now ≤ (clock.passed seconds).now) :
    clock.now ≤ clock.now := by
  unfold passed advance at ordered
  split at ordered
  · next later passed =>
    split at passed
    · cases passed
    · cases passed
      exact Number.le_self_of_add ordered
  · exact ordered

namespace Triggers

/-- What is done with triggers and with the clock that they read. -/
inductive Operation where
  /-- A write is accepted. -/
  | accept
  /-- The triggers are asked whether to flush. -/
  | evaluate
  /-- They are asked for the reason that they found last. -/
  | consult
  /-- The buffer is drained. -/
  | reset
  /-- Time passes. -/
  | advance (seconds : Number)

namespace Operation

/-- The clock after an operation. -/
def clock (before : Clock) : Operation → Clock
  | advance seconds => before.passed seconds
  | _ => before

/-- Whether an operation only asks. -/
def isQuestion : Operation → Bool
  | evaluate | consult => true
  | _ => false

end Operation

/-- Triggers and the clock that they read. -/
structure Timed where
  /-- The clock. -/
  clock : Clock
  /-- The triggers. -/
  triggers : Triggers Number

/-- What an operation answers. -/
inductive Answer where
  /-- Nothing. -/
  | done
  /-- Whether to flush. -/
  | fired (yes : Bool)
  /-- The reason that was found last. -/
  | recalled (reason : Option FlushReason)

namespace Timed

variable (bounds : TriggerBounds Number)

/-- Triggers that have just been made. -/
def start (clock : Clock) : Timed := ⟨clock, .start clock.now⟩

/-- The triggers and the clock after an operation. -/
def perform (timed : Timed) (operation : Operation) : Timed :=
  ⟨operation.clock timed.clock,
    match operation with
    | .accept => timed.triggers.accept bounds timed.clock.now
    | .evaluate => timed.triggers.evaluate bounds timed.clock.now
    | .reset => timed.triggers.reset timed.clock.now
    | .consult | .advance _ => timed.triggers⟩

/-- The triggers and the clock after a history. -/
def after (timed : Timed) (history : List Operation) : Timed := history.foldl (perform bounds) timed

/-- The reason that the triggers find when they are asked now. -/
def finds (timed : Timed) : Option FlushReason := (timed.perform bounds .evaluate).triggers.found

/-- Whether the triggers say now that the buffer is to be flushed. -/
def fires (timed : Timed) : Bool := (timed.finds bounds).isSome

/-- The reason that the triggers recall now. -/
def recalls (timed : Timed) : Option FlushReason := timed.triggers.found

/-- What an operation answers. -/
def answer (timed : Timed) : Operation → Answer
  | .evaluate => .fired (timed.fires bounds)
  | .consult => .recalled timed.recalls
  | _ => .done

/-- What operations answer, one after another. -/
def answers (timed : Timed) : List Operation → List Answer
  | [] => []
  | operation :: rest =>
    timed.answer bounds operation :: (timed.perform bounds operation).answers rest

end Timed

/-! ## What a history tells -/

/-- A history is told in two parts: what came before the last reset with that reset itself, or
nothing at all if there was none, and what came since. -/
structure LastReset (earlier since : List Operation) : Prop where
  /-- The first part is empty or ends with a reset. -/
  ends : earlier = [] ∨ ∃ before, earlier = before ++ [.reset]
  /-- There is no reset in the second part. -/
  none_since : .reset ∉ since

/-- The clock after a history. -/
def clockAfter (clock : Clock) (history : List Operation) : Clock :=
  history.foldl Operation.clock clock

/-- The times at which writes are accepted in a history. -/
def acceptTimes (clock : Clock) : List Operation → List Number
  | [] => []
  | .accept :: rest => clock.now :: acceptTimes clock rest
  | operation :: rest => acceptTimes (operation.clock clock) rest

variable (bounds : TriggerBounds Number) (lastReset now : Number) (accepted : List Number)

/-- As many writes were accepted as the threshold says. -/
def SizeDue : Prop :=
  ∃ threshold, bounds.threshold = some threshold ∧ threshold ≤ accepted.length

/-- A write was accepted, and the interval since the last reset has run out. -/
def IntervalDue : Prop :=
  ∃ interval, bounds.interval = some interval ∧ 1 ≤ accepted.length ∧ lastReset + interval ≤ now

/-- The threshold was reached no later than the interval ran out. -/
def SizeFirst : Prop :=
  ∃ threshold interval reached,
    bounds.threshold = some threshold ∧ bounds.interval = some interval ∧
      accepted[(threshold - 1).toNat]? = some reached ∧ reached ≤ lastReset + interval

/-- The threshold was reached, and before the interval ran out if that has happened as well. -/
def SizeWins : Prop :=
  SizeDue bounds accepted ∧
    (¬ IntervalDue bounds lastReset now accepted ∨ SizeFirst bounds lastReset accepted)

variable {bounds lastReset now accepted}

/-! ## How the state follows the history -/

/-- If the time at the end is in the order of numbers, so is the time of each accept. -/
theorem ordered_of_mem {clock : Clock} {history : List Operation}
    (ordered : (clockAfter clock history).now ≤ (clockAfter clock history).now) :
    clock.now ≤ clock.now ∧ ∀ time ∈ acceptTimes clock history, time ≤ time := by
  induction history generalizing clock with
  | nil => exact ⟨ordered, nofun⟩
  | cons first rest ih =>
    obtain ⟨first_, others⟩ := ih ordered
    cases first with
    | accept =>
      refine ⟨first_, fun time listed => ?_⟩
      rcases List.mem_cons.mp listed with rfl | older
      · exact first_
      · exact others time older
    | evaluate | consult | reset => exact ⟨first_, others⟩
    | advance seconds => exact ⟨Clock.ordered_of_passed first_, others⟩

/-- The time at which the threshold was reached. -/
def reachedAt (bounds : TriggerBounds Number) (accepted : List Number) : Option Number :=
  bounds.threshold.bind fun threshold => accepted[(threshold - 1).toNat]?

/-- The state of the triggers is what the last reset and the accepts since then say. -/
structure Tells (bounds : TriggerBounds Number) (lastReset : Number) (accepted : List Number)
    (triggers : Triggers Number) : Prop where
  /-- The accepts are counted. -/
  buffered : triggers.buffered = accepted.length
  /-- The time of the reset is kept. -/
  lastFlush : triggers.lastFlush = lastReset
  /-- The latch holds the time of the accept that reached the threshold. -/
  sizeFired : triggers.sizeFired = reachedAt bounds accepted

/-- The next accept reaches the threshold exactly if none before it has and the count says so. -/
theorem reachedAt_concat
    (positive : ∀ threshold, bounds.threshold = some threshold → 1 ≤ threshold) :
    reachedAt bounds (accepted ++ [now]) =
      (reachedAt bounds accepted).or
        (if reached bounds (accepted.length + 1) then some now else none) := by
  unfold reachedAt reached
  cases on : bounds.threshold with
  | none => rfl
  | some threshold =>
    have least := positive threshold on
    simp only [Option.bind_some, Option.any_some, decide_eq_true_eq]
    rcases Nat.lt_trichotomy (threshold - 1).toNat accepted.length with before | at_ | beyond
    · rw [List.getElem?_append_left before, List.getElem?_eq_getElem before, Option.some_or]
    · have count : threshold ≤ Int.ofNat (accepted.length + 1) := by
        rw [Int.ofNat_eq_natCast]
        omega
      rw [if_pos count, at_, List.getElem?_concat_length, List.getElem?_eq_none (Nat.le_refl _)]
      rfl
    · have short : ¬ threshold ≤ Int.ofNat (accepted.length + 1) := by
        rw [Int.ofNat_eq_natCast]
        omega
      have longer : (accepted ++ [now]).length ≤ (threshold - 1).toNat := by
        rw [List.length_append]
        exact beyond
      rw [if_neg short, List.getElem?_eq_none longer, List.getElem?_eq_none (Nat.le_of_lt beyond)]
      rfl

/-- After a reset nothing has happened. -/
theorem Tells.start : Tells bounds now [] (start now) where
  buffered := rfl
  lastFlush := rfl
  sizeFired := by
    unfold reachedAt
    cases bounds.threshold <;> rfl

/-- An accept is told by its time. -/
theorem Tells.accept (positive : ∀ threshold, bounds.threshold = some threshold → 1 ≤ threshold)
    {triggers : Triggers Number} (tells : Tells bounds lastReset accepted triggers) :
    Tells bounds lastReset (accepted ++ [now]) (triggers.accept bounds now) where
  buffered := by
    rw [List.length_append, ← tells.buffered]
    rfl
  lastFlush := tells.lastFlush
  sizeFired := by
    rw [reachedAt_concat positive, ← tells.sizeFired, ← tells.buffered]
    rfl

/-- An operation other than a reset is told by the times of its accepts, if it is one. -/
theorem Tells.perform (positive : ∀ threshold, bounds.threshold = some threshold → 1 ≤ threshold)
    {timed : Timed} (tells : Tells bounds lastReset accepted timed.triggers)
    {operation : Operation} (goesOn : operation ≠ .reset) :
    Tells bounds lastReset (accepted ++ acceptTimes timed.clock [operation])
      (timed.perform bounds operation).triggers := by
  cases operation with
  | accept => exact tells.accept positive
  | reset => exact absurd rfl goesOn
  | evaluate | consult | advance =>
    change Tells bounds lastReset (accepted ++ []) _
    rw [List.append_nil]
    exact ⟨tells.buffered, tells.lastFlush, tells.sizeFired⟩

/-- The times of a history are those of its first operation and those of the rest. -/
theorem acceptTimes_cons (clock : Clock) (first : Operation) (rest : List Operation) :
    acceptTimes clock (first :: rest) =
      acceptTimes clock [first] ++ acceptTimes (first.clock clock) rest := by
  cases first <;> rfl

/-- Whatever is done without a reset, the state is told by the accepts. -/
theorem Tells.after (positive : ∀ threshold, bounds.threshold = some threshold → 1 ≤ threshold)
    {timed : Timed} (tells : Tells bounds lastReset accepted timed.triggers)
    {history : List Operation} (goesOn : .reset ∉ history) :
    Tells bounds lastReset (accepted ++ acceptTimes timed.clock history)
      (timed.after bounds history).triggers := by
  induction history generalizing timed accepted with
  | nil =>
    change Tells bounds lastReset (accepted ++ []) _
    rw [List.append_nil]
    exact tells
  | cons first rest ih =>
    obtain ⟨here, later⟩ := List.ne_and_not_mem_of_not_mem_cons goesOn
    rw [acceptTimes_cons, ← List.append_assoc]
    exact ih (tells.perform positive here.symm) later

/-- The clock goes its way whatever is done with the triggers. -/
theorem clock_after (timed : Timed) (history : List Operation) :
    (timed.after bounds history).clock = clockAfter timed.clock history := by
  induction history generalizing timed with
  | nil => rfl
  | cons first rest ih => exact ih (timed.perform bounds first)

/-- At the last reset, or at the start, the triggers begin at the time of the clock. -/
theorem LastReset.triggers_eq {earlier since : List Operation} (split : LastReset earlier since)
    (clock : Clock) :
    ((Timed.start clock).after bounds earlier).triggers =
      .start (clockAfter clock earlier).now := by
  rcases split.ends with rfl | ⟨before, rfl⟩
  · rfl
  · unfold Timed.after clockAfter
    rw [List.foldl_append, List.foldl_append]
    change Triggers.start ((Timed.start clock).after bounds before).clock.now = _
    rw [clock_after]
    rfl

/-- Every history has a last reset, or a start. -/
theorem exists_lastReset (history : List Operation) :
    ∃ earlier since, history = earlier ++ since ∧ LastReset earlier since := by
  induction history with
  | nil => exact ⟨[], [], rfl, .inl rfl, nofun⟩
  | cons first rest ih =>
    obtain ⟨earlier, since, rfl, ends, none_since⟩ := ih
    rcases ends with rfl | ⟨before, rfl⟩
    · cases first with
      | reset => exact ⟨[.reset], since, rfl, .inr ⟨[], rfl⟩, none_since⟩
      | accept | evaluate | consult | advance =>
        exact ⟨[], _, rfl, .inl rfl, List.not_mem_cons_of_ne_of_not_mem nofun none_since⟩
    · exact ⟨first :: (before ++ [.reset]), since, rfl, .inr ⟨first :: before, rfl⟩, none_since⟩

/-! ## What is found -/

section Finding

variable {triggers : Triggers Number}

/-- The threshold was reached exactly if as many writes were accepted. -/
theorem sizeDue_iff (positive : ∀ threshold, bounds.threshold = some threshold → 1 ≤ threshold) :
    SizeDue bounds accepted ↔ (reachedAt bounds accepted).isSome := by
  unfold SizeDue reachedAt
  cases on : bounds.threshold with
  | none => exact ⟨nofun, nofun⟩
  | some threshold =>
    have least := positive threshold on
    rw [Option.bind_some, isSome_getElem?]
    constructor
    · rintro ⟨other, same, enough⟩
      obtain rfl := Option.some.inj same
      omega
    · intro inside
      exact ⟨threshold, rfl, by omega⟩

/-- The interval trigger has fired exactly if the interval is due, and it fired at that time. -/
theorem intervalFired_eq_some_iff (tells : Tells bounds lastReset accepted triggers)
    {due : Number} :
    triggers.intervalFired bounds now = some due ↔
      ∃ interval, bounds.interval = some interval ∧ 1 ≤ accepted.length ∧
        lastReset + interval ≤ now ∧ due = lastReset + interval := by
  unfold intervalFired
  rw [tells.buffered, tells.lastFlush]
  cases bounds.interval with
  | none => exact ⟨nofun, nofun⟩
  | some interval =>
    dsimp only
    constructor
    · intro fired
      obtain ⟨⟨some_held, passed⟩, same⟩ := Option.ite_none_right_eq_some.mp fired
      exact ⟨interval, rfl, some_held, passed, (Option.some.inj same).symm⟩
    · rintro ⟨other, same, some_held, passed, rfl⟩
      obtain rfl := Option.some.inj same
      exact if_pos ⟨some_held, passed⟩

/-- The interval is due exactly if its trigger has fired. -/
theorem intervalDue_iff (tells : Tells bounds lastReset accepted triggers) :
    IntervalDue bounds lastReset now accepted ↔ (triggers.intervalFired bounds now).isSome := by
  rw [Option.isSome_iff_exists]
  constructor
  · rintro ⟨interval, on, some_held, passed⟩
    exact ⟨_, (intervalFired_eq_some_iff tells).mpr ⟨interval, on, some_held, passed, rfl⟩⟩
  · rintro ⟨due, fired⟩
    obtain ⟨interval, on, some_held, passed, -⟩ := (intervalFired_eq_some_iff tells).mp fired
    exact ⟨interval, on, some_held, passed⟩

/-- When both triggers have fired, their times say which was first. -/
theorem sizeFirst_iff (tells : Tells bounds lastReset accepted triggers) {size due : Number}
    (sized : reachedAt bounds accepted = some size)
    (fired : triggers.intervalFired bounds now = some due) :
    SizeFirst bounds lastReset accepted ↔ size ≤ due := by
  obtain ⟨threshold, on, at_⟩ := Option.bind_eq_some_iff.mp sized
  obtain ⟨interval, timed, -, -, rfl⟩ := (intervalFired_eq_some_iff tells).mp fired
  constructor
  · rintro ⟨_, _, reached, on', timed', at', first⟩
    obtain rfl := Option.some.inj (on.symm.trans on')
    obtain rfl := Option.some.inj (timed.symm.trans timed')
    obtain rfl := Option.some.inj (at_.symm.trans at')
    exact first
  · intro first
    exact ⟨threshold, interval, size, on, timed, at_, first⟩

/-- There is a reason exactly if one of the triggers is due, and the reason is the size exactly if
it wins. -/
theorem Tells.reason (tells : Tells bounds lastReset accepted triggers)
    (positive : ∀ threshold, bounds.threshold = some threshold → 1 ≤ threshold)
    (ordered : now ≤ now → ∀ time ∈ accepted, time ≤ time) :
    ((triggers.reason bounds now).isSome = true ↔
      SizeDue bounds accepted ∨ IntervalDue bounds lastReset now accepted) ∧
    (triggers.reason bounds now = some .size ↔ SizeWins bounds lastReset now accepted) ∧
    (triggers.reason bounds now = some .interval ↔
      (SizeDue bounds accepted ∨ IntervalDue bounds lastReset now accepted) ∧
        ¬ SizeWins bounds lastReset now accepted) := by
  unfold SizeWins Triggers.reason
  rw [sizeDue_iff positive, intervalDue_iff tells, tells.sizeFired]
  cases sized : reachedAt bounds accepted with
  | none => cases triggers.intervalFired bounds now <;> simp
  | some size =>
    cases fired : triggers.intervalFired bounds now with
    | none => simp
    | some due =>
      have first : SizeFirst bounds lastReset accepted ↔ ¬ due < size := by
        obtain ⟨_, _, at_⟩ := Option.bind_eq_some_iff.mp sized
        obtain ⟨_, _, _, passed, rfl⟩ := (intervalFired_eq_some_iff tells).mp fired
        obtain ⟨due_, now_⟩ := Number.le_self_of_le passed
        have size_ := ordered now_ size (List.mem_of_getElem? at_)
        rw [sizeFirst_iff tells sized fired, Number.le_iff_not_lt size_ due_]
      rw [first]
      by_cases earlier : due < size <;> simp [earlier]

end Finding

/-! ## What is recalled -/

/-- What was found last is recalled until the triggers are asked again or reset. -/
theorem recalls_after {timed : Timed} {history : List Operation} (unasked : .evaluate ∉ history)
    (goesOn : .reset ∉ history) : (timed.after bounds history).recalls = timed.recalls := by
  induction history generalizing timed with
  | nil => rfl
  | cons first rest ih =>
    obtain ⟨asks, unasked⟩ := List.ne_and_not_mem_of_not_mem_cons unasked
    obtain ⟨resets, goesOn⟩ := List.ne_and_not_mem_of_not_mem_cons goesOn
    have later : ((timed.perform bounds first).after bounds rest).recalls =
        (timed.perform bounds first).recalls := ih unasked goesOn
    refine later.trans ?_
    cases first with
    | evaluate => exact absurd rfl asks
    | reset => exact absurd rfl resets
    | accept | consult | advance => rfl

/-! ## What asking leaves behind -/

/-- Triggers and clock, but for the reason that was found last. -/
def Timed.forget (timed : Timed) : Timed := ⟨timed.clock, { timed.triggers with found := none }⟩

/-- What is done with triggers does not depend on the reason that was found last. -/
theorem forget_perform (timed : Timed) (operation : Operation) :
    (timed.perform bounds operation).forget = (timed.forget.perform bounds operation).forget := by
  cases operation <;> rfl

/-- A question leaves no trace but the reason that was found last. -/
theorem forget_question (timed : Timed) {operation : Operation}
    (asks : operation.isQuestion = true) :
    (timed.perform bounds operation).forget = timed.forget := by
  cases operation with
  | evaluate | consult => rfl
  | accept | reset | advance => cases asks

/-- Without its questions a history leads to the same state, but for the reason that was found
last. -/
theorem forget_after {timed other : Timed} (same : timed.forget = other.forget)
    (history : List Operation) :
    (timed.after bounds history).forget =
      (other.after bounds (history.filter fun operation => !operation.isQuestion)).forget := by
  induction history generalizing timed other with
  | nil => exact same
  | cons first rest ih =>
    cases asks : first.isQuestion with
    | true =>
      rw [List.filter_cons_of_neg (by simp [asks])]
      exact ih ((forget_question timed asks).trans same)
    | false =>
      rw [List.filter_cons_of_pos (by simp [asks])]
      apply ih
      rw [forget_perform timed, forget_perform other, same]

/-- What is found does not depend on questions asked before. -/
theorem finds_after_of_filter {timed : Timed} {history other : List Operation}
    (same : other.filter (fun operation => !operation.isQuestion) =
      history.filter fun operation => !operation.isQuestion) :
    (timed.after bounds other).finds bounds = (timed.after bounds history).finds bounds := by
  have states : (timed.after bounds other).forget = (timed.after bounds history).forget := by
    rw [forget_after rfl other, forget_after rfl history, same]
  calc (timed.after bounds other).finds bounds
    _ = (timed.after bounds other).forget.finds bounds := rfl
    _ = (timed.after bounds history).forget.finds bounds := by rw [states]
    _ = (timed.after bounds history).finds bounds := rfl

/-- Asking once more finds the same and changes nothing. -/
theorem after_replicate_evaluate (timed : Timed) (times : Nat) :
    timed.after bounds (List.replicate (times + 1) .evaluate) =
      timed.after bounds [.evaluate] := by
  induction times generalizing timed with
  | zero => rfl
  | succ times ih => exact ih (timed.perform bounds .evaluate)

/-! ## All answers -/

/-- The triggers fire if the size or the interval is due; the reason is the size if it wins, and
the interval otherwise. -/
structure Timed.FiresWhenDue (timed : Timed) (bounds : TriggerBounds Number) (lastReset : Number)
    (accepted : List Number) : Prop where
  /-- When the triggers fire. -/
  fires : timed.fires bounds = true ↔
    SizeDue bounds accepted ∨ IntervalDue bounds lastReset timed.clock.now accepted
  /-- When the reason is the size. -/
  size : timed.finds bounds = some .size ↔ SizeWins bounds lastReset timed.clock.now accepted
  /-- When the reason is the interval. -/
  interval : timed.finds bounds = some .interval ↔
    (SizeDue bounds accepted ∨ IntervalDue bounds lastReset timed.clock.now accepted) ∧
      ¬ SizeWins bounds lastReset timed.clock.now accepted

/-- The triggers and the clock after a history that begins when the triggers are made. -/
def Timed.ofHistory (bounds : TriggerBounds Number) (clock : Clock) (history : List Operation) :
    Timed :=
  (Timed.start clock).after bounds history

/-- What the triggers answer after a history depends on the time of the last reset, on the times of
the accepts since then and on the time of the clock. -/
theorem firesWhenDue_of_lastReset
    (positive : ∀ threshold, bounds.threshold = some threshold → 1 ≤ threshold) (clock : Clock)
    {earlier since : List Operation} (split : LastReset earlier since) :
    (Timed.ofHistory bounds clock (earlier ++ since)).FiresWhenDue bounds
      (clockAfter clock earlier).now (acceptTimes (clockAfter clock earlier) since) := by
  have stages : Timed.ofHistory bounds clock (earlier ++ since) =
      ((Timed.start clock).after bounds earlier).after bounds since := List.foldl_append
  have clock_then : ((Timed.start clock).after bounds earlier).clock = clockAfter clock earlier :=
    clock_after _ earlier
  have clock_now : (Timed.ofHistory bounds clock (earlier ++ since)).clock =
      clockAfter (clockAfter clock earlier) since := by
    rw [stages, clock_after, clock_then]
  have fresh : Tells bounds (clockAfter clock earlier).now []
      ((Timed.start clock).after bounds earlier).triggers := by
    rw [split.triggers_eq clock]
    exact .start
  have tells := fresh.after positive split.none_since
  rw [← stages, clock_then, List.nil_append] at tells
  have ordered : (Timed.ofHistory bounds clock (earlier ++ since)).clock.now ≤
      (Timed.ofHistory bounds clock (earlier ++ since)).clock.now →
      ∀ time ∈ acceptTimes (clockAfter clock earlier) since, time ≤ time := by
    rw [clock_now]
    exact fun now_ => (ordered_of_mem now_).2
  obtain ⟨fires, size, interval⟩ := tells.reason positive ordered
  exact ⟨fires, size, interval⟩

/-- The reason that is recalled is the one that the last question since the last reset found. -/
theorem recalls_of_lastReset (clock : Clock) {earlier since : List Operation}
    (split : LastReset earlier since) :
    (.evaluate ∉ since → (Timed.ofHistory bounds clock (earlier ++ since)).recalls = none) ∧
    ∀ before after, since = before ++ .evaluate :: after → .evaluate ∉ after →
      (Timed.ofHistory bounds clock (earlier ++ since)).recalls =
        (Timed.ofHistory bounds clock (earlier ++ before)).finds bounds := by
  constructor
  · intro unasked
    have stages : Timed.ofHistory bounds clock (earlier ++ since) =
        ((Timed.start clock).after bounds earlier).after bounds since := List.foldl_append
    rw [stages, recalls_after unasked split.none_since]
    change ((Timed.start clock).after bounds earlier).triggers.found = none
    rw [split.triggers_eq clock]
    rfl
  · rintro before after rfl unasked
    have goesOn : .reset ∉ after := fun listed =>
      split.none_since (List.mem_append_right _ (List.mem_cons_of_mem _ listed))
    have stages : Timed.ofHistory bounds clock (earlier ++ (before ++ .evaluate :: after)) =
        ((Timed.ofHistory bounds clock (earlier ++ before)).perform bounds .evaluate).after bounds
          after := by
      unfold Timed.ofHistory Timed.after
      rw [← List.append_assoc, List.foldl_append, List.foldl_cons]
    rw [stages, recalls_after unasked goesOn]
    rfl

/-- What the triggers answer at the end of any history. Let `earlier` reach to the last reset or be
empty, and let `since` be the rest. The triggers fire exactly if as many writes were accepted since
then as the threshold says, or if one was and the interval since then has run out. The reason is the
size if it is due and was due first, and otherwise the interval. What they recall is the reason that
the last question since then found, and nothing if there was none. Questions asked before change
nothing that is found, and asking many times is for all that follows like asking once. -/
theorem answers_of_history {bounds : TriggerBounds Number}
    (positive : ∀ threshold, bounds.threshold = some threshold → 1 ≤ threshold) (clock : Clock)
    (history : List Operation) :
    (∃ earlier since, history = earlier ++ since ∧ LastReset earlier since) ∧
    (∀ earlier since, history = earlier ++ since → LastReset earlier since →
      (Timed.ofHistory bounds clock history).FiresWhenDue bounds
        (clockAfter clock earlier).now (acceptTimes (clockAfter clock earlier) since) ∧
      (.evaluate ∉ since → (Timed.ofHistory bounds clock history).recalls = none) ∧
      ∀ before after, since = before ++ .evaluate :: after → .evaluate ∉ after →
        (Timed.ofHistory bounds clock history).recalls =
          (Timed.ofHistory bounds clock (earlier ++ before)).finds bounds) ∧
    (∀ other, other.filter (fun operation => !operation.isQuestion) =
        history.filter (fun operation => !operation.isQuestion) →
      (Timed.ofHistory bounds clock other).finds bounds =
        (Timed.ofHistory bounds clock history).finds bounds) ∧
    ∀ times later,
      (Timed.ofHistory bounds clock (history ++ List.replicate (times + 1) .evaluate)).answers
          bounds later =
        (Timed.ofHistory bounds clock (history ++ [.evaluate])).answers bounds later := by
  refine ⟨exists_lastReset history, ?_, fun other same => finds_after_of_filter same, ?_⟩
  · rintro earlier since rfl split
    exact ⟨firesWhenDue_of_lastReset positive clock split, recalls_of_lastReset clock split⟩
  · intro times later
    have stages (further : List Operation) :
        Timed.ofHistory bounds clock (history ++ further) =
          (Timed.ofHistory bounds clock history).after bounds further := List.foldl_append
    rw [stages, stages, after_replicate_evaluate]

/-- Three writes trigger a flush, and so does a second. -/
def threeOrSecond : TriggerBounds Number := ⟨some 3, some (.int 1)⟩

/-- A write and a question before the reset. -/
def flushed : List Operation := [.accept, .evaluate, .reset]

/-- A write, two seconds later two more, and a question. -/
def late : List Operation := [.accept, .advance (.int 2), .accept, .accept, .evaluate]

/-- The second has run out before the third write is accepted, so the reason is the interval though
the size is due as well. -/
theorem answers_of_history_late :
    (∀ threshold, threeOrSecond.threshold = some threshold → 1 ≤ threshold) ∧
      LastReset flushed late ∧
      acceptTimes (clockAfter ⟨.int 0⟩ flushed) late = [.int 0, .int 2, .int 2] ∧
      (Timed.ofHistory threeOrSecond ⟨.int 0⟩ (flushed ++ late)).finds threeOrSecond =
        some .interval := by
  have positive : ∀ threshold, threeOrSecond.threshold = some threshold → 1 ≤ threshold := by
    rintro _ ⟨⟩
    decide
  have split : LastReset flushed late := ⟨.inr ⟨[.accept, .evaluate], rfl⟩, by simp [late]⟩
  obtain ⟨tells, -⟩ :=
    (answers_of_history positive ⟨.int 0⟩ (flushed ++ late)).2.1 flushed late rfl split
  refine ⟨positive, split, rfl, tells.interval.mpr ⟨.inl ⟨3, rfl, by decide⟩, ?_⟩⟩
  rintro ⟨-, early | ⟨_, _, _, ⟨⟩, ⟨⟩, ⟨⟩, first⟩⟩
  · exact early ⟨.int 1, rfl, by decide, by decide⟩
  · revert first
    decide

end Triggers
end WideColumn
