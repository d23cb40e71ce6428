import WideColumn.Error

/-!
# Flush triggers

Two triggers decide when the write buffer is drained. The size trigger fires when the buffer reaches
a threshold, the interval trigger when a time has passed since the last flush and something is
buffered. When both have fired, the one that fired first gives the reason, and a tie goes to size.
Times can be of any kind that has sums and an order.
-/
namespace WideColumn

/-- When each trigger fires; an absent bound switches a trigger off. -/
structure TriggerBounds (τ : Type) where
  /-- The number of buffered writes that fires the size trigger. -/
  threshold : Option Int
  /-- The time since the last flush that fires the interval trigger. -/
  interval : Option τ

/-- The state of the triggers of one buffer. -/
structure Triggers (τ : Type) where
  /-- Writes accepted since the last flush. -/
  buffered : Nat
  /-- The time of the last flush. -/
  lastFlush : τ
  /-- When the threshold was reached. -/
  sizeFired : Option τ
  /-- What the last evaluation since the last flush found. -/
  found : Option FlushReason

namespace Triggers

variable {τ : Type} [Add τ] [LE τ] [LT τ] [DecidableLE τ] [DecidableLT τ]

/-- The state right after a flush. -/
def start (now : τ) : Triggers τ := ⟨0, now, none, none⟩

/-- Whether a number of buffered writes has reached the threshold. -/
def reached (bounds : TriggerBounds τ) (buffered : Nat) : Bool :=
  bounds.threshold.any fun threshold => decide (threshold ≤ Int.ofNat buffered)

/-- Count an accepted write. -/
def accept (bounds : TriggerBounds τ) (now : τ) (triggers : Triggers τ) : Triggers τ :=
  let buffered := triggers.buffered + 1
  { triggers with
    buffered
    sizeFired := triggers.sizeFired.or (if reached bounds buffered then some now else none) }

/-- When the interval trigger fired, if it has. -/
def intervalFired (bounds : TriggerBounds τ) (now : τ) (triggers : Triggers τ) : Option τ :=
  match bounds.interval with
  | none => none
  | some interval =>
    let due := triggers.lastFlush + interval
    if triggers.buffered > 0 ∧ due ≤ now then some due else none

/-- The reason to flush, if there is one. -/
def reason (bounds : TriggerBounds τ) (now : τ) (triggers : Triggers τ) : Option FlushReason :=
  match triggers.sizeFired, triggers.intervalFired bounds now with
  | none, none => none
  | some _, none => some .size
  | none, some _ => some .interval
  | some size, some interval => some (if interval < size then .interval else .size)

/-- Evaluate the triggers and remember what was found. -/
def evaluate (bounds : TriggerBounds τ) (now : τ) (triggers : Triggers τ) : Triggers τ :=
  { triggers with found := triggers.reason bounds now }

/-- Begin anew after a flush. -/
def reset (now : τ) (_ : Triggers τ) : Triggers τ := start now

end Triggers
end WideColumn
