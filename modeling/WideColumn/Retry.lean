import WideColumn.Execution

/-!
# Retries

A failed call is tried again as long as its failure counts as transient and attempts are left, with
a growing delay before each further attempt. A call that fails on every attempt ends with an error
that says so. The delay is written over any arithmetic in which powers, products and sums may leave
the range; whenever one does, the delay is the cap.
-/
namespace WideColumn

/-- The arithmetic of delays; `none` is a result out of range. -/
class DelayArithmetic (α : Type) where
  /-- No delay. -/
  zero : α
  /-- Strictly less. -/
  less : α → α → Bool
  /-- Sum. -/
  add? : α → α → Option α
  /-- Product. -/
  mul? : α → α → Option α
  /-- Natural power. -/
  pow? : α → Nat → Option α

instance : DelayArithmetic Number where
  zero := .int 0
  less := Number.lt
  add? := Number.add?
  mul? := Number.mul?
  pow? := Number.pow?

/-- How delays grow. -/
structure Backoff (α : Type) where
  /-- The delay before the second attempt. -/
  initial : α
  /-- The cap on every delay. -/
  cap : α
  /-- The greatest random addition. -/
  jitter : α
  /-- The factor from one delay to the next. -/
  base : α

namespace Backoff

variable {α : Type} [DelayArithmetic α]

/-- The smaller of two numbers, the first if neither is. -/
def least (a b : α) : α := if DelayArithmetic.less b a then b else a

/-- The greater of two numbers, the first if neither is. -/
def greatest (a b : α) : α := if DelayArithmetic.less a b then b else a

/-- The delay after a failed attempt, before caps, with a random addition. -/
def grown? (backoff : Backoff α) (attempt : Nat) (addition : α) : Option α := do
  let factor ← DelayArithmetic.pow? backoff.base (attempt - 1)
  let product ← DelayArithmetic.mul? backoff.initial factor
  DelayArithmetic.add? product addition

/-- The delay after a failed attempt, counted from one. -/
def delay (backoff : Backoff α) (attempt : Nat) (addition : α) : α :=
  greatest DelayArithmetic.zero
    (least ((backoff.grown? attempt addition).getD backoff.cap) backoff.cap)

/-- A random addition: a fraction of the jitter. -/
def addition (backoff : Backoff α) (fraction : α) : α :=
  (DelayArithmetic.mul? backoff.jitter fraction).getD DelayArithmetic.zero

end Backoff

/-- How often a call is tried and how long the pauses are. -/
structure RetryPolicy where
  /-- The number of attempts, the first included. -/
  maxAttempts : Int
  /-- The pauses. -/
  backoff : Backoff Number

namespace RetryPolicy

/-- Three attempts, with pauses from a twentieth of a second to two seconds. -/
def standard : RetryPolicy := ⟨3, ⟨.float 0.05, .float 2.0, .float 0.05, .float 2.0⟩⟩

/-- A policy needs at least one attempt. -/
def check (policy : RetryPolicy) : Except Error RetryPolicy :=
  if policy.maxAttempts < 1 then .error .noAttempts else .ok policy

/-- A policy that never tries again. -/
def single : RetryPolicy := { standard with maxAttempts := 1 }

/-- Attempts that remain after the first. -/
def further (policy : RetryPolicy) : Nat := (policy.maxAttempts - 1).toNat

end RetryPolicy

namespace Retry

/-- The error of a call that failed on every attempt. -/
def exhaust (attempts : Nat) (last : Error) : Error :=
  if last.isOperationFailure then .exhausted attempts last true else .reraised last

/-- What follows an attempt. -/
inductive Verdict (α : Type) where
  /-- The call is over. -/
  | ended (outcome : Except Error α)
  /-- The call is tried again. -/
  | again (failure : Error)

/-- Judge the outcome of an attempt. -/
def judge (transient : Error → Bool) (attempt : Nat) (isLast : Bool) :
    Except Error α → Verdict α
  | .ok value => .ended (.ok value)
  | .error error =>
    if transient error then
      if isLast then .ended (.error (exhaust attempt error)) else .again error
    else .ended (.error error)

/-- The surroundings of a retried call: one attempt, the choice of a pause after a transient
failure, and what is done once another attempt is certain. -/
structure Surroundings (σ : Type) (α : Type) where
  /-- One attempt. -/
  call : σ → Except Error α × σ
  /-- Choose the pause after an attempt. -/
  choose : Nat → σ → Number × σ
  /-- Report a failed attempt. -/
  report : Nat → Error → σ → σ
  /-- Make a pause. -/
  sleep : Number → σ → σ

/-- Try a call until it is over. A pause is chosen after every transient failure, the last one
included, but only made before another attempt, once the failure is reported. -/
def attempts (transient : Error → Bool) (around : Surroundings σ α) :
    (further : Nat) → (attempt : Nat) → σ → Except Error α × σ
  | further, attempt, state =>
    let (outcome, state) := around.call state
    let (chosen, state) :=
      match outcome with
      | .error error =>
        if transient error then
          let (pause, state) := around.choose attempt state
          (some pause, state)
        else (none, state)
      | .ok _ => (none, state)
    match judge transient attempt (further == 0) outcome, further with
    | .ended outcome, _ => (outcome, state)
    | .again error, 0 => (.error error, state)
    | .again error, further + 1 =>
      attempts transient around further (attempt + 1)
        (around.sleep (chosen.getD (.int 0)) (around.report attempt error state))

end Retry

/-- Fractions of the jitter that are drawn, one for each pause; zero when they are used up. -/
structure JitterSource where
  /-- The fractions to come. -/
  fractions : List Number

namespace JitterSource

/-- Draw the random addition to a pause. -/
def draw (source : JitterSource) (backoff : Backoff Number) : Number × JitterSource :=
  match source.fractions with
  | [] => (.int 0, source)
  | fraction :: rest => (backoff.addition fraction, ⟨rest⟩)

end JitterSource
end WideColumn
