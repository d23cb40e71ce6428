import WideColumn.Pattern.Parser
import WideColumn.Proofs.Except

/-!
# What reading leaves alone

However a pattern is read, the reader keeps the whole of it: no step replaces it, and every fault
carries it. So a compiled pattern knows the bytes it was compiled from, and a cache of it can be
told from these bytes.
-/
namespace WideColumn.Pattern

namespace Reading

/-- What reading leads to: a good result, or a fault of the pattern. -/
def LeadsTo (pattern : Bytes) (good : α → ReaderState → Prop) :
    Except Fault (α × ReaderState) → Prop
  | .ok (value, after) => good value after
  | .error fault => fault.pattern = pattern

/-- A step of reading keeps the pattern: it ends with the same one, and it fails with a fault of the
same one. -/
def Keeps (pattern : Bytes) (reading : Reading α) : Prop :=
  ∀ s, s.pattern = pattern →
    LeadsTo pattern (fun _ after => after.pattern = pattern) (reading.run s)

section Keeps

variable {pattern : Bytes} {α β : Type}

/-! ## Ways to put steps together -/

/-- Doing nothing keeps the pattern. -/
theorem Keeps.pure (value : α) : Keeps pattern (pure value : Reading α) := fun _ same => same

/-- Two steps in a row lead to what the second one does, from a state with the same pattern. -/
theorem Keeps.run_bind {first : Reading α} {next : α → Reading β} {good : β → ReaderState → Prop}
    (one : Keeps pattern first) {s : ReaderState} (same : s.pattern = pattern)
    (other : ∀ value after, after.pattern = pattern →
      LeadsTo pattern good ((next value).run after)) :
    LeadsTo pattern good ((first >>= next).run s) := by
  have here := one s same
  rw [StateT.run_bind]
  cases run : first.run s with
  | error fault =>
    rw [run] at here
    exact here
  | ok result =>
    rw [run] at here
    exact other result.1 result.2 here

/-- Two steps in a row keep the pattern if each does. -/
theorem Keeps.bind {first : Reading α} {next : α → Reading β} (one : Keeps pattern first)
    (other : ∀ value, Keeps pattern (next value)) : Keeps pattern (first >>= next) :=
  fun _ same => one.run_bind same other

/-- A step that looks at the state does what it does for this state. -/
theorem run_get_bind (next : ReaderState → Reading α) (s : ReaderState) :
    (MonadState.get >>= next).run s = (next s).run s := rfl

/-- A step that looks at the state keeps the pattern if it does so for each state that has it. -/
theorem Keeps.get {next : ReaderState → Reading α}
    (each : ∀ s, s.pattern = pattern → Keeps pattern (next s)) :
    Keeps pattern (MonadState.get >>= next) :=
  fun s same => each s same s same

/-- A changed state keeps the pattern if it has it. -/
theorem Keeps.set {s : ReaderState} (same : s.pattern = pattern) :
    Keeps pattern (MonadState.set s : Reading PUnit) := fun _ _ => same

/-- A change of other parts of the state keeps the pattern. -/
theorem Keeps.modify {change : ReaderState → ReaderState}
    (frame : ∀ s, (change s).pattern = s.pattern) :
    Keeps pattern (modify change : Reading PUnit) := fun s same => (frame s).trans same

/-- A fault of the pattern keeps it. -/
theorem Keeps.throw {fault : Fault} (same : fault.pattern = pattern) :
    Keeps pattern (throw fault : Reading α) := fun _ _ => same

/-- A step without its result keeps the pattern if the step does. -/
theorem Keeps.discard {reading : Reading α} (one : Keeps pattern reading) :
    Keeps pattern (discard reading) :=
  one.bind fun _ => .pure _

/-- A choice between two steps keeps the pattern if both do. -/
theorem Keeps.ite {condition : Prop} [Decidable condition] {one other : Reading α}
    (yes : Keeps pattern one) (no : Keeps pattern other) :
    Keeps pattern (if condition then one else other) := by
  split
  · exact yes
  · exact no

/-- A check before all other steps keeps the pattern if it does and they do. -/
theorem Keeps.guard {condition : Prop} [Decidable condition] {check : Reading Unit}
    {next : Unit → Reading α} (one : Keeps pattern check) (other : Keeps pattern (next ())) :
    Keeps pattern (if condition then check >>= next else next ()) :=
  .ite (.bind one fun _ => other) other

/-! ## Tokens -/

theorem keeps_position : Keeps pattern position := .get fun _ _ => .pure _

theorem keeps_refuse (cause : Cause) (offset : Nat) :
    Keeps pattern (refuse cause offset : Reading α) :=
  .get fun _ same => .bind keeps_position fun _ => .throw same

theorem keeps_moveTo (rest : Bytes) : Keeps pattern (moveTo rest) := by
  refine .get fun s same => ?_
  split
  · exact .throw same
  · exact .set same

theorem keeps_peek : Keeps pattern peek := by
  refine .get fun s _ => ?_
  split <;> exact .pure _

theorem keeps_next : Keeps pattern next := by
  refine .get fun s _ => ?_
  split
  · exact .pure _
  · exact .bind (keeps_moveTo _) fun _ => .pure _
  · exact .bind (keeps_moveTo _) fun _ => .pure _

theorem keeps_accept (c : Char) : Keeps pattern (accept c) := by
  refine .bind keeps_peek fun token => ?_
  cases token with
  | none => exact .pure _
  | some token =>
    dsimp only
    split
    · exact .bind keeps_next.discard fun _ => .pure _
    · exact .pure _

theorem keeps_takeWhile (kind : UInt8 → Bool) (count : Nat) :
    Keeps pattern (takeWhile kind count) := by
  induction count with
  | zero => exact .pure _
  | succ count ih =>
    refine .bind keeps_peek fun token => ?_
    split
    · split
      · exact .bind keeps_next.discard fun _ => .bind ih fun _ => .pure _
      · exact .pure _
    · exact .pure _

theorem keeps_takeUntil (terminator : Char) (fuel : Nat) (name : Text) :
    Keeps pattern (takeUntil terminator fuel name) := by
  induction fuel generalizing name with
  | zero => exact .pure _
  | succ fuel ih =>
    refine .bind keeps_next fun token => ?_
    cases token with
    | none =>
      dsimp only
      split <;> exact keeps_refuse _ _
    | some token =>
      dsimp only
      split
      · split
        · exact keeps_refuse _ _
        · exact .pure _
      · exact ih _

theorem keeps_name (terminator : Char) : Keeps pattern (name terminator) :=
  .get fun _ _ => keeps_takeUntil _ _ _

end Keeps
end Reading

open Reading

section Keeps

variable {pattern : Bytes}

/-! ## Escapes and sets -/

theorem keeps_readHexEscape : Keeps pattern readHexEscape := by
  refine .bind (keeps_takeWhile _ _) fun digits => ?_
  split
  · exact .pure _
  · exact keeps_refuse _ _

theorem keeps_octalByte (first : UInt8) (rest : Bytes) : Keeps pattern (octalByte first rest) := by
  unfold octalByte
  dsimp only
  split
  · exact .pure _
  · exact keeps_refuse _ _

theorem keeps_readSetEscape (byte : UInt8) : Keeps pattern (readSetEscape byte) := by
  unfold readSetEscape
  split
  · exact .pure _
  · exact .pure _
  · split
    · exact .bind keeps_readHexEscape fun _ => .pure _
    · split
      · exact .bind (keeps_takeWhile _ _) fun _ => .bind (keeps_octalByte _ _) fun _ => .pure _
      · split
        · exact keeps_refuse _ _
        · exact .pure _

theorem keeps_checkLookbehind (index : Nat) : Keeps pattern (checkLookbehind index) := by
  refine .get fun s _ => ?_
  split
  · exact .pure _
  · exact .guard (keeps_refuse _ _) (.ite (keeps_refuse _ _) (.pure _))

theorem keeps_readReference (index width : Nat) : Keeps pattern (readReference index width) :=
  .get fun _ _ => .ite
    (.guard (keeps_refuse _ _) (.bind (keeps_checkLookbehind _) fun _ => .pure _))
    (keeps_refuse _ _)

theorem keeps_readEscape (byte : UInt8) : Keeps pattern (readEscape byte) := by
  unfold readEscape
  split
  · exact .pure _
  · exact .pure _
  · exact .pure _
  · split
    · exact .bind keeps_readHexEscape fun _ => .pure _
    · split
      · exact .bind (keeps_takeWhile _ _) fun _ => .pure _
      · split
        · refine .bind (keeps_takeWhile _ _) fun digits => ?_
          split
          · split
            · refine .bind (keeps_takeWhile _ _) fun digits => ?_
              split
              · exact .bind (keeps_octalByte _ _) fun _ => .pure _
              · exact keeps_readReference _ _
            · exact keeps_readReference _ _
          · exact keeps_readReference _ _
        · split
          · exact keeps_refuse _ _
          · exact .pure _

theorem keeps_readMember (token : Token) : Keeps pattern (readMember token) := by
  cases token with
  | plain byte => exact .pure _
  | escaped byte => exact keeps_readSetEscape byte

theorem keeps_readMembers (start fuel : Nat) (members : List Member) :
    Keeps pattern (readMembers start fuel members) := by
  induction fuel generalizing members with
  | zero => exact .pure _
  | succ fuel ih =>
    have unterminated : Keeps pattern (do
        refuse (α := List Member) .unterminatedSet ((← position) - start)) :=
      .bind keeps_position fun _ => keeps_refuse _ _
    refine .bind keeps_next fun token => ?_
    cases token with
    | none => exact unterminated
    | some token =>
      dsimp only
      split
      · exact .pure _
      · refine .bind (keeps_readMember _) fun low => .bind (keeps_accept _) fun dashed => ?_
        cases dashed with
        | false => exact ih _
        | true =>
          refine .bind keeps_next fun other => ?_
          cases other with
          | none => exact unterminated
          | some other =>
            dsimp only
            split
            · exact .pure _
            · refine .bind (keeps_readMember _) fun high => ?_
              split
              · split
                · exact keeps_refuse _ _
                · exact ih _
              · exact keeps_refuse _ _

theorem keeps_readSet : Keeps pattern readSet := by
  refine .bind keeps_position fun place => .bind (keeps_accept _) fun negated => .get fun s _ =>
    .bind (keeps_readMembers _ _ _) fun members => ?_
  split <;> exact .pure _

/-! ## Repeats -/

theorem keeps_readBound (digits : Bytes) : Keeps pattern (readBound digits) :=
  .get fun _ same => .ite (.throw same) (.ite (.throw same) (.pure _))

theorem keeps_readBounds (here : Nat) : Keeps pattern (readBounds here) := by
  refine .get fun s _ => .bind keeps_peek fun token => ?_
  extract_lets fuel
  refine .ite (.pure _) (.bind (keeps_takeWhile _ _) fun low =>
    .bind (keeps_accept _) fun comma => ?_)
  extract_lets finish
  have finished (high : Bytes) : Keeps pattern (finish high) := by
    refine .bind (keeps_accept _) fun closed => .ite (.bind (keeps_moveTo _) fun _ => .pure _) ?_
    extract_lets upTo
    have bounded (min : Nat) : Keeps pattern (upTo min) :=
      .ite (.pure _) (.bind (keeps_readBound _) fun max =>
        .ite (.bind keeps_position fun _ => keeps_refuse _ _) (.pure _))
    exact .ite (.bind (.pure _) bounded) (.bind (keeps_readBound _) bounded)
  exact .ite (.bind (keeps_takeWhile _ _) finished) (.bind (.pure _) finished)

theorem keeps_repeated (items : List Item) (width : Nat) :
    Keeps pattern (repeated items width) := by
  unfold repeated
  split
  · exact keeps_refuse _ _
  · exact keeps_refuse _ _
  · exact keeps_refuse _ _
  · exact .pure _
  · exact .pure _

theorem keeps_readGreed : Keeps pattern readGreed := by
  refine .bind (keeps_accept _) fun lazy => ?_
  split
  · exact .pure _
  · refine .bind (keeps_accept _) fun possessive => ?_
    split <;> exact .pure _

/-! ## Flags -/

theorem keeps_readFlagsOn (fuel : Nat) (flag : Flag) (on : List Flag) :
    Keeps pattern (readFlagsOn fuel flag on) := by
  induction fuel generalizing flag on with
  | zero => exact .pure _
  | succ fuel ih =>
    rw [readFlagsOn]
    refine .guard (keeps_refuse _ _) (.guard (keeps_refuse _ _) (.bind keeps_next fun token => ?_))
    cases token with
    | none => exact keeps_refuse _ _
    | some token =>
      refine .ite (.pure _) ?_
      split
      · exact ih _ _
      · exact keeps_refuse _ _

theorem keeps_readFlagsOff (fuel : Nat) (flag : Flag) (off : List Flag) :
    Keeps pattern (readFlagsOff fuel flag off) := by
  induction fuel generalizing flag off with
  | zero => exact .pure _
  | succ fuel ih =>
    rw [readFlagsOff]
    refine .guard (keeps_refuse _ _) (.bind keeps_next fun token => ?_)
    cases token with
    | none => exact keeps_refuse _ _
    | some token =>
      refine .ite (.pure _) ?_
      split
      · exact ih _ _
      · exact keeps_refuse _ _

theorem keeps_readFlags (first : Token) : Keeps pattern (readFlags first) := by
  refine .get fun s _ => ?_
  extract_lets fuel rest
  have kept (read : List Flag × Token) : Keeps pattern (rest read) := by
    obtain ⟨on, stop⟩ := read
    refine .ite (.bind (.modify fun _ => rfl) fun _ => .pure _) (.guard (keeps_refuse _ _) ?_)
    extract_lets finish
    have finished (off : List Flag) : Keeps pattern (finish off) :=
      .guard (keeps_refuse _ _) (.guard (keeps_refuse _ _) (.pure _))
    refine .ite (.bind keeps_next fun token => ?_) (.bind (.pure _) finished)
    cases token with
    | none => exact .bind (keeps_refuse _ _) finished
    | some token =>
      dsimp only
      split
      · exact .bind (keeps_readFlagsOff _ _ _) finished
      · exact .bind (keeps_refuse _ _) finished
  split
  · exact .bind (keeps_readFlagsOn _ _ _) kept
  · exact .bind (.pure _) kept

/-! ## Groups -/

theorem keeps_checkName (name : Text) : Keeps pattern (checkName name) :=
  .ite (keeps_refuse _ _) (.pure _)

theorem keeps_readCondition (name : Text) : Keeps pattern (readCondition name) := by
  refine .get fun s _ => .ite ?_ ?_
  · split
    · exact .pure _
    · exact keeps_refuse _ _
  · split
    · exact keeps_refuse _ _
    · exact keeps_refuse _ _
    · refine .guard (keeps_refuse _ _) (.bind keeps_position fun place =>
        .bind (.modify fun s => ?_) fun _ => .pure _)
      split <;> rfl

theorem keeps_openGroup (name : Option Text) : Keeps pattern (openGroup name) := by
  refine .get fun s same => .bind (.set same) fun _ => ?_
  cases name with
  | none => exact .pure _
  | some name =>
    dsimp only
    split
    · exact keeps_refuse _ _
    · exact .bind (.modify fun _ => rfl) fun _ => .pure _

theorem keeps_closeGroup (index : Nat) (body : List Item) :
    Keeps pattern (closeGroup index body) :=
  .modify fun _ => rfl

theorem keeps_closeParenthesis (start : Nat) : Keeps pattern (closeParenthesis start) :=
  .bind (keeps_accept _) fun _ => .ite (.bind keeps_position fun _ => keeps_refuse _ _) (.pure _)

theorem keeps_skipComment (start fuel : Nat) : Keeps pattern (skipComment start fuel) := by
  induction fuel with
  | zero => exact .pure _
  | succ fuel ih =>
    refine .bind keeps_next fun token => ?_
    cases token with
    | none => exact .bind keeps_position fun _ => keeps_refuse _ _
    | some token => exact .ite (.pure _) ih

theorem keeps_skipLine (fuel : Nat) : Keeps pattern (skipLine fuel) := by
  induction fuel with
  | zero => exact .pure _
  | succ fuel ih =>
    refine .bind keeps_next fun token => ?_
    cases token with
    | none => exact .pure _
    | some token => exact .ite (.pure _) ih

theorem keeps_readNamed : Keeps pattern readNamed := by
  refine .bind (keeps_accept _) fun bracket => .ite ?_ (.bind (keeps_accept _) fun equals =>
    .ite ?_ (.bind keeps_next fun token => ?_))
  · exact .bind (keeps_name _) fun _ => .bind (keeps_checkName _) fun _ => .pure _
  · refine .bind (keeps_name _) fun name => .bind (keeps_checkName _) fun _ => .get fun s _ => ?_
    split
    · exact keeps_refuse _ _
    · exact .guard (keeps_refuse _ _) (.bind (keeps_checkLookbehind _) fun _ => .pure _)
  · cases token <;> exact keeps_refuse _ _

theorem keeps_readOpening (start : Nat) : Keeps pattern (readOpening start) := by
  refine .bind (keeps_accept _) fun question => .ite (.pure _) (.bind keeps_next fun token => ?_)
  cases token with
  | none => exact keeps_refuse _ _
  | some token =>
    refine .ite keeps_readNamed (.ite (.pure _)
      (.ite (.get fun _ _ => .bind (keeps_skipComment _ _) fun _ => .pure _)
      (.ite (.pure _) (.ite (.pure _) (.ite ?behind
      (.ite (.bind (keeps_name _) fun _ => .bind (keeps_readCondition _) fun _ =>
        .bind (keeps_checkLookbehind _) fun _ => .pure _)
      (.ite (.pure _) (.ite ?flags (keeps_refuse _ _)))))))))
    case behind =>
      refine .bind keeps_next fun token => ?_
      cases token with
      | none => exact keeps_refuse _ _
      | some token => exact .ite (.pure _) (.ite (.pure _) (keeps_refuse _ _))
    case flags =>
      refine .bind (keeps_readFlags _) fun flags => ?_
      cases flags <;> exact .pure _

/-! ## Nested constructs -/

/-- Choices, sequences, repeats and groups, which contain each other, keep the pattern down to some
depth of the reading. -/
structure KeepsNested (pattern : Bytes) (fuel : Nat) : Prop where
  /-- Choices do. -/
  choice (verbose outer : Bool) : Keeps pattern (readChoice verbose outer fuel)
  /-- Alternatives do. -/
  alternatives (verbose outer : Bool) : Keeps pattern (readAlternatives verbose outer fuel)
  /-- Sequences do. -/
  sequence (verbose first : Bool) (items : List Item) :
    Keeps pattern (readSequence verbose first fuel items)
  /-- Repeats do. -/
  repetition (verbose first : Bool) (items : List Item) (start : Nat) (sign : RepeatSign) :
    Keeps pattern (readRepeat verbose first fuel items start sign)
  /-- Groups do. -/
  group (verbose first : Bool) (items : List Item) (start : Nat) :
    Keeps pattern (readGroup verbose first fuel items start)

namespace KeepsNested

variable {fuel : Nat} (inner : KeepsNested pattern fuel)
include inner

theorem choice_succ (verbose outer : Bool) :
    Keeps pattern (readChoice verbose outer (fuel + 1)) := by
  rw [readChoice]
  exact .bind (inner.sequence _ _ _) fun _ => .bind keeps_peek fun _ =>
    .ite (.bind (inner.alternatives _ _) fun _ => .pure _) (.pure _)

theorem alternatives_succ (verbose outer : Bool) :
    Keeps pattern (readAlternatives verbose outer (fuel + 1)) := by
  rw [readAlternatives]
  exact .bind (keeps_accept _) fun _ => .ite
    (.get fun _ _ => .bind (inner.sequence _ _ _) fun _ =>
      .bind (inner.alternatives _ _) fun _ => .pure _)
    (.pure _)

theorem sequence_succ (verbose first : Bool) (items : List Item) :
    Keeps pattern (readSequence verbose first (fuel + 1) items) := by
  rw [readSequence]
  refine .bind keeps_peek fun token => ?_
  cases token with
  | none => exact .pure _
  | some token =>
    refine .ite (.pure _) (.bind keeps_position fun start => .bind keeps_next.discard fun _ => ?_)
    cases token with
    | escaped byte => exact .bind (keeps_readEscape _) fun _ => inner.sequence _ _ _
    | plain byte =>
      refine .ite (inner.sequence _ _ _) (.ite
        (.get fun _ _ => .bind (keeps_skipLine _) fun _ => inner.sequence _ _ _) ?_)
      split
      · exact .bind keeps_readSet fun _ => inner.sequence _ _ _
      · exact inner.sequence _ _ _
      · exact inner.sequence _ _ _
      · exact inner.sequence _ _ _
      · exact inner.repetition _ _ _ _ _
      · exact inner.repetition _ _ _ _ _
      · exact inner.repetition _ _ _ _ _
      · exact .bind (keeps_readBounds _) fun _ => inner.repetition _ _ _ _ _
      · exact inner.group _ _ _ _
      · exact inner.sequence _ _ _

theorem repetition_succ (verbose first : Bool) (items : List Item) (start : Nat)
    (sign : RepeatSign) :
    Keeps pattern (readRepeat verbose first (fuel + 1) items start sign) := by
  cases sign with
  | literal => exact inner.sequence _ _ _
  | bounds min max =>
    exact .bind keeps_position fun _ => .bind (keeps_repeated _ _) fun _ =>
      .bind keeps_readGreed fun _ => inner.sequence _ _ _

theorem group_succ (verbose first : Bool) (items : List Item) (start : Nat) :
    Keeps pattern (readGroup verbose first (fuel + 1) items start) := by
  rw [readGroup]
  refine .bind (keeps_readOpening _) fun opening => ?_
  cases opening with
  | nothing => exact inner.sequence _ _ _
  | globalFlags =>
    have start : Keeps pattern (get >>= fun s : ReaderState =>
        readSequence (s.flags.contains .verbose) first fuel items) :=
      .get fun _ _ => inner.sequence _ _ _
    exact .ite (.bind keeps_position fun _ => .bind (keeps_refuse _ _) fun _ => start) start
  | item item => exact inner.sequence _ _ _
  | look behind negated =>
    exact .get fun s _ => .guard (.modify fun _ => rfl) (.bind (inner.choice _ _) fun body =>
      .guard (.modify fun _ => rfl) (.bind (keeps_closeParenthesis _) fun _ => .get fun s _ =>
        inner.sequence _ _ _))
  | condition index =>
    refine .bind (inner.sequence _ _ _) fun yes => ?_
    extract_lets finish
    have finished (no : List Item) : Keeps pattern (finish no) :=
      .bind (keeps_closeParenthesis _) fun _ => inner.sequence _ _ _
    exact .bind (keeps_accept _) fun _ => .ite
      (.bind (inner.sequence _ _ _) fun no => .bind keeps_peek fun _ =>
        .guard (keeps_refuse _ _) (.bind (.pure _) finished))
      (.bind (.pure _) finished)
  | capture name =>
    exact .bind (keeps_openGroup _) fun _ => .bind (inner.choice _ _) fun _ =>
      .bind (keeps_closeParenthesis _) fun _ => .bind (keeps_closeGroup _ _) fun _ =>
      inner.sequence _ _ _
  | group on off =>
    exact .bind (inner.choice _ _) fun _ => .bind (keeps_closeParenthesis _) fun _ =>
      inner.sequence _ _ _
  | atomic =>
    exact .bind (inner.choice _ _) fun _ => .bind (keeps_closeParenthesis _) fun _ =>
      inner.sequence _ _ _

end KeepsNested

/-- By induction on the depth of the reading: nested constructs keep the pattern. -/
theorem keepsNested (fuel : Nat) : KeepsNested pattern fuel := by
  induction fuel with
  | zero => exact ⟨fun _ _ => .pure _, fun _ _ => .pure _, fun _ _ _ => .pure _,
      fun _ _ _ _ _ => .pure _, fun _ _ _ _ => .pure _⟩
  | succ fuel ih => exact ⟨ih.choice_succ, ih.alternatives_succ, ih.sequence_succ,
      ih.repetition_succ, ih.group_succ⟩

/-! ## The whole pattern -/

/-- What comes out of reading the whole pattern has it as its source, and what goes wrong carries
it. -/
theorem readPattern_source (s : ReaderState) :
    LeadsTo s.pattern (fun compiled _ => compiled.source = s.pattern) (readPattern.run s) := by
  rw [readPattern, run_get_bind]
  refine (keeps_moveTo s.rest).run_bind rfl fun _ s' same => ?_
  refine ((keepsNested _).choice false true).run_bind same fun items after same => ?_
  rw [run_get_bind]
  extract_lets conditions rest
  have checked : LeadsTo s.pattern (fun compiled _ => compiled.source = s.pattern)
      ((conditions ()).run after) := by
    dsimp only [conditions]
    split
    · exact same
    · split <;> exact same
  split
  · exact same
  · dsimp only [rest]
    split
    · exact same
    · exact checked

/-- A compiled pattern knows the bytes it was compiled from. -/
theorem compile_source {compiled : Compiled} (done : compile pattern = .ok compiled) :
    compiled.source = pattern := by
  obtain ⟨⟨_, after⟩, read, rfl⟩ := Except.map_eq_ok.1 done
  have source := readPattern_source ⟨pattern, pattern, [.dotAll], [none], [], none, []⟩
  rw [read] at source
  exact source

/-- The fault of a pattern that does not compile carries it. -/
theorem compile_fault {fault : Fault} (failed : compile pattern = .error fault) :
    fault.pattern = pattern := by
  have source := readPattern_source ⟨pattern, pattern, [.dotAll], [none], [], none, []⟩
  rw [compile] at failed
  cases read : readPattern.run ⟨pattern, pattern, [.dotAll], [none], [], none, []⟩ with
  | ok result =>
    rw [read] at failed
    cases failed
  | error other =>
    rw [read] at failed source
    cases failed
    exact source

end Keeps
end WideColumn.Pattern
