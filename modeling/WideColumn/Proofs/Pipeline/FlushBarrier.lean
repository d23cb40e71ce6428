import WideColumn.Proofs.Pipeline.Invariant
import WideColumn.Proofs.Pipeline.Schedule

/-!
# The barrier of a flush

A flush gives a barrier over exactly the writes that were accepted before it and are not released.
The barrier is terminal once all of these are and it has been told so, and its outcome says which of
them failed. Writes that were released earlier are terminal anyway, so a barrier that is terminal
speaks for everything that was accepted before the flush, and for nothing that was accepted after
it.
-/
namespace WideColumn.Pipeline

variable {β σ : Type} {accepted released : List Ticket} {s t u : Pipeline β σ}

/-- The errors of the failed ones among references, in order. -/
def failuresAmong (pipeline : Pipeline β σ) (references : List DeferredId) : List Error :=
  references.filterMap fun id =>
    match pipeline.outcome? id with
    | some (.error error) => some error
    | _ => none

/-- The verdict over members reports their errors, if there are any. -/
theorem verdict_eq (s : Pipeline β σ) (members : List DeferredId) :
    s.deferreds.verdict members =
      if (s.failuresAmong members).isEmpty then .ok .nothing
      else .error (.flushFailed (s.failuresAmong members)) := by
  have same : s.deferreds.failures members = s.failuresAmong members := by
    unfold Deferreds.failures failuresAmong
    congr 1
    funext id
    exact Deferreds.error?_eq s.deferreds id
  unfold Deferreds.verdict
  rw [same]
  cases s.failuresAmong members with
  | nil => rfl
  | cons first rest => rfl

/-- The members of a flush are the accepted writes that are not released. -/
theorem Owned.mem_flushMembers (owned : s.Owned accepted released) (id : DeferredId) :
    id ∈ s.dispatcher.flushMembers ↔
      ∃ write ∈ accepted, write.deferred = id ∧ write ∉ released := by
  have once := (owned.custody.conserved.map Ticket.deferred).nodup_iff.mp owned.custody.once
  rw [List.append_assoc, List.map_append, List.nodup_append] at once
  obtain ⟨_, _, apart⟩ := once
  have held : id ∈ s.dispatcher.flushMembers ↔
      ∃ write ∈ s.holdings.writes ++ s.holdings.buffer.map BufferedWrite.ticket,
        write.deferred = id := by
    unfold Dispatcher.flushMembers
    rw [List.mem_append, show s.dispatcher.inFlight = s.holdings.inFlight from rfl,
      owned.custody.inFlight.mem_iff]
    constructor
    · rintro (buffered | flying)
      · obtain ⟨write, present, rfl⟩ := List.mem_map.mp buffered
        exact ⟨write.ticket, List.mem_append_right _ (List.mem_map_of_mem present), rfl⟩
      · obtain ⟨write, present, same⟩ := List.mem_map.mp flying
        exact ⟨write, List.mem_append_left _ present, same⟩
    · rintro ⟨write, present, rfl⟩
      rcases List.mem_append.mp present with flying | buffered
      · exact .inr (List.mem_map_of_mem flying)
      · obtain ⟨entry, listed, rfl⟩ := List.mem_map.mp buffered
        exact .inl (List.mem_map.mpr ⟨entry, listed, rfl⟩)
  rw [held]
  constructor
  · rintro ⟨write, present, same⟩
    refine ⟨write, ?_, same, ?_⟩
    · rw [owned.custody.mem_iff]
      exact .inr (List.mem_append.mp present)
    · intro gone
      exact apart _ (List.mem_map_of_mem gone) _ (List.mem_map_of_mem present) rfl
  · rintro ⟨write, listed, same, kept⟩
    refine ⟨write, ?_, same⟩
    rcases (owned.custody.mem_iff write).mp listed with gone | present
    · exact absurd gone kept
    · exact List.mem_append.mpr present

/-- A barrier is terminal exactly if all its members are and it has been told so. -/
theorem Owned.isDone_barrier (owned : s.Owned accepted released) {barrier : DeferredId}
    {members : List DeferredId} (about : s.deferreds.members? barrier = some members) :
    s.deferreds.isDone barrier = true ↔
      (∀ member ∈ members, s.deferreds.isDone member = true) ∧
        ∀ notice ∈ s.allDue, notice.callback ≠ .member barrier := by
  obtain ⟨fanIn, found, rfl⟩ := Option.map_eq_some_iff.mp about
  unfold Deferreds.isDone
  simp only [Option.isSome_iff_exists]
  constructor
  · rintro ⟨outcome, done⟩
    obtain ⟨_, all⟩ := owned.sound.outcome_eq found done
    refine ⟨all, ?_⟩
    intro notice present counts
    have positive := Notice.dueFor_pos present counts
    have remaining := owned.sound.counted found
    rw [owned.sound.verdicts found] at done
    split at done
    · omega
    · cases done
  · rintro ⟨all, told⟩
    have none_due : Notice.dueFor barrier s.allDue = 0 := by
      apply Nat.eq_zero_of_not_pos
      intro positive
      obtain ⟨notice, present, counts⟩ := Notice.exists_of_dueFor_pos positive
      exact told notice present counts
    have remaining := owned.sound.remaining_eq_zero found all none_due
    refine ⟨s.deferreds.verdict fanIn.members, ?_⟩
    rw [owned.sound.verdicts found, if_pos remaining]

variable {backend : Backend σ} {settings : Settings} {clock : Clock} {store : σ}
  {earlier later : List Event} {reason : FlushReason} {answer : Except Error DeferredId}

/-- A flush never fails, and its barrier keeps the members that it had. -/
theorem Run.members_of_flush
    (before : Run backend (start settings clock store : Pipeline β σ) earlier s)
    (flush : Step backend s (.flushed reason answer) u) (after : Run backend u later t) :
    ∃ barrier, answer = .ok barrier ∧
      t.deferreds.members? barrier = some s.dispatcher.flushMembers := by
  obtain ⟨_, orderly⟩ := before.owned
  have still := orderly.step flush
  obtain ⟨grown, _⟩ := after.grows still
  cases flush with
  | flush =>
  obtain ⟨journal, flushed⟩ := s.dispatcher.flush_eq reason orderly.accepts
  have inside : s.deferreds.size < (s.dispatcher.flushTable reason).1.size :=
    Deferreds.lt_size_of_members (s.dispatcher.members?_flushTable reason)
  rw [flushed] at grown ⊢
  refine ⟨s.deferreds.size, rfl, ?_⟩
  rw [grown.members inside]
  exact s.dispatcher.members?_flushTable reason

/-- Once the barrier of a flush is terminal, so is every write that was accepted before, whether it
is a member or had been released, and the barrier has the verdict over its members. -/
theorem Run.done_of_barrier
    (before : Run backend (start settings clock store : Pipeline β σ) earlier s)
    (flush : Step backend s (.flushed reason answer) u) (after : Run backend u later t)
    {barrier : DeferredId} (about : t.deferreds.members? barrier = some s.dispatcher.flushMembers)
    {outcome : Outcome} (done : t.outcome? barrier = some outcome) :
    (∀ write ∈ Pipeline.accepted earlier, t.deferreds.isDone write.deferred = true) ∧
      outcome = t.deferreds.verdict s.dispatcher.flushMembers := by
  obtain ⟨owned, orderly⟩ := before.owned
  obtain ⟨final, _⟩ := ((before.snoc flush).append after).owned
  obtain ⟨grown, _⟩ := ((Run.single flush).append after).grows orderly
  obtain ⟨fanIn, found, members⟩ := Option.map_eq_some_iff.mp about
  obtain ⟨verdict, all⟩ := final.sound.outcome_eq found done
  rw [members] at verdict all
  refine ⟨?_, verdict⟩
  intro write listed
  by_cases gone : write ∈ Pipeline.released earlier
  · obtain ⟨old, was⟩ := owned.backed.released gone
    exact Option.isSome_iff_exists.mpr ⟨old, grown.outcome was⟩
  · have member := (owned.mem_flushMembers write.deferred).mpr ⟨write, listed, rfl, gone⟩
    exact Option.isSome_iff_exists.mpr (all write.deferred member)

/-- A flush never fails. Its barrier holds exactly the writes that were accepted before and are not
released, and none that is accepted later. However the run goes on, the barrier is terminal exactly
if its members are and it has been told so. Then every write that was accepted before the flush is
terminal, and the outcome of the barrier is nothing if no member failed, and otherwise the errors of
the failed members. -/
theorem flush_barrier (before : Run backend (start settings clock store : Pipeline β σ) earlier s)
    (flush : Step backend s (.flushed reason answer) u) (after : Run backend u later t) :
    ∃ barrier members, answer = .ok barrier ∧ t.deferreds.members? barrier = some members ∧
      (∀ id, id ∈ members ↔ ∃ write ∈ Pipeline.accepted earlier,
        write.deferred = id ∧ write ∉ Pipeline.released earlier) ∧
      (∀ write ∈ Pipeline.accepted later, write.deferred ∉ members) ∧
      (t.deferreds.isDone barrier = true ↔
        (∀ member ∈ members, t.deferreds.isDone member = true) ∧
          ∀ notice ∈ t.allDue, notice.callback ≠ .member barrier) ∧
      ∀ outcome, t.outcome? barrier = some outcome →
        (∀ write ∈ Pipeline.accepted earlier, t.deferreds.isDone write.deferred = true) ∧
          outcome = if (t.failuresAmong members).isEmpty then .ok .nothing
            else .error (.flushFailed (t.failuresAmong members)) := by
  obtain ⟨owned, _⟩ := before.owned
  obtain ⟨final, _⟩ := ((before.snoc flush).append after).owned
  obtain ⟨barrier, answered, about⟩ := before.members_of_flush flush after
  refine ⟨barrier, s.dispatcher.flushMembers, answered, about, owned.mem_flushMembers, ?_,
    final.isDone_barrier about, ?_⟩
  · intro write fresh listed
    obtain ⟨old, present, same, _⟩ := (owned.mem_flushMembers _).mp listed
    have once := final.custody.once
    rw [accepted_append, accepted_append, List.map_append, List.nodup_append] at once
    apply once.2.2 old.deferred _ write.deferred (List.mem_map_of_mem fresh) same
    exact List.mem_map_of_mem (List.mem_append_left _ present)
  · intro outcome done
    obtain ⟨all, verdict⟩ := before.done_of_barrier flush after about done
    exact ⟨all, verdict.trans (t.verdict_eq _)⟩

/-- A put and a removal that wait for a flush. -/
def twoBuffered : List Event × Pipeline Unit Unit :=
  played forgetful (start manual ⟨.int 0⟩ ())
    [.submit (smallPut [97]), .submit (smallRemoval [98])]

/-- The two after a flush, and executed by two workers while another put is submitted. -/
def twoFlushed : List Event × Pipeline Unit Unit :=
  played forgetful (twoBuffered.2.after (twoBuffered.2.dispatcher.flush .explicit).2)
    [.submit (smallPut [99]), .take 0, .take 0,
      .work 1, .work 0, .work 0, .work 1, .work 1, .work 0]

/-- The barrier over a put and a removal, once both are over, reports the removal, which failed, and
does not hold the put that was accepted later. -/
theorem flush_barrier_of_failed_removal :
    Run forgetful (start manual ⟨.int 0⟩ ()) twoBuffered.1 twoBuffered.2 ∧
      Step forgetful twoBuffered.2 (.flushed .explicit (.ok 2))
        (twoBuffered.2.after (twoBuffered.2.dispatcher.flush .explicit).2) ∧
      Run forgetful (twoBuffered.2.after (twoBuffered.2.dispatcher.flush .explicit).2)
        twoFlushed.1 twoFlushed.2 ∧
      Pipeline.accepted twoBuffered.1 = [⟨0, smallPut [97]⟩, ⟨1, smallRemoval [98]⟩] ∧
      Pipeline.accepted twoFlushed.1 = [⟨3, smallPut [99]⟩] ∧
      ∃ members, twoFlushed.2.deferreds.members? 2 = some members ∧ 3 ∉ members ∧
        twoFlushed.2.outcome? 2 =
          some (.error (.flushFailed [(smallRemoval [98]).classify (.tableNotFound [116])])) ∧
        twoFlushed.2.deferreds.isDone 0 = true ∧ twoFlushed.2.deferreds.isDone 1 = true := by
  have before : Run forgetful (start manual ⟨.int 0⟩ ()) twoBuffered.1 twoBuffered.2 :=
    run_played rfl
  have flush : Step forgetful twoBuffered.2 (.flushed .explicit (.ok 2)) _ := .flush .explicit
  have after : Run forgetful _ twoFlushed.1 twoFlushed.2 := run_played rfl
  obtain ⟨barrier, members, answer, about, _, later, _, verdict⟩ := flush_barrier before flush after
  cases answer
  have failed : twoFlushed.2.outcome? 2 = some (.error (.flushFailed
      [(smallRemoval [98]).classify (.tableNotFound [116])])) := rfl
  obtain ⟨earlier, _⟩ := verdict _ failed
  have two : Pipeline.accepted twoBuffered.1 = [⟨0, smallPut [97]⟩, ⟨1, smallRemoval [98]⟩] := rfl
  have third : Pipeline.accepted twoFlushed.1 = [⟨3, smallPut [99]⟩] := rfl
  rw [two] at earlier
  rw [third] at later
  refine ⟨before, flush, after, two, third, members, about, ?_, failed, ?_, ?_⟩
  · exact later ⟨3, smallPut [99]⟩ List.mem_cons_self
  · exact earlier ⟨0, smallPut [97]⟩ List.mem_cons_self
  · exact earlier ⟨1, smallRemoval [98]⟩ (List.mem_cons_of_mem _ List.mem_cons_self)

end WideColumn.Pipeline
