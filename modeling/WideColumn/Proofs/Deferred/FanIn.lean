import WideColumn.Proofs.Deferred.Evolution

/-!
# Barriers count exactly

A barrier has as many members left to count as there are callbacks of its on their way: waiting for
a pending member, or due and not yet delivered. So the count cannot reach zero while a member is
pending, and once it is zero the barrier has its outcome, which is the verdict over its members.
Every operation on the table keeps this, and no completion that a barrier attempts is ever refused.
-/
namespace WideColumn.Deferreds

variable {β : Type}

/-- Callbacks of barriers are where they belong and are counted, whether they wait in the table or
are due. -/
structure Wired (table : Deferreds β) (due : List (Notice β)) : Prop where
  /-- A barrier has as many members left to count as callbacks on their way. -/
  counted : ∀ {barrier fanIn}, table.fanIn? barrier = some fanIn →
    fanIn.remaining = table.waiting barrier + Notice.dueFor barrier due
  /-- A member is known. -/
  known : ∀ {barrier fanIn}, table.fanIn? barrier = some fanIn →
    ∀ member ∈ fanIn.members, member < table.size
  /-- The barrier will hear of a member that is pending. -/
  awaited : ∀ {barrier fanIn}, table.fanIn? barrier = some fanIn →
    ∀ member ∈ fanIn.members, table.outcome? member = none →
      .member barrier ∈ table.callbacksOf member ∨
        ∃ notice ∈ due, notice.subject = member ∧ notice.callback = .member barrier
  /-- A barrier's callback waits for members only. -/
  waits : ∀ {barrier id}, .member barrier ∈ table.callbacksOf id →
    ∃ fanIn, table.fanIn? barrier = some fanIn ∧ id ∈ fanIn.members
  /-- A barrier's callback is due for members only. -/
  informs : ∀ {barrier notice}, notice ∈ due → notice.callback = .member barrier →
    ∃ fanIn, table.fanIn? barrier = some fanIn ∧ notice.subject ∈ fanIn.members
  /-- Nothing waits for what is terminal. -/
  quiet : ∀ {id outcome}, table.outcome? id = some outcome → table.callbacksOf id = []

/-- Barriers are wired, and each has an outcome exactly if all its members are counted, which is the
verdict over them. -/
structure Sound (table : Deferreds β) (due : List (Notice β)) : Prop extends Wired table due where
  /-- The outcome of a barrier. -/
  verdicts : ∀ {barrier fanIn}, table.fanIn? barrier = some fanIn →
    table.outcome? barrier =
      if fanIn.remaining = 0 then some (table.verdict fanIn.members) else none

/-- Notices tell the outcome of what they are about. -/
def Truthful (table : Deferreds β) (due : List (Notice β)) : Prop :=
  ∀ notice ∈ due, table.outcome? notice.subject = some notice.outcome

/-- Notices stay true. -/
theorem Truthful.evolves {completes : Option DeferredId} {a b : Deferreds β}
    {due : List (Notice β)} (truthful : a.Truthful due) (evolves : Evolves completes a b) :
    b.Truthful due :=
  fun notice present => evolves.outcome (truthful notice present)

/-- Notices from two sources. -/
theorem truthful_append {table : Deferreds β} {left right : List (Notice β)} :
    table.Truthful (left ++ right) ↔ table.Truthful left ∧ table.Truthful right := by
  unfold Truthful
  simp only [List.mem_append]
  constructor
  · intro all
    exact ⟨fun notice present => all notice (.inl present),
      fun notice present => all notice (.inr present)⟩
  · rintro ⟨first, second⟩ notice (present | present)
    · exact first notice present
    · exact second notice present

/-- What a completion makes due is true. -/
theorem truthful_notices {table : Deferreds β} {id : DeferredId} {outcome : Outcome}
    (done : table.outcome? id = some outcome) (callbacks : List (Callback β)) :
    table.Truthful (notices id outcome callbacks) := by
  intro notice present
  obtain ⟨callback, _, rfl⟩ := List.mem_map.mp present
  exact done

/-- Truth does not depend on the order of the notices. -/
theorem Truthful.perm {table : Deferreds β} {left right : List (Notice β)}
    (truthful : table.Truthful left) (same : left.Perm right) : table.Truthful right :=
  fun notice present => truthful notice (same.mem_iff.mpr present)

namespace Wired

/-- Before anything happens there is nothing to count. -/
theorem empty : (empty : Deferreds β).Wired [] where
  counted found := nomatch found
  known found := nomatch found
  awaited found := nomatch found
  waits present := nomatch present
  informs present := nomatch present
  quiet done := nomatch done

/-- The wiring does not depend on the order of the notices. -/
theorem perm {table : Deferreds β} {left right : List (Notice β)} (wired : table.Wired left)
    (same : left.Perm right) : table.Wired right where
  counted found := by rw [← Notice.dueFor_perm same, wired.counted found]
  known := wired.known
  awaited found member listed pending := by
    rcases wired.awaited found member listed pending with waits | ⟨notice, present, about⟩
    · exact .inl waits
    · exact .inr ⟨notice, same.mem_iff.mp present, about⟩
  waits := wired.waits
  informs present := wired.informs (same.mem_iff.mpr present)
  quiet := wired.quiet

/-- The wiring does not depend on what a notice tells. -/
theorem retold {table : Deferreds β} {due : List (Notice β)} {notice : Notice β}
    (wired : table.Wired (notice :: due)) (outcome : Outcome) :
    table.Wired ({ notice with outcome } :: due) where
  counted found := wired.counted found
  known := wired.known
  awaited found member listed pending := by
    rcases wired.awaited found member listed pending with waits | ⟨other, present, about⟩
    · exact .inl waits
    · rcases List.mem_cons.mp present with rfl | older
      · exact .inr ⟨_, List.mem_cons_self, about⟩
      · exact .inr ⟨other, List.mem_cons_of_mem _ older, about⟩
  waits := wired.waits
  informs present callback := by
    rcases List.mem_cons.mp present with rfl | older
    · have own : notice ∈ notice :: due := List.mem_cons_self
      obtain ⟨fanIn, found, listed⟩ := wired.informs own callback
      exact ⟨fanIn, found, listed⟩
    · exact wired.informs (List.mem_cons_of_mem notice older) callback
  quiet := wired.quiet

/-- A barrier that has counted all its members has terminal members only. -/
theorem members_done {table : Deferreds β} {due : List (Notice β)} (wired : table.Wired due)
    {barrier : DeferredId} {fanIn : FanIn} (found : table.fanIn? barrier = some fanIn)
    (all : fanIn.remaining = 0) {member : DeferredId} (listed : member ∈ fanIn.members) :
    ∃ outcome, table.outcome? member = some outcome := by
  cases done : table.outcome? member with
  | some outcome => exact ⟨outcome, rfl⟩
  | none =>
    exfalso
    have balance := wired.counted found
    rcases wired.awaited found member listed done with waits | ⟨notice, present, _, callback⟩
    · have positive := waiting_pos waits
      omega
    · have positive := Notice.dueFor_pos present callback
      omega

/-- A barrier of which no notice is due, and whose members are terminal, has counted all. -/
theorem remaining_eq_zero {table : Deferreds β} {due : List (Notice β)} (wired : table.Wired due)
    {barrier : DeferredId} {fanIn : FanIn} (found : table.fanIn? barrier = some fanIn)
    (done : ∀ member ∈ fanIn.members, ∃ outcome, table.outcome? member = some outcome)
    (none_due : Notice.dueFor barrier due = 0) : fanIn.remaining = 0 := by
  rw [wired.counted found, none_due, Nat.add_zero]
  apply Nat.eq_zero_of_not_pos
  intro positive
  obtain ⟨id, waits⟩ := exists_of_waiting_pos positive
  obtain ⟨other, same, listed⟩ := wired.waits waits
  obtain rfl := Option.some.inj (found.symm.trans same)
  obtain ⟨outcome, terminal⟩ := done id listed
  rw [wired.quiet terminal] at waits
  cases waits

/-- Nothing is on its way to a barrier that does not exist. -/
theorem nothing_for_new {table : Deferreds β} {due : List (Notice β)} (wired : table.Wired due) :
    table.waiting table.size = 0 ∧ Notice.dueFor table.size due = 0 := by
  have unknown {fanIn : FanIn} (found : table.fanIn? table.size = some fanIn) : False :=
    Nat.lt_irrefl _ (lt_size_of_fanIn found)
  constructor
  · apply Nat.eq_zero_of_not_pos
    intro positive
    obtain ⟨id, waits⟩ := exists_of_waiting_pos positive
    obtain ⟨fanIn, found, _⟩ := wired.waits waits
    exact unknown found
  · apply Nat.eq_zero_of_not_pos
    intro positive
    obtain ⟨notice, present, callback⟩ := Notice.exists_of_dueFor_pos positive
    obtain ⟨fanIn, found, _⟩ := wired.informs present callback
    exact unknown found

/-- Completing something moves its callbacks from waiting to due. -/
theorem completed {table : Deferreds β} {due : List (Notice β)} (wired : table.Wired due)
    {id : DeferredId} (known : id < table.size) (outcome : Outcome) :
    (table.completed id outcome).Wired (notices id outcome (table.callbacksOf id) ++ due) where
  counted {barrier fanIn} found := by
    rw [fanIn?_completed] at found
    have moved := waiting_completed known outcome barrier
    have balance := wired.counted found
    rw [Notice.dueFor_append]
    omega
  known found member listed := by
    rw [fanIn?_completed] at found
    rw [size_completed]
    exact wired.known found member listed
  awaited {barrier fanIn} found member listed pending := by
    rw [fanIn?_completed] at found
    by_cases same : id = member
    · subst same
      rw [outcome?_completed_self known] at pending
      cases pending
    · rw [outcome?_completed_ne table same] at pending
      rw [callbacksOf_completed, if_neg same]
      rcases wired.awaited found member listed pending with waits | ⟨notice, present, about⟩
      · exact .inl waits
      · exact .inr ⟨notice, List.mem_append_right _ present, about⟩
  waits {barrier other} present := by
    rw [callbacksOf_completed] at present
    rw [fanIn?_completed]
    split at present
    · cases present
    · exact wired.waits present
  informs {barrier notice} present callback := by
    rw [fanIn?_completed]
    rcases List.mem_append.mp present with fresh | old
    · obtain ⟨waiting, listed, rfl⟩ := List.mem_map.mp fresh
      obtain rfl : waiting = .member barrier := callback
      exact wired.waits listed
    · exact wired.informs old callback
  quiet {other old} done := by
    rw [callbacksOf_completed]
    split
    · rfl
    · rename_i different
      rw [outcome?_completed_ne table different] at done
      exact wired.quiet done

/-- Counting a member that is terminal uses up the notice about it. -/
theorem arrived {table : Deferreds β} {due : List (Notice β)} {notice : Notice β}
    (wired : table.Wired (notice :: due)) {barrier : DeferredId} {fanIn : FanIn}
    (callback : notice.callback = .member barrier)
    (found : table.fanIn? barrier = some fanIn)
    (done : ∃ outcome, table.outcome? notice.subject = some outcome) :
    (table.counted barrier fanIn).Wired due where
  counted {other found'} present := by
    rw [waiting_counted]
    by_cases same : barrier = other
    · subst same
      rw [fanIn?_counted_self found] at present
      obtain rfl := Option.some.inj present
      have balance := wired.counted found
      simp only [Notice.dueFor_cons, callback, Callback.countsFor_member, beq_self_eq_true,
        ↓reduceIte] at balance
      simp only
      omega
    · rw [fanIn?_counted_ne table same] at present
      have balance := wired.counted present
      simpa [callback, same] using balance
  known {other found'} present member listed := by
    rw [size_counted]
    by_cases same : barrier = other
    · subst same
      rw [fanIn?_counted_self found] at present
      obtain rfl := Option.some.inj present
      exact wired.known found member listed
    · rw [fanIn?_counted_ne table same] at present
      exact wired.known present member listed
  awaited {other found'} present member listed pending := by
    rw [outcome?_counted] at pending
    rw [callbacksOf_counted]
    have before : .member other ∈ table.callbacksOf member ∨
        ∃ n ∈ notice :: due, n.subject = member ∧ n.callback = .member other := by
      by_cases same : barrier = other
      · subst same
        rw [fanIn?_counted_self found] at present
        obtain rfl := Option.some.inj present
        exact wired.awaited found member listed pending
      · rw [fanIn?_counted_ne table same] at present
        exact wired.awaited present member listed pending
    rcases before with waits | ⟨n, present, about, counts⟩
    · exact .inl waits
    · rcases List.mem_cons.mp present with rfl | older
      · -- The notice that is used up is about something terminal.
        obtain ⟨outcome, terminal⟩ := done
        rw [about, pending] at terminal
        cases terminal
      · exact .inr ⟨n, older, about, counts⟩
  waits {other id} present := by
    rw [callbacksOf_counted] at present
    obtain ⟨fanIn', before, listed⟩ := wired.waits present
    by_cases same : barrier = other
    · subst same
      obtain rfl := Option.some.inj (found.symm.trans before)
      exact ⟨_, fanIn?_counted_self found, listed⟩
    · exact ⟨fanIn', by rw [fanIn?_counted_ne table same, before], listed⟩
  informs {other n} present counts := by
    obtain ⟨fanIn', before, listed⟩ := wired.informs (List.mem_cons_of_mem notice present) counts
    by_cases same : barrier = other
    · subst same
      obtain rfl := Option.some.inj (found.symm.trans before)
      exact ⟨_, fanIn?_counted_self found, listed⟩
    · exact ⟨fanIn', by rw [fanIn?_counted_ne table same, before], listed⟩
  quiet done := by
    rw [outcome?_counted] at done
    rw [callbacksOf_counted]
    exact wired.quiet done

/-- It makes no difference whether a notice is due that is no barrier's. -/
theorem cons_foreign {table : Deferreds β} {due : List (Notice β)} {notice : Notice β}
    (other : ∀ barrier, notice.callback.countsFor barrier = false) :
    table.Wired (notice :: due) ↔ table.Wired due := by
  have foreign {barrier : DeferredId} : notice.callback ≠ .member barrier := by
    intro same
    have counts := other barrier
    rw [same] at counts
    simp at counts
  have uncounted (barrier : DeferredId) :
      Notice.dueFor barrier (notice :: due) = Notice.dueFor barrier due := by
    simp [other barrier]
  constructor
  · intro wired
    refine ⟨?_, wired.known, ?_, wired.waits, ?_, wired.quiet⟩
    · intro barrier fanIn found
      rw [← uncounted, wired.counted found]
    · intro barrier fanIn found member listed pending
      rcases wired.awaited found member listed pending with waits | ⟨n, present, about, counts⟩
      · exact .inl waits
      · rcases List.mem_cons.mp present with rfl | older
        · exact absurd counts foreign
        · exact .inr ⟨n, older, about, counts⟩
    · intro barrier n present counts
      exact wired.informs (List.mem_cons_of_mem notice present) counts
  · intro wired
    refine ⟨?_, wired.known, ?_, wired.waits, ?_, wired.quiet⟩
    · intro barrier fanIn found
      rw [uncounted, wired.counted found]
    · intro barrier fanIn found member listed pending
      rcases wired.awaited found member listed pending with waits | ⟨n, present, about⟩
      · exact .inl waits
      · exact .inr ⟨n, List.mem_cons_of_mem notice present, about⟩
    · intro barrier n present counts
      rcases List.mem_cons.mp present with rfl | older
      · exact absurd counts foreign
      · exact wired.informs older counts

/-- A new deferred result without callbacks. If it is a barrier, a notice is due about each of its
members. -/
theorem add {table : Deferreds β} {due fresh : List (Notice β)} (wired : table.Wired due)
    {deferred : Deferred β} (silent : deferred.callbacks = [])
    (own : ∀ notice ∈ fresh, notice.callback = .member table.size ∧
      ∃ fanIn, deferred.fanIn = some fanIn ∧ notice.subject ∈ fanIn.members)
    (counts : ∀ fanIn, deferred.fanIn = some fanIn →
      fanIn.remaining = Notice.dueFor table.size fresh ∧
        ∀ member ∈ fanIn.members, member < table.size ∧
          ∃ notice ∈ fresh, notice.subject = member) :
    (table.add deferred).2.Wired (fresh ++ due) := by
  have older {id : DeferredId} {fanIn : FanIn} (different : id ≠ table.size)
      (found : (table.add deferred).2.fanIn? id = some fanIn) : table.fanIn? id = some fanIn := by
    rwa [fanIn?_add_ne table deferred different] at found
  have newest {fanIn : FanIn} (found : (table.add deferred).2.fanIn? table.size = some fanIn) :
      deferred.fanIn = some fanIn := by
    rwa [fanIn?_add_self] at found
  have kept {id : DeferredId} {fanIn : FanIn} (found : table.fanIn? id = some fanIn) :
      (table.add deferred).2.fanIn? id = some fanIn := by
    rw [fanIn?_add_ne table deferred (Nat.ne_of_lt (lt_size_of_fanIn found)), found]
  have members {id : DeferredId} {fanIn : FanIn}
      (found : (table.add deferred).2.fanIn? id = some fanIn) :
      ∀ member ∈ fanIn.members, member < table.size := by
    intro member listed
    by_cases same : id = table.size
    · subst same
      exact ((counts fanIn (newest found)).2 member listed).1
    · exact wired.known (older same found) member listed
  obtain ⟨unheard, undue⟩ := wired.nothing_for_new
  refine ⟨?_, ?_, ?_, ?_, ?_, ?_⟩
  · intro barrier fanIn found
    rw [waiting_add, silent, Callback.counting_nil, Nat.add_zero, Notice.dueFor_append]
    by_cases same : barrier = table.size
    · subst same
      rw [unheard, undue, Nat.zero_add, Nat.add_zero, (counts fanIn (newest found)).1]
    · have nothing : Notice.dueFor barrier fresh = 0 := by
        apply Nat.eq_zero_of_not_pos
        intro positive
        obtain ⟨notice, present, callback⟩ := Notice.exists_of_dueFor_pos positive
        exact same (Callback.member.inj (callback.symm.trans (own notice present).1))
      rw [nothing, Nat.zero_add, wired.counted (older same found)]
  · intro barrier fanIn found member listed
    rw [size_add]
    exact Nat.lt_succ_of_lt (members found member listed)
  · intro barrier fanIn found member listed pending
    have different := Nat.ne_of_lt (members found member listed)
    rw [outcome?_add_ne table deferred different] at pending
    rw [callbacksOf_add_ne table deferred different]
    by_cases same : barrier = table.size
    · subst same
      obtain ⟨_, notice, present, about⟩ := (counts fanIn (newest found)).2 member listed
      exact .inr ⟨notice, List.mem_append_left due present, about, (own notice present).1⟩
    · rcases wired.awaited (older same found) member listed pending with
        waits | ⟨notice, present, about⟩
      · exact .inl waits
      · exact .inr ⟨notice, List.mem_append_right fresh present, about⟩
  · intro barrier id present
    by_cases same : id = table.size
    · subst same
      rw [callbacksOf_add_self, silent] at present
      cases present
    · rw [callbacksOf_add_ne table deferred same] at present
      obtain ⟨fanIn, found, listed⟩ := wired.waits present
      exact ⟨fanIn, kept found, listed⟩
  · intro barrier notice present callback
    rcases List.mem_append.mp present with new | old
    · obtain ⟨mine, fanIn, described, listed⟩ := own notice new
      obtain rfl : table.size = barrier := Callback.member.inj (mine.symm.trans callback)
      exact ⟨fanIn, (fanIn?_add_self table deferred).trans described, listed⟩
    · obtain ⟨fanIn, found, listed⟩ := wired.informs old callback
      exact ⟨fanIn, kept found, listed⟩
  · intro id outcome done
    by_cases same : id = table.size
    · subst same
      rw [callbacksOf_add_self, silent]
    · rw [outcome?_add_ne table deferred same] at done
      rw [callbacksOf_add_ne table deferred same]
      exact wired.quiet done

/-- A new deferred result that is no barrier and has no callbacks. -/
theorem add_plain {table : Deferreds β} {due : List (Notice β)} (wired : table.Wired due)
    {deferred : Deferred β} (plain : deferred.fanIn = none) (silent : deferred.callbacks = []) :
    (table.add deferred).2.Wired due := by
  show (table.add deferred).2.Wired ([] ++ due)
  apply wired.add silent
  · intro notice present
    cases present
  · intro fanIn described
    rw [plain] at described
    cases described

/-- A callback is registered for something pending in place of the notice about it. -/
theorem registered {table : Deferreds β} {due : List (Notice β)} {notice : Notice β}
    (wired : table.Wired (notice :: due)) (known : notice.subject < table.size)
    (pending : table.outcome? notice.subject = none) :
    (table.registered notice.subject notice.callback).Wired due := by
  refine ⟨?_, ?_, ?_, ?_, ?_, ?_⟩
  · intro barrier fanIn found
    rw [fanIn?_registered] at found
    have balance := wired.counted found
    rw [Notice.dueFor_cons] at balance
    rw [waiting_registered known]
    omega
  · intro barrier fanIn found
    rw [fanIn?_registered] at found
    rw [size_registered]
    exact wired.known found
  · intro barrier fanIn found member listed open_
    rw [fanIn?_registered] at found
    rw [outcome?_registered] at open_
    rw [callbacksOf_registered known]
    rcases wired.awaited found member listed open_ with waits | ⟨n, present, about, counts⟩
    · left
      split
      · exact List.mem_append_left _ waits
      · exact waits
    · rcases List.mem_cons.mp present with rfl | older
      · left
        rw [if_pos about]
        exact List.mem_append_right _ (List.mem_singleton.mpr counts.symm)
      · exact .inr ⟨n, older, about, counts⟩
  · intro barrier member present
    rw [fanIn?_registered]
    rw [callbacksOf_registered known] at present
    split at present
    · rename_i same
      rcases List.mem_append.mp present with older | fresh
      · exact wired.waits older
      · rw [← same]
        exact wired.informs List.mem_cons_self (List.mem_singleton.mp fresh).symm
    · exact wired.waits present
  · intro barrier n present counts
    rw [fanIn?_registered]
    exact wired.informs (List.mem_cons_of_mem notice present) counts
  · intro member outcome terminal
    rw [outcome?_registered] at terminal
    rw [callbacksOf_registered known]
    split
    · rename_i same
      rw [same, terminal] at pending
      cases pending
    · exact wired.quiet terminal

end Wired

/-- A new deferred result changes no verdict over those that were there before. -/
theorem verdict_add {table : Deferreds β} (deferred : Deferred β) {members : List DeferredId}
    (known : ∀ member ∈ members, member < table.size) :
    (table.add deferred).2.verdict members = table.verdict members :=
  verdict_congr fun member listed =>
    outcome?_add_ne table deferred (Nat.ne_of_lt (known member listed))

/-- A verdict over terminal members does not change when something pending completes. -/
theorem verdict_completed {table : Deferreds β} {members : List DeferredId} {id : DeferredId}
    (done : ∀ member ∈ members, ∃ outcome, table.outcome? member = some outcome)
    (pending : table.outcome? id = none) (outcome : Outcome) :
    (table.completed id outcome).verdict members = table.verdict members := by
  apply verdict_congr
  intro member listed
  apply outcome?_completed_ne
  rintro rfl
  obtain ⟨old, terminal⟩ := done id listed
  rw [pending] at terminal
  cases terminal

namespace Sound

/-- Soundness does not depend on the order of the notices. -/
theorem perm {table : Deferreds β} {left right : List (Notice β)} (sound : table.Sound left)
    (same : left.Perm right) : table.Sound right :=
  ⟨sound.toWired.perm same, sound.verdicts⟩

/-- Before anything happens there is nothing to count. -/
theorem empty : (empty : Deferreds β).Sound [] :=
  ⟨.empty, fun found => nomatch found⟩

/-- A barrier with an outcome has terminal members only, and the outcome is the verdict. -/
theorem outcome_eq {table : Deferreds β} {due : List (Notice β)} (sound : table.Sound due)
    {barrier : DeferredId} {fanIn : FanIn} {outcome : Outcome}
    (found : table.fanIn? barrier = some fanIn) (done : table.outcome? barrier = some outcome) :
    outcome = table.verdict fanIn.members ∧
      ∀ member ∈ fanIn.members, ∃ outcome, table.outcome? member = some outcome := by
  rw [sound.verdicts found] at done
  split at done
  · rename_i all
    exact ⟨(Option.some.inj done).symm, fun member listed => sound.members_done found all listed⟩
  · cases done

/-- It makes no difference whether a notice is due that is no barrier's. -/
theorem cons_foreign {table : Deferreds β} {due : List (Notice β)} {notice : Notice β}
    (other : ∀ barrier, notice.callback.countsFor barrier = false) :
    table.Sound (notice :: due) ↔ table.Sound due :=
  ⟨fun sound => ⟨(Wired.cons_foreign other).mp sound.toWired, sound.verdicts⟩,
    fun sound => ⟨(Wired.cons_foreign other).mpr sound.toWired, sound.verdicts⟩⟩

/-- A new deferred result that is wired. If it is a barrier, it has an outcome only if it has no
members left to count. -/
theorem add {table : Deferreds β} {due wires : List (Notice β)} (sound : table.Sound due)
    {deferred : Deferred β} (wired : (table.add deferred).2.Wired wires)
    (own : ∀ fanIn, deferred.fanIn = some fanIn →
      (∀ member ∈ fanIn.members, member < table.size) ∧
        deferred.outcome =
          if fanIn.remaining = 0 then some (table.verdict fanIn.members) else none) :
    (table.add deferred).2.Sound wires := by
  refine ⟨wired, ?_⟩
  intro barrier fanIn found
  by_cases same : barrier = table.size
  · subst same
    rw [fanIn?_add_self] at found
    obtain ⟨known, outcome⟩ := own fanIn found
    rw [outcome?_add_self, outcome, verdict_add deferred known]
  · rw [fanIn?_add_ne table deferred same] at found
    rw [outcome?_add_ne table deferred same, sound.verdicts found,
      verdict_add deferred (sound.known found)]

/-- A new deferred result that is no barrier and has no callbacks. -/
theorem add_plain {table : Deferreds β} {due : List (Notice β)} (sound : table.Sound due)
    {deferred : Deferred β} (plain : deferred.fanIn = none) (silent : deferred.callbacks = []) :
    (table.add deferred).2.Sound due := by
  apply sound.add (sound.toWired.add_plain plain silent)
  intro fanIn described
  rw [plain] at described
  cases described

/-- A callback is registered for something pending in place of the notice about it. -/
theorem registered {table : Deferreds β} {due : List (Notice β)} {notice : Notice β}
    (sound : table.Sound (notice :: due)) (known : notice.subject < table.size)
    (pending : table.outcome? notice.subject = none) :
    (table.registered notice.subject notice.callback).Sound due := by
  refine ⟨sound.toWired.registered known pending, ?_⟩
  intro barrier fanIn found
  rw [fanIn?_registered] at found
  rw [outcome?_registered, sound.verdicts found]
  have same : (table.registered notice.subject notice.callback).verdict fanIn.members =
      table.verdict fanIn.members :=
    verdict_congr fun member _ => outcome?_registered table notice.subject member _
  rw [same]

/-- A callback that is no barrier's may be registered for anything. -/
theorem register {table : Deferreds β} {due : List (Notice β)} (sound : table.Sound due)
    {id : DeferredId} (known : id < table.size) {callback : Callback β}
    (other : ∀ barrier, callback.countsFor barrier = false) :
    (table.register id callback).1.Sound ((table.register id callback).2 ++ due) := by
  cases done : table.outcome? id with
  | some outcome =>
    rw [register_done done]
    exact (cons_foreign other).mpr sound
  | none =>
    rw [register_pending done]
    -- A notice that is no barrier's may be thought of, whatever it tells.
    have noticed : table.Sound (⟨id, callback, .ok .nothing⟩ :: due) :=
      (cons_foreign other).mpr sound
    exact noticed.registered known done

/-- Something pending that is no barrier may be completed. -/
theorem complete {table : Deferreds β} {due : List (Notice β)} (sound : table.Sound due)
    {id : DeferredId} (known : id < table.size) (pending : table.outcome? id = none)
    (plain : table.fanIn? id = none) (outcome : Outcome) :
    (table.completed id outcome).Sound (notices id outcome (table.callbacksOf id) ++ due) := by
  refine ⟨sound.toWired.completed known outcome, ?_⟩
  intro barrier fanIn found
  rw [fanIn?_completed] at found
  have different : id ≠ barrier := by
    rintro rfl
    rw [plain] at found
    cases found
  rw [outcome?_completed_ne table different, sound.verdicts found]
  split
  · rename_i all
    rw [verdict_completed (fun member => sound.members_done found all) pending]
  · rfl

/-- A notice about something terminal lets a barrier count it. The barrier is never completed
already, so this is never refused. -/
theorem arrive {table : Deferreds β} {due : List (Notice β)} {notice : Notice β}
    (sound : table.Sound (notice :: due)) {barrier : DeferredId}
    (callback : notice.callback = .member barrier)
    (done : ∃ outcome, table.outcome? notice.subject = some outcome) :
    ∃ after fresh, table.arrive barrier = .ok (after, fresh) ∧ after.Sound (fresh ++ due) ∧
      after.Truthful fresh ∧
      (table.callbacksOf barrier = [] → fresh = [] ∧ after.callbacksOf barrier = []) := by
  obtain ⟨fanIn, found, _⟩ := sound.informs List.mem_cons_self callback
  have balance := sound.counted found
  have positive : 0 < fanIn.remaining := by
    simp only [Notice.dueFor_cons, callback, Callback.countsFor_member, beq_self_eq_true,
      ↓reduceIte] at balance
    omega
  have pending : table.outcome? barrier = none := by
    rw [sound.verdicts found, if_neg (Nat.ne_of_gt positive)]
  have wired := sound.toWired.arrived callback found done
  have here := fanIn?_counted_self found
  -- Counting leaves all outcomes alone, so the verdicts of other barriers stand.
  have others {other : DeferredId} {fanIn' : FanIn} (different : barrier ≠ other)
      (present : (table.counted barrier fanIn).fanIn? other = some fanIn') :
      (table.counted barrier fanIn).outcome? other =
        if fanIn'.remaining = 0 then some ((table.counted barrier fanIn).verdict fanIn'.members)
        else none := by
    have same : (table.counted barrier fanIn).verdict fanIn'.members =
        table.verdict fanIn'.members :=
      verdict_congr fun member _ => outcome?_counted table barrier member fanIn
    rw [fanIn?_counted_ne table different] at present
    rw [outcome?_counted, sound.verdicts present, same]
  rw [arrive_eq found]
  by_cases last : fanIn.remaining - 1 = 0
  · rw [if_pos last]
    have known : barrier < (table.counted barrier fanIn).size := by
      simpa using lt_size_of_fanIn found
    have open_ : (table.counted barrier fanIn).outcome? barrier = none := by
      rw [outcome?_counted, pending]
    have settled (member : DeferredId) (listed : member ∈ fanIn.members) :=
      wired.members_done here last listed
    rw [complete_eq known open_]
    refine ⟨_, _, rfl, ⟨wired.completed known _, ?_⟩,
      truthful_notices (outcome?_completed_self known _) _, fun silent => ⟨?_, ?_⟩⟩
    rotate_left
    · rw [callbacksOf_counted, silent]
      rfl
    · rw [callbacksOf_completed, if_pos rfl]
    intro other fanIn' present
    rw [fanIn?_completed] at present
    by_cases same : barrier = other
    · subst same
      obtain rfl := Option.some.inj (here.symm.trans present)
      rw [outcome?_completed_self known, if_pos last, verdict_completed settled open_]
    · rw [outcome?_completed_ne _ same, others same present]
      split
      · rename_i all
        rw [verdict_completed (fun member => wired.members_done present all) open_]
      · rfl
  · rw [if_neg last]
    refine ⟨_, _, rfl, ⟨wired, ?_⟩, fun _ present => (nomatch present),
      fun silent => ⟨rfl, by rw [callbacksOf_counted, silent]⟩⟩
    intro other fanIn' present
    by_cases same : barrier = other
    · subst same
      obtain rfl := Option.some.inj (here.symm.trans present)
      rw [outcome?_counted, pending, if_neg last]
    · exact others same present

end Sound

/-- Delivering a notice keeps the count exact and is never refused. -/
theorem Sound.deliver {table : Deferreds β} {due : List (Notice β)} {notice : Notice β}
    (sound : table.Sound (notice :: due)) (truthful : table.Truthful (notice :: due)) :
    (table.deliver notice).1.Sound ((table.deliver notice).2.1 ++ due) ∧
      (table.deliver notice).1.Truthful ((table.deliver notice).2.1 ++ due) ∧
      ∀ error, (table.deliver notice).2.2 ≠ .refused error := by
  have later : table.Truthful due := fun other present =>
    truthful other (List.mem_cons_of_mem notice present)
  have done : ∃ outcome, table.outcome? notice.subject = some outcome :=
    ⟨notice.outcome, truthful notice List.mem_cons_self⟩
  cases callback : notice.callback with
  | member barrier =>
    obtain ⟨after, fresh, arrived, next, true_, _⟩ := sound.arrive callback done
    rw [deliver_member callback arrived]
    refine ⟨next, truthful_append.mpr ⟨true_, later.evolves (evolves_arrive arrived)⟩, ?_⟩
    intro error refused
    cases refused
  | flushed reason batch =>
    have same : table.deliver notice = (table, [], .flushed reason batch notice.outcome) := by
      unfold Deferreds.deliver
      simp only [callback]
    rw [same]
    have other : ∀ barrier, notice.callback.countsFor barrier = false := by
      intro barrier
      rw [callback]
      rfl
    refine ⟨(cons_foreign other).mp sound, later, ?_⟩
    intro error refused
    cases refused
  | client scope body =>
    have same : table.deliver notice = (table, [],
        if scope.covers notice.outcome then .client body notice.outcome else .none) := by
      unfold Deferreds.deliver
      simp only [callback]
    rw [same]
    have other : ∀ barrier, notice.callback.countsFor barrier = false := by
      intro barrier
      rw [callback]
      rfl
    refine ⟨(cons_foreign other).mp sound, later, ?_⟩
    intro error refused
    simp only at refused
    split at refused <;> cases refused

end WideColumn.Deferreds
