import WideColumn.Proofs.Deferred.Interleaving

/-!
# Barriers wait for all their members, in whatever order these complete

A barrier that nobody else completes is pending while a member is. It is completed once, by whoever
counts the last member, and its outcome is a function of the outcomes of its members in order of the
members: nothing if none failed, and otherwise all their errors. As that function does not see when
members completed, neither does the outcome. Making a barrier and delivering a notice without
interruption are runs of the same steps, so all this holds for them.
-/
namespace WideColumn.Interleaving

variable {β : Type} {s t u : Interleaving β} {log more : List Event} {event : Event}
  {barrier : DeferredId} {members : List DeferredId}

/-! ## The outcome that a barrier should have -/

/-- The error of a member that failed. -/
def failed? : Outcome → Option Error
  | .ok _ => none
  | .error error => some error

/-- The outcome of a barrier over members with these outcomes. -/
def joint (outcomes : List Outcome) : Outcome :=
  match outcomes.filterMap failed? with
  | [] => .ok .nothing
  | errors => .error (.flushFailed errors)

/-- The failures of members are those among their outcomes. -/
theorem failures_eq {table : Deferreds β} {outcomes : List Outcome}
    (told : members.map table.outcome? = outcomes.map some) :
    table.failures members = outcomes.filterMap failed? := by
  induction members generalizing outcomes with
  | nil =>
    obtain rfl := List.map_eq_nil_iff.mp told.symm
    rfl
  | cons first rest ih =>
    cases outcomes with
    | nil => cases told
    | cons outcome outcomes =>
      obtain ⟨here, others⟩ := List.cons.inj told
      have rest_eq := ih others
      unfold Deferreds.failures at rest_eq ⊢
      rw [List.filterMap_cons, List.filterMap_cons, rest_eq, Deferreds.error?_eq, here]
      cases outcome <;> rfl

/-- The verdict over members with outcomes. -/
theorem verdict_eq_joint {table : Deferreds β} {outcomes : List Outcome}
    (told : members.map table.outcome? = outcomes.map some) :
    table.verdict members = joint outcomes := by
  cases failed : outcomes.filterMap failed? with
  | nil => simp only [Deferreds.verdict, joint, failures_eq told, failed]
  | cons first others => simp only [Deferreds.verdict, joint, failures_eq told, failed]

/-- Members that are terminal have outcomes, position by position. -/
theorem exists_outcomes {table : Deferreds β}
    (done : ∀ member ∈ members, ∃ outcome, table.outcome? member = some outcome) :
    ∃ outcomes : List Outcome, members.map table.outcome? = outcomes.map some := by
  induction members with
  | nil => exact ⟨[], rfl⟩
  | cons first rest ih =>
    obtain ⟨outcome, here⟩ := done first List.mem_cons_self
    obtain ⟨outcomes, others⟩ := ih fun member listed => done member (List.mem_cons_of_mem _ listed)
    exact ⟨outcome :: outcomes, by rw [List.map_cons, List.map_cons, here, others]⟩

/-- Members with outcomes are terminal. -/
theorem done_of_outcomes {table : Deferreds β} {outcomes : List Outcome}
    (told : members.map table.outcome? = outcomes.map some) {member : DeferredId}
    (listed : member ∈ members) : ∃ outcome, table.outcome? member = some outcome := by
  have present : table.outcome? member ∈ outcomes.map some := told ▸ List.mem_map_of_mem listed
  obtain ⟨outcome, -, same⟩ := List.mem_map.mp present
  exact ⟨outcome, same.symm⟩

/-- Outcomes of members are for good. -/
theorem Run.outcomes (run : Run s log t) {outcomes : List Outcome}
    (told : members.map s.table.outcome? = outcomes.map some) :
    members.map t.table.outcome? = outcomes.map some := by
  rw [← told]
  apply List.map_congr_left
  intro member listed
  obtain ⟨outcome, done⟩ := done_of_outcomes told listed
  rw [done, run.kept done]

/-! ## Nothing in progress -/

/-- A barrier has been told of its members, no notice for it is due, and it has concluded if it
counted them all. -/
structure Idle (barrier : DeferredId) (s : Interleaving β) : Prop where
  /-- It has been told. -/
  told : ∀ rest, (barrier, rest) ∈ s.learning → rest = []
  /-- No notice is due. -/
  delivered : ∀ notice ∈ s.due, notice.callback ≠ .member barrier
  /-- It is not about to conclude. -/
  concluded : barrier ∉ s.concluding

/-- A notice that stands for a member not told of. -/
theorem exists_of_mem_unheard {learning : List (DeferredId × List DeferredId)} {notice : Notice β}
    (listed : notice ∈ unheard learning) (callback : notice.callback = .member barrier) :
    ∃ rest, (barrier, rest) ∈ learning ∧ rest ≠ [] := by
  obtain ⟨⟨other, rest⟩, present, waits⟩ := List.mem_flatMap.mp listed
  obtain ⟨member, inside, rfl⟩ := List.mem_map.mp waits
  obtain rfl := Callback.member.inj callback
  exact ⟨rest, present, List.ne_nil_of_mem inside⟩

/-- Nothing is on its way to an idle barrier. -/
theorem Idle.dueFor (idle : Idle barrier s) : Notice.dueFor barrier s.onTheWay = 0 := by
  apply Nat.eq_zero_of_not_pos
  intro positive
  obtain ⟨notice, listed, callback⟩ := Notice.exists_of_dueFor_pos positive
  rcases List.mem_append.mp listed with waits | due
  · obtain ⟨rest, present, left⟩ := exists_of_mem_unheard waits callback
    exact left (idle.told rest present)
  · exact idle.delivered notice due callback

/-- An idle barrier over terminal members has their joint outcome. -/
theorem Phase.outcome_of_idle (phase : Phase barrier members log s) (orderly : Orderly log s)
    {outcomes : List Outcome} (told : members.map s.table.outcome? = outcomes.map some)
    (idle : Idle barrier s) : s.table.outcome? barrier = some (joint outcomes) := by
  cases phase with
  | counting found =>
    have none_left := orderly.wired.remaining_eq_zero found
      (fun member => done_of_outcomes told) idle.dueFor
    cases none_left
  | concluding _ _ on =>
    have listed : barrier ∈ s.concluding := List.count_pos_iff.mp (on ▸ Nat.one_pos)
    exact absurd listed idle.concluded
  | concluded _ done => rw [done, verdict_eq_joint told]

/-! ## A barrier becomes idle by steps of its own -/

/-- How many steps of its own a barrier takes at most. -/
def work (barrier : DeferredId) (s : Interleaving β) : Nat :=
  3 * Notice.dueFor barrier (unheard s.learning : List (Notice β)) +
    2 * Notice.dueFor barrier s.due + s.concluding.count barrier

/-- At most one notice becomes due by a registration. -/
theorem dueFor_register_le {table after : Deferreds β} {id : DeferredId} {callback : Callback β}
    {fresh : List (Notice β)} (made : table.register id callback = (after, fresh)) :
    Notice.dueFor barrier fresh ≤ 1 := by
  cases done : table.outcome? id with
  | none =>
    rw [Deferreds.register_pending done] at made
    obtain ⟨-, rfl⟩ := Prod.mk.inj made
    exact Nat.zero_le 1
  | some outcome =>
    rw [Deferreds.register_done done] at made
    obtain ⟨-, rfl⟩ := Prod.mk.inj made
    rw [Notice.dueFor_cons, Notice.dueFor_nil]
    split <;> omega

/-- A barrier does not wait for itself once its members are terminal and it is not. -/
theorem dueFor_notices_self (orderly : Orderly log s) {fanIn : FanIn}
    (found : s.table.fanIn? barrier = some fanIn)
    (done : ∀ member ∈ fanIn.members, ∃ outcome, s.table.outcome? member = some outcome)
    (pending : s.table.outcome? barrier = none) (outcome : Outcome) :
    Notice.dueFor barrier (Deferreds.notices barrier outcome (s.table.callbacksOf barrier)) =
      0 := by
  apply Nat.eq_zero_of_not_pos
  intro positive
  obtain ⟨notice, listed, callback⟩ := Notice.exists_of_dueFor_pos positive
  obtain ⟨waiting, present, rfl⟩ := List.mem_map.mp listed
  obtain rfl : waiting = .member barrier := callback
  obtain ⟨other, same, inside⟩ := orderly.wired.waits present
  obtain rfl := Option.some.inj (found.symm.trans same)
  obtain ⟨outcome, terminal⟩ := done barrier inside
  rw [pending] at terminal
  cases terminal

/-- A barrier that is not idle can take a step of its own, which leaves it less to do. -/
theorem Phase.progress (phase : Phase barrier members log s) (orderly : Orderly log s)
    (done : ∀ member ∈ members, ∃ outcome, s.table.outcome? member = some outcome)
    (busy : ¬ Idle barrier s) :
    ∃ event t, Step s event t ∧ event.IsOwn barrier ∧ work barrier t < work barrier s := by
  by_cases told : ∀ rest, (barrier, rest) ∈ s.learning → rest = []
  · by_cases delivered : ∀ notice ∈ s.due, notice.callback ≠ .member barrier
    · have listed : barrier ∈ s.concluding := by
        apply Classical.byContradiction
        intro off
        exact busy ⟨told, delivered, off⟩
      obtain ⟨before, after, last⟩ := List.append_of_mem listed
      have one : s.concluding.count barrier = (before ++ after).count barrier + 1 := by
        rw [last, List.perm_middle.count_eq, List.count_cons_self]
      cases phase with
      | concluding found pending on =>
        have known := Deferreds.lt_size_of_fanIn found
        have fresh := dueFor_notices_self orderly found done pending (s.table.verdict members)
        refine ⟨_, _, .conclude last found (Deferreds.complete_eq known pending _), rfl, ?_⟩
        simp only [work, Notice.dueFor_append]
        omega
      | counting _ _ off | concluded _ _ off => omega
    · obtain ⟨notice, listed, callback⟩ : ∃ notice ∈ s.due, notice.callback = .member barrier := by
        simpa using delivered
      obtain ⟨before, after, split⟩ := List.append_of_mem listed
      obtain ⟨remaining, found⟩ := phase.found
      have one : Notice.dueFor barrier s.due = Notice.dueFor barrier (before ++ after) + 1 := by
        rw [split, Notice.dueFor_perm List.perm_middle, Notice.dueFor_cons, callback]
        simp
      refine ⟨_, _, .count split callback found, rfl, ?_⟩
      simp only [work]
      split
      · rw [List.count_cons_self]
        omega
      · omega
  · obtain ⟨rest, listed, left⟩ : ∃ rest, (barrier, rest) ∈ s.learning ∧ rest ≠ [] := by
      simpa using told
    obtain ⟨before, after, split⟩ := List.append_of_mem listed
    obtain ⟨member, rest, rfl⟩ := List.exists_cons_of_ne_nil left
    have one : Notice.dueFor barrier (unheard s.learning : List (Notice β)) =
        Notice.dueFor barrier (unheard (before ++ (barrier, rest) :: after) : List (Notice β)) +
          1 := by
      rw [split, Notice.dueFor_perm (unheard_perm before after barrier member rest),
        Notice.dueFor_cons]
      simp [Deferreds.untold]
    obtain ⟨⟨table, fresh⟩, enrolled⟩ : ∃ result, s.table.enroll barrier member = result :=
      ⟨_, rfl⟩
    have few : Notice.dueFor barrier fresh ≤ 1 := dueFor_register_le enrolled
    refine ⟨_, _, .enroll split enrolled, rfl, ?_⟩
    simp only [work, Notice.dueFor_append]
    omega

/-- Its own steps are no completion by somebody else. -/
theorem Event.IsOwn.unaided {event : Event} (own : event.IsOwn barrier) (outcome : Outcome) :
    event ≠ .completed barrier outcome := by
  rintro rfl
  exact own

/-- Steps of its own keep the phases of a barrier. -/
theorem Phase.run (phase : Phase barrier members log s) (orderly : Orderly log s)
    (run : Run s more t) (own : ∀ event ∈ more, event.IsOwn barrier) :
    Phase barrier members (log ++ more) t ∧ Orderly (log ++ more) t := by
  induction run with
  | nil =>
    rw [List.append_nil]
    exact ⟨phase, orderly⟩
  | snoc earlier step ih =>
    obtain ⟨phase, orderly⟩ := ih fun event listed => own event (List.mem_append_left _ listed)
    have last := own _ (List.mem_append_right _ (List.mem_singleton_self _))
    rw [← List.append_assoc]
    exact ⟨(phase.step orderly step last.unaided).1, orderly.step step⟩

/-- A barrier over terminal members becomes idle by steps of its own. -/
theorem Phase.settles (phase : Phase barrier members log s) (orderly : Orderly log s)
    (done : ∀ member ∈ members, ∃ outcome, s.table.outcome? member = some outcome) :
    ∃ more t, Run s more t ∧ (∀ event ∈ more, event.IsOwn barrier) ∧ Idle barrier t := by
  induction left : work barrier s using Nat.strongRecOn generalizing s log with
  | ind left ih =>
    by_cases idle : Idle barrier s
    · exact ⟨[], s, .nil, nofun, idle⟩
    · obtain ⟨event, t, step, own, less⟩ := phase.progress orderly done idle
      obtain ⟨next, -⟩ := phase.step orderly step own.unaided
      have one : Run s ([] ++ [event]) t := Run.nil.snoc step
      obtain ⟨more, u, run, owns, idle⟩ := ih _ (left ▸ less) next (orderly.step step)
        (fun member listed => (done member listed).imp fun outcome => one.kept) rfl
      exact ⟨_, u, one.append run, List.forall_mem_cons.mpr ⟨own, owns⟩, idle⟩

/-! ## Without interruption -/

/-- Counting a member and concluding, one right after the other, is how a barrier learns that a
member is terminal. -/
theorem Run.arrive {before after : List (Notice β)} {notice : Notice β}
    (delivered : s.due = before ++ notice :: after) (callback : notice.callback = .member barrier)
    {fanIn : FanIn} (found : s.table.fanIn? barrier = some fanIn) {table : Deferreds β}
    {fresh : List (Notice β)} (arrived : s.table.arrive barrier = .ok (table, fresh)) :
    ∃ more, Run s more { s with table, due := fresh ++ (before ++ after) } ∧
      ∀ event ∈ more, event.IsOwn barrier := by
  have counts := Step.count delivered callback found
  rw [Deferreds.arrive_eq found] at arrived
  by_cases last : fanIn.remaining - 1 = 0
  · rw [if_pos last] at arrived counts
    let t : Interleaving β :=
      { s with
        table := s.table.counted barrier fanIn
        due := before ++ after
        concluding := barrier :: s.concluding }
    have first : t.concluding = [] ++ barrier :: s.concluding := rfl
    have concludes := Step.conclude first (Deferreds.fanIn?_counted_self found) arrived
    exact ⟨_, (Run.nil.snoc counts).snoc concludes, by simp [Event.IsOwn]⟩
  · rw [if_neg last] at arrived counts
    obtain ⟨rfl, rfl⟩ := Prod.mk.inj (Except.ok.inj arrived)
    exact ⟨_, Run.nil.snoc counts, by simp [Event.IsOwn]⟩

/-- Delivering a notice without interruption is a run, unless a barrier turns out to have been
completed by somebody else. -/
theorem Run.deliver (orderly : Orderly log s) {before after : List (Notice β)}
    {notice : Notice β} (delivered : s.due = before ++ notice :: after) {table : Deferreds β}
    {fresh : List (Notice β)} {effect : Deferreds.Effect β}
    (result : s.table.deliver notice = (table, fresh, effect))
    (unrefused : ∀ error, effect ≠ .refused error) :
    ∃ more, Run s more { s with table, due := fresh ++ (before ++ after) } := by
  cases callback : notice.callback with
  | member barrier =>
    have listed : notice ∈ s.due := delivered ▸ List.mem_append_right before List.mem_cons_self
    obtain ⟨fanIn, found, -⟩ :=
      orderly.wired.informs (List.mem_append_right (unheard s.learning) listed) callback
    unfold Deferreds.deliver at result
    rw [callback] at result
    cases arrived : s.table.arrive barrier with
    | ok outcome =>
      simp only [arrived] at result
      obtain ⟨rfl, same⟩ := Prod.mk.inj result
      obtain ⟨rfl, -⟩ := Prod.mk.inj same
      obtain ⟨more, run, -⟩ := Run.arrive delivered callback found arrived
      exact ⟨more, run⟩
    | error error =>
      simp only [arrived] at result
      obtain ⟨-, same⟩ := Prod.mk.inj result
      exact absurd (Prod.mk.inj same).2.symm (unrefused error)
  | flushed | client =>
    have passes := Step.pass delivered (by rw [callback]; nofun)
    unfold Deferreds.deliver at result
    rw [callback] at result
    obtain ⟨rfl, same⟩ := Prod.mk.inj result
    obtain ⟨rfl, -⟩ := Prod.mk.inj same
    exact ⟨_, Run.nil.snoc passes⟩

/-- A barrier that nobody waits for learns that a member is terminal: nothing else becomes due. -/
theorem Phase.arrive (phase : Phase barrier members log s) (orderly : Orderly log s)
    {notice : Notice β} (listed : notice ∈ s.due) (callback : notice.callback = .member barrier)
    (silent : s.table.callbacksOf barrier = []) :
    ∃ after, s.table.arrive barrier = .ok (after, []) ∧ after.callbacksOf barrier = [] := by
  obtain ⟨remaining, found⟩ := phase.found
  have quiet : (s.table.counted barrier ⟨members, remaining⟩).callbacksOf barrier = [] := by
    rw [Deferreds.callbacksOf_counted, silent]
  have pending : s.table.outcome? barrier = none := by
    have positive : 0 < Notice.dueFor barrier s.onTheWay :=
      Notice.dueFor_pos (List.mem_append_right _ listed) callback
    cases phase with
    | counting _ pending | concluding _ pending => exact pending
    | concluded has =>
      have counted : 0 = _ + Notice.dueFor barrier s.onTheWay := orderly.wired.counted has
      omega
  rw [Deferreds.arrive_eq found]
  split
  · have known : barrier < (s.table.counted barrier ⟨members, remaining⟩).size := by
      rw [Deferreds.size_counted]
      exact Deferreds.lt_size_of_fanIn found
    have still := Deferreds.outcome?_counted s.table barrier barrier ⟨members, remaining⟩
    rw [Deferreds.complete_eq known (still.trans pending), quiet]
    refine ⟨_, rfl, ?_⟩
    rw [Deferreds.callbacksOf_completed, if_pos rfl]
  · exact ⟨_, rfl, quiet⟩

/-- Telling a new barrier of its members without interruption is a run. -/
theorem Run.enrollAll {rest : List DeferredId} {others : List (DeferredId × List DeferredId)}
    (phase : Phase barrier members log s) (orderly : Orderly log s)
    (learning : s.learning = (barrier, rest) :: others) (apart : barrier ∉ rest)
    (silent : s.table.callbacksOf barrier = []) :
    ∃ more, Run s more
        { s with
          table := Deferreds.enrollAll barrier rest s.table
          learning := (barrier, []) :: others } ∧
      ∀ event ∈ more, event.IsOwn barrier := by
  induction rest generalizing s log with
  | nil =>
    refine ⟨[], ?_, nofun⟩
    rw [← learning]
    exact .nil
  | cons member rest ih =>
    obtain ⟨different, apart⟩ := List.ne_and_not_mem_of_not_mem_cons apart
    have first : s.learning = [] ++ (barrier, member :: rest) :: others := learning
    cases done : s.table.outcome? member with
    | none =>
      have tells := Step.enroll first (Deferreds.register_pending done (.member barrier))
      obtain ⟨next, -⟩ := phase.step orderly tells nofun
      obtain ⟨-, known⟩ := orderly.learner (learning ▸ List.mem_cons_self) List.mem_cons_self
      have quiet : (s.table.registered member (.member barrier)).callbacksOf barrier = [] := by
        rw [Deferreds.callbacksOf_registered known, if_neg different.symm, silent]
      obtain ⟨more, run, own⟩ := ih next (orderly.step tells) rfl apart quiet
      rw [Deferreds.enrollAll_pending barrier rest done]
      exact ⟨_, (Run.nil.snoc tells).append run, by simpa [Event.IsOwn] using own⟩
    | some outcome =>
      have tells := Step.enroll first (Deferreds.register_done done (.member barrier))
      obtain ⟨next, -⟩ := phase.step orderly tells nofun
      obtain ⟨after, arrived, quiet⟩ :=
        next.arrive (orderly.step tells) List.mem_cons_self rfl silent
      obtain ⟨remaining, found⟩ := next.found
      obtain ⟨counts, arrives, own⟩ := Run.arrive (List.nil_append _).symm rfl found arrived
      obtain ⟨next, orderly⟩ := next.run (orderly.step tells) arrives own
      obtain ⟨more, run, owns⟩ := ih next orderly rfl apart quiet
      rw [Deferreds.enrollAll_done rest done arrived]
      refine ⟨_, ((Run.nil.snoc tells).append arrives).append run, ?_⟩
      intro event listed
      rcases List.mem_append.mp listed with earlier | later
      · rcases List.mem_append.mp earlier with first | counted
        · obtain rfl := List.mem_singleton.mp first
          rfl
        · exact own event counted
      · exact owns event later

/-- Making a barrier without interruption is a run, after which nothing of it is in progress. -/
theorem Run.group (orderly : Orderly log s) {members : List DeferredId}
    (known : ∀ member ∈ members, member < s.table.size) (timeout : Option Number) :
    ∃ more t, Run s (.opened s.table.size members :: more) t ∧
      t.table = (s.table.group members timeout).2 ∧
      (∀ event ∈ more, event.IsOwn s.table.size) ∧ Idle s.table.size t := by
  have opens := Step.openGroup known timeout
  have phase := Phase.openGroup orderly members known timeout
  have apart : s.table.size ∉ members := fun listed => Nat.lt_irrefl _ (known _ listed)
  have silent : (s.table.openGroup members timeout).2.callbacksOf s.table.size = [] :=
    Deferreds.callbacksOf_add_self s.table _
  obtain ⟨more, run, own⟩ := Run.enrollAll phase (orderly.step opens) rfl apart silent
  refine ⟨more, _, (Run.nil.snoc opens).append run, rfl, own, ?_, ?_, ?_⟩
  · intro rest listed
    rcases List.mem_cons.mp listed with same | older
    · exact (Prod.mk.inj same).2
    · apply Classical.byContradiction
      intro left
      obtain ⟨member, inside⟩ := List.exists_mem_of_ne_nil rest left
      obtain ⟨⟨fanIn, found⟩, -⟩ := orderly.learner older inside
      exact Nat.lt_irrefl _ (Deferreds.lt_size_of_fanIn found)
  · intro notice listed callback
    obtain ⟨fanIn, found, -⟩ :=
      orderly.wired.informs (List.mem_append_right (unheard s.learning) listed) callback
    exact Nat.lt_irrefl _ (Deferreds.lt_size_of_fanIn found)
  · intro listed
    obtain ⟨fanIn, found⟩ := orderly.barriers _ listed
    exact Nat.lt_irrefl _ (Deferreds.lt_size_of_fanIn found)

/-! ## Fan-in -/

/-- What holds of a barrier over members that nobody else completes. -/
structure FansIn (barrier : DeferredId) (members : List DeferredId) (log : List Event)
    (s : Interleaving β) : Prop where
  /-- It is pending while a member is. -/
  pending : ∀ member ∈ members, s.table.outcome? member = none →
    s.table.outcome? barrier = none
  /-- It is completed once, and not before it is terminal. -/
  once : completions barrier log = (s.table.outcome? barrier).isSome.toNat
  /-- Its completion is never refused. -/
  unrefused : ∀ error, .refused barrier error ∉ log
  /-- When it is about to conclude, the failure of each member can be read. -/
  readable : barrier ∈ s.concluding → ∀ member ∈ members, ∃ failure,
    (s.table.get? member).map Deferred.failure = some (.ok failure)
  /-- Its outcome is the joint outcome of all its members. -/
  verdict : ∀ outcome, s.table.outcome? barrier = some outcome →
    ∃ outcomes, members.map s.table.outcome? = outcomes.map some ∧ outcome = joint outcomes
  /-- When all members are terminal and nothing of it is in progress, it is terminal. -/
  complete : ∀ outcomes, members.map s.table.outcome? = outcomes.map some → Idle barrier s →
    s.table.outcome? barrier = some (joint outcomes)
  /-- When all members are terminal, it becomes terminal without anybody else. -/
  settles : ∀ outcomes, members.map s.table.outcome? = outcomes.map some →
    ∃ more t, Run s more t ∧ (∀ event ∈ more, event.IsOwn barrier) ∧
      t.table.outcome? barrier = some (joint outcomes)

/-- The failure of a terminal deferred result can be read. -/
theorem failure_of_done {table : Deferreds β} {id : DeferredId} {outcome : Outcome}
    (done : table.outcome? id = some outcome) :
    ∃ failure, (table.get? id).map Deferred.failure = some (.ok failure) := by
  obtain ⟨deferred, found, has⟩ := Option.bind_eq_some_iff.mp done
  refine ⟨deferred.error?, ?_⟩
  rw [found]
  simp [Deferred.failure, Deferred.isDone, has]

/-- What the phases of a barrier say. -/
theorem Phase.fansIn (phase : Phase barrier members log s) (orderly : Orderly log s)
    (unrefused : ∀ error, .refused barrier error ∉ log) : FansIn barrier members log s := by
  have settled (counted : s.table.fanIn? barrier = some ⟨members, 0⟩) (member : DeferredId)
      (listed : member ∈ members) : ∃ outcome, s.table.outcome? member = some outcome :=
    orderly.wired.members_done counted rfl listed
  refine ⟨?_, ?_, unrefused, ?_, ?_, fun outcomes told idle =>
    phase.outcome_of_idle orderly told idle, ?_⟩
  · intro member listed pending
    cases phase with
    | counting _ still | concluding _ still => exact still
    | concluded found =>
      obtain ⟨outcome, done⟩ := settled found member listed
      rw [pending] at done
      cases done
  · cases phase with
    | counting _ pending _ never | concluding _ pending _ never =>
      rw [pending, never]
      rfl
    | concluded _ done _ once =>
      rw [done, once]
      rfl
  · intro about member listed
    cases phase with
    | concluding found =>
      obtain ⟨outcome, done⟩ := settled found member listed
      exact failure_of_done done
    | counting _ _ off | concluded _ _ off => exact absurd about (List.count_eq_zero.mp off)
  · intro outcome done
    cases phase with
    | counting _ pending | concluding _ pending =>
      rw [pending] at done
      cases done
    | concluded found has =>
      obtain ⟨outcomes, told⟩ := exists_outcomes (settled found)
      refine ⟨outcomes, told, ?_⟩
      rw [← verdict_eq_joint told]
      exact Option.some.inj (done.symm.trans has)
  · intro outcomes told
    obtain ⟨more, t, run, own, idle⟩ :=
      phase.settles orderly fun member => done_of_outcomes told
    obtain ⟨next, orderly⟩ := phase.run orderly run own
    exact ⟨more, t, run, own, next.outcome_of_idle orderly (run.outcomes told) idle⟩

/-- Of every run in which deferred results are made and completed, callbacks are registered and
barriers are told of their members, count them and conclude, in any order: a barrier that nobody
else completes waits for all its members, is completed once, and has the joint outcome of its
members in their order; in two runs in which the members have the same outcomes it has the same.
Making a barrier over known members, without interruption, is such a run, and completes it if they
are all terminal; so is delivering a notice, unless that barrier was completed by somebody else. -/
theorem fan_in_exact (run : Run Interleaving.start log s) :
    (∀ barrier members, .opened barrier members ∈ log →
      (∀ outcome, .completed barrier outcome ∉ log) →
      FansIn barrier members log s ∧
      ∀ other s' barrier' members', Run (Interleaving.start : Interleaving β) other s' →
        .opened barrier' members' ∈ other → (∀ outcome, .completed barrier' outcome ∉ other) →
        members'.map s'.table.outcome? = members.map s.table.outcome? →
        ∀ one two, s.table.outcome? barrier = some one → s'.table.outcome? barrier' = some two →
          one = two) ∧
    (∀ members timeout, (∀ member ∈ members, member < s.table.size) →
      (∃ more t, Run s (.opened s.table.size members :: more) t ∧
        t.table = (s.table.group members timeout).2 ∧
        (∀ event ∈ more, event.IsOwn s.table.size) ∧ Idle s.table.size t) ∧
      ∀ outcomes, members.map s.table.outcome? = outcomes.map some →
        (s.table.group members timeout).2.outcome? s.table.size = some (joint outcomes)) ∧
    ∀ before notice after, s.due = before ++ notice :: after →
      ∀ table fresh effect, s.table.deliver notice = (table, fresh, effect) →
        (∀ error, effect ≠ .refused error) →
        ∃ more, Run s more { s with table, due := fresh ++ (before ++ after) } := by
  have orderly := Orderly.of_run run
  refine ⟨?_, ?_, fun before notice after delivered table fresh effect result =>
    Run.deliver orderly delivered result⟩
  · intro barrier members opened unaided
    obtain ⟨phase, unrefused⟩ := run.phase opened unaided
    have exact_ := phase.fansIn orderly unrefused
    refine ⟨exact_, ?_⟩
    intro other s' barrier' members' run' opened' unaided' same one two done done'
    obtain ⟨phase', unrefused'⟩ := run'.phase opened' unaided'
    obtain ⟨outcomes, told, rfl⟩ := exact_.verdict one done
    obtain ⟨outcomes', told', rfl⟩ :=
      (phase'.fansIn (.of_run run') unrefused').verdict two done'
    have equal : outcomes'.map some = outcomes.map some := told'.symm.trans (same.trans told)
    rw [(List.map_inj_right fun _ _ => Option.some.inj).mp equal]
  · intro members timeout known
    obtain ⟨more, t, grouped, table, own, idle⟩ := Run.group orderly known timeout
    refine ⟨⟨more, t, grouped, table, own, idle⟩, ?_⟩
    intro outcomes told
    have longer := run.append grouped
    have opened : Event.opened s.table.size members ∈ log ++ .opened s.table.size members :: more :=
      List.mem_append_right _ List.mem_cons_self
    obtain ⟨phase, -⟩ := longer.phase opened <| by
      intro outcome listed
      rcases List.mem_append.mp listed with before | here
      · exact Nat.lt_irrefl _ (orderly.seen _ before)
      · rcases List.mem_cons.mp here with same | later
        · cases same
        · exact (own _ later).unaided outcome rfl
    rw [← table]
    exact phase.outcome_of_idle (.of_run longer) (grouped.outcomes told) idle

/-- A barrier over one member twice and another that has failed before: it is told of the second
occurrence after that member failed too, and its errors stand in the order of the members. -/
theorem fan_in_exact_repeated :
    let early : Error := .stillPending
    let late : Error := .doubleCompletion .resolved "fail"
    let log : List Event := [.made 0, .made 1, .completed 0 (.error early), .opened 2 [1, 0, 1],
      .told 2 1, .completed 1 (.error late), .told 2 0, .counted 2 0, .told 2 1, .counted 2 1,
      .counted 2 1, .concluded 2 (.error (.flushFailed [late, early, late]))]
    ∃ s : Interleaving Nat, Run .start log s ∧ FansIn 2 [1, 0, 1] log s ∧
      (s.table.group [0, 1] none).2.outcome? 3 = some (.error (.flushFailed [early, late])) := by
  intro early late log
  let failed (error : Error) : Deferred Nat := ⟨some (.error error), [], none, none⟩
  let barrier (remaining : Nat) (outcome : Option Outcome) : Deferred Nat :=
    ⟨outcome, [], none, some ⟨[1, 0, 1], remaining⟩⟩
  let due (member : DeferredId) (error : Error) : Notice Nat := ⟨member, .member 2, .error error⟩
  let opened : Interleaving Nat :=
    ⟨⟨[failed early, ⟨none, [], none, none⟩, barrier 3 none]⟩, [], [(2, [1, 0, 1])], []⟩
  let waiting : Interleaving Nat :=
    ⟨⟨[failed early, ⟨none, [.member 2], none, none⟩, barrier 3 none]⟩, [], [(2, [0, 1])], []⟩
  let completed : Interleaving Nat :=
    ⟨⟨[failed early, failed late, barrier 3 none]⟩, [due 1 late], [(2, [0, 1])], []⟩
  let told : Interleaving Nat :=
    ⟨⟨[failed early, failed late, barrier 2 none]⟩, [due 1 late, due 1 late], [(2, [])], []⟩
  let counted : Interleaving Nat :=
    ⟨⟨[failed early, failed late, barrier 0 none]⟩, [], [(2, [])], [2]⟩
  let concluded : Interleaving Nat :=
    ⟨⟨[failed early, failed late, barrier 0 (some (.error (.flushFailed [late, early, late])))]⟩,
      [], [(2, [])], []⟩
  have opens : Run .start _ opened := Run.nil
    |>.snoc (.make none) |>.snoc (.make none)
    |>.snoc (@Step.complete Nat _ 0 (by decide) (.error early) _ _ rfl)
    |>.snoc (@Step.openGroup Nat _ [1, 0, 1] (by decide) none)
  have waits : Run opened [.told 2 1] waiting := Run.nil
    |>.snoc (@Step.enroll Nat opened [] [] 2 1 [0, 1] rfl _ _ rfl)
  have completes : Run waiting [.completed 1 (.error late)] completed := Run.nil
    |>.snoc (@Step.complete Nat waiting 1 (by decide) (.error late) _ _ rfl)
  have tells : Run completed _ told := Run.nil
    |>.snoc (@Step.enroll Nat _ [] [] 2 0 [1] rfl _ _ rfl)
    |>.snoc (@Step.count Nat _ [] [due 1 late] (due 0 early) rfl 2 rfl _ rfl)
    |>.snoc (@Step.enroll Nat _ [] [] 2 1 [] rfl _ _ rfl)
  have counts : Run told _ counted := Run.nil
    |>.snoc (@Step.count Nat told [due 1 late] [] (due 1 late) rfl 2 rfl _ rfl)
    |>.snoc (@Step.count Nat _ [] [] (due 1 late) rfl 2 rfl ⟨[1, 0, 1], 1⟩ rfl)
  have concludes : Run counted _ concluded := Run.nil
    |>.snoc (@Step.conclude Nat counted [] [] 2 rfl ⟨[1, 0, 1], 0⟩ rfl _ _ rfl)
  have run : Run .start log concluded :=
    ((((opens.append waits).append completes).append tells).append counts).append concludes
  obtain ⟨barriers, groups, -⟩ := fan_in_exact run
  refine ⟨_, run, (barriers 2 [1, 0, 1] ?_ ?_).1, (groups [0, 1] none ?_).2 [_, _] rfl⟩
  · simp [log]
  · simp [log]
  · decide

end WideColumn.Interleaving
