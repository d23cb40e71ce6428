import WideColumn.Proofs.Deferred.Group

/-!
# Barriers while others work with their members

Telling a new barrier of its members takes many steps, and so does counting: a notice about a
terminal member is delivered some time after it became due, and whoever counted the last member
concludes the barrier in a step of its own. Meanwhile anybody may complete the members, register
callbacks for them and make further barriers over them, so these steps come in any order. A barrier
passes through three phases in every such run: it counts, it is about to conclude, it has concluded.
-/
namespace WideColumn

/-- The table of deferred results with everything about barriers that is in progress. -/
structure Interleaving (β : Type) where
  /-- The table. -/
  table : Deferreds β
  /-- Notices that are due, in no particular order. -/
  due : List (Notice β)
  /-- New barriers with the members that they have yet to be told of. -/
  learning : List (DeferredId × List DeferredId)
  /-- Barriers whose last member was counted and that have yet to be completed. -/
  concluding : List DeferredId

namespace Interleaving

variable {β : Type}

/-- What is seen of a step. -/
inductive Event where
  /-- A deferred result is made. -/
  | made (id : DeferredId)
  /-- A barrier over members is made. Without members it is complete. -/
  | opened (barrier : DeferredId) (members : List DeferredId)
  /-- A barrier is told of a member. -/
  | told (barrier member : DeferredId)
  /-- Somebody registers a callback. -/
  | registered (id : DeferredId)
  /-- Somebody completes a deferred result. -/
  | completed (id : DeferredId) (outcome : Outcome)
  /-- A barrier counts a member. -/
  | counted (barrier member : DeferredId)
  /-- A notice that is no barrier's is delivered. -/
  | passed (id : DeferredId)
  /-- A barrier that counted its last member is completed. -/
  | concluded (barrier : DeferredId) (outcome : Outcome)
  /-- A barrier that counted its last member was completed by somebody else. -/
  | refused (barrier : DeferredId) (error : Error)

namespace Event

/-- Which deferred result a step is about. -/
def subject : Event → DeferredId
  | made id | opened id _ | told id _ | registered id | completed id _ | counted id _ | passed id
  | concluded id _ | refused id _ => id

/-- Whether a step completes a deferred result. -/
def completes (id : DeferredId) : Event → Bool
  | completed other _ | concluded other _ => other == id
  | opened other members => other == id && members.isEmpty
  | _ => false

/-- A barrier is told of a member, counts one or concludes. -/
def IsOwn (barrier : DeferredId) : Event → Prop
  | told other _ | counted other _ | concluded other _ => other = barrier
  | _ => False

/-- What a step is about, if it completes something. -/
theorem subject_of_completes {id : DeferredId} {event : Event}
    (completes : event.completes id = true) : event.subject = id := by
  cases event with
  | completed | concluded => exact beq_iff_eq.mp completes
  | opened => exact beq_iff_eq.mp (Bool.and_eq_true_iff.mp completes).1
  | made | told | registered | counted | passed | refused => cases completes

end Event

/-- Before anything happens. -/
def start : Interleaving β := ⟨.empty, [], [], []⟩

/-- The steps that may be taken, in any order. -/
inductive Step : Interleaving β → Event → Interleaving β → Prop where
  /-- A pending deferred result is made. -/
  | make {s : Interleaving β} (timeout : Option Number) :
    Step s (.made s.table.size) { s with table := (s.table.create timeout).2 }
  /-- A barrier over known members is made. -/
  | openGroup {s : Interleaving β} {members : List DeferredId}
    (known : ∀ member ∈ members, member < s.table.size) (timeout : Option Number) :
    Step s (.opened s.table.size members)
      { s with
        table := (s.table.openGroup members timeout).2
        learning := (s.table.size, members) :: s.learning }
  /-- A new barrier is told of its next member. -/
  | enroll {s : Interleaving β} {before after : List (DeferredId × List DeferredId)}
    {barrier member : DeferredId} {rest : List DeferredId}
    (next : s.learning = before ++ (barrier, member :: rest) :: after)
    {table : Deferreds β} {fresh : List (Notice β)}
    (enrolled : s.table.enroll barrier member = (table, fresh)) :
    Step s (.told barrier member)
      { s with table, due := fresh ++ s.due, learning := before ++ (barrier, rest) :: after }
  /-- Somebody registers a callback for a known deferred result. -/
  | register {s : Interleaving β} {id : DeferredId} (known : id < s.table.size)
    {callback : Callback β} (foreign : ∀ barrier, callback ≠ .member barrier)
    {table : Deferreds β} {fresh : List (Notice β)}
    (made : s.table.register id callback = (table, fresh)) :
    Step s (.registered id) { s with table, due := fresh ++ s.due }
  /-- Somebody completes a known deferred result. -/
  | complete {s : Interleaving β} {id : DeferredId} (known : id < s.table.size)
    {outcome : Outcome} {table : Deferreds β} {fresh : List (Notice β)}
    (done : s.table.complete id outcome = .ok (table, fresh)) :
    Step s (.completed id outcome) { s with table, due := fresh ++ s.due }
  /-- A notice about a member is delivered, and the barrier counts it. -/
  | count {s : Interleaving β} {before after : List (Notice β)} {notice : Notice β}
    (delivered : s.due = before ++ notice :: after) {barrier : DeferredId}
    (callback : notice.callback = .member barrier) {fanIn : FanIn}
    (found : s.table.fanIn? barrier = some fanIn) :
    Step s (.counted barrier notice.subject)
      { s with
        table := s.table.counted barrier fanIn
        due := before ++ after
        concluding :=
          if fanIn.remaining - 1 = 0 then barrier :: s.concluding else s.concluding }
  /-- Another notice is delivered. What its callback does to the table are further steps. -/
  | pass {s : Interleaving β} {before after : List (Notice β)} {notice : Notice β}
    (delivered : s.due = before ++ notice :: after)
    (foreign : ∀ barrier, notice.callback ≠ .member barrier) :
    Step s (.passed notice.subject) { s with due := before ++ after }
  /-- A barrier is completed with the verdict over its members. -/
  | conclude {s : Interleaving β} {before after : List DeferredId} {barrier : DeferredId}
    (last : s.concluding = before ++ barrier :: after) {fanIn : FanIn}
    (found : s.table.fanIn? barrier = some fanIn) {table : Deferreds β} {fresh : List (Notice β)}
    (done : s.table.complete barrier (s.table.verdict fanIn.members) = .ok (table, fresh)) :
    Step s (.concluded barrier (s.table.verdict fanIn.members))
      { s with table, due := fresh ++ s.due, concluding := before ++ after }
  /-- A barrier turns out to have been completed by somebody else. -/
  | refuse {s : Interleaving β} {before after : List DeferredId} {barrier : DeferredId}
    (last : s.concluding = before ++ barrier :: after) {fanIn : FanIn}
    (found : s.table.fanIn? barrier = some fanIn) {error : Error}
    (late : s.table.complete barrier (s.table.verdict fanIn.members) = .error error) :
    Step s (.refused barrier error) { s with concluding := before ++ after }

/-- Steps one after another, with what is seen of them. -/
inductive Run (s : Interleaving β) : List Event → Interleaving β → Prop where
  /-- No step. -/
  | nil : Run s [] s
  /-- A step more. -/
  | snoc {log : List Event} {t u : Interleaving β} {event : Event} (earlier : Run s log t)
    (step : Step t event u) : Run s (log ++ [event]) u

variable {s t u : Interleaving β} {log more : List Event} {event : Event} {barrier : DeferredId}
  {members : List DeferredId}

/-- Steps after steps. -/
theorem Run.append (run : Run s log t) (longer : Run t more u) : Run s (log ++ more) u := by
  induction longer with
  | nil => rwa [List.append_nil]
  | snoc earlier step ih =>
    rw [← List.append_assoc]
    exact ih.snoc step

/-! ## Everything that is on its way to a barrier -/

/-- A notice for each member that a new barrier has not been told of. -/
def unheard (learning : List (DeferredId × List DeferredId)) : List (Notice β) :=
  learning.flatMap fun group => group.2.map (Deferreds.untold group.1)

/-- Notices that are due and those that stand for members not told of. -/
def onTheWay (s : Interleaving β) : List (Notice β) := unheard s.learning ++ s.due

/-- The next member that a barrier is told of is one of those not told of. -/
theorem unheard_perm (before after : List (DeferredId × List DeferredId))
    (barrier member : DeferredId) (rest : List DeferredId) :
    (unheard (before ++ (barrier, member :: rest) :: after) : List (Notice β)).Perm
      (Deferreds.untold barrier member :: unheard (before ++ (barrier, rest) :: after)) := by
  unfold unheard
  simp only [List.flatMap_append, List.flatMap_cons, List.map_cons, List.cons_append]
  exact List.perm_middle

/-- One notice of those on the way, and the others. -/
theorem onTheWay_perm {before after : List (Notice β)} {notice : Notice β}
    (delivered : s.due = before ++ notice :: after) :
    s.onTheWay.Perm (notice :: { s with due := before ++ after }.onTheWay) := by
  unfold onTheWay
  rw [delivered]
  exact (List.Perm.append_left _ List.perm_middle).trans List.perm_middle

/-- What stands around something stands in the whole. -/
theorem mem_middle {α : Type} {one other : α} {before after : List α}
    (listed : other ∈ before ++ after) : other ∈ before ++ one :: after :=
  List.perm_middle.mem_iff.mpr (List.mem_cons_of_mem one listed)

/-- A callback that is no barrier's counts for none. -/
theorem countsFor_foreign {callback : Callback β} (foreign : ∀ other, callback ≠ .member other)
    (barrier : DeferredId) : callback.countsFor barrier = false := by
  apply Bool.eq_false_iff.mpr
  intro counts
  exact foreign barrier (Callback.eq_member counts)

/-- In a step nothing that was known changes, but for one outcome at most. -/
theorem Step.evolves (step : Step s event t) :
    ∃ completes, Deferreds.Evolves completes s.table t.table := by
  cases step with
  | make timeout => exact ⟨none, s.table.evolves_add _⟩
  | openGroup known timeout => exact ⟨none, s.table.evolves_add _⟩
  | @enroll before after barrier member rest next table fresh enrolled =>
    have evolves := s.table.evolves_register member (.member barrier)
    rw [show s.table.register member (.member barrier) = (table, fresh) from enrolled] at evolves
    exact ⟨none, evolves⟩
  | @register id known callback foreign table fresh made =>
    have evolves := s.table.evolves_register id callback
    rw [made] at evolves
    exact ⟨none, evolves⟩
  | complete known done =>
    obtain ⟨pending, rfl, -⟩ := Deferreds.of_complete_ok known done
    exact ⟨_, s.table.evolves_completed pending _⟩
  | count delivered callback found => exact ⟨none, Deferreds.evolves_counted found⟩
  | pass delivered foreign => exact ⟨none, .refl none s.table⟩
  | conclude last found done =>
    obtain ⟨pending, rfl, -⟩ := Deferreds.of_complete_ok (Deferreds.lt_size_of_fanIn found) done
    exact ⟨_, s.table.evolves_completed pending _⟩
  | refuse last found late => exact ⟨none, .refl none s.table⟩

/-- Outcomes are for good. -/
theorem Run.kept (run : Run s log t) {id : DeferredId} {outcome : Outcome}
    (done : s.table.outcome? id = some outcome) : t.table.outcome? id = some outcome := by
  induction run with
  | nil => exact done
  | snoc earlier step ih =>
    obtain ⟨completes, evolves⟩ := step.evolves
    exact evolves.outcome ih

/-- What every state of a run has. -/
structure Orderly (log : List Event) (s : Interleaving β) : Prop where
  /-- Callbacks of barriers are where they belong and are counted. -/
  wired : s.table.Wired s.onTheWay
  /-- Due notices are about what is terminal. -/
  truthful : s.table.Truthful s.due
  /-- Only barriers conclude. -/
  barriers : ∀ barrier ∈ s.concluding, ∃ fanIn, s.table.fanIn? barrier = some fanIn
  /-- Steps so far are about what has been made. -/
  seen : ∀ event ∈ log, event.subject < s.table.size

namespace Orderly

/-- Nothing happened. -/
theorem start : Orderly [] (start : Interleaving β) :=
  ⟨.empty, nofun, nofun, nofun⟩

/-- What steps have in common: the table grows, and the step is about what has been made. -/
theorem next (orderly : Orderly log s) {completes : Option DeferredId}
    (evolves : Deferreds.Evolves completes s.table t.table) (wired : t.table.Wired t.onTheWay)
    (truthful : t.table.Truthful t.due) (concluding : ∀ barrier ∈ t.concluding,
      barrier ∈ s.concluding ∨ ∃ fanIn, t.table.fanIn? barrier = some fanIn)
    (subject : event.subject < t.table.size) : Orderly (log ++ [event]) t := by
  refine ⟨wired, truthful, ?_, ?_⟩
  · intro barrier listed
    rcases concluding barrier listed with older | found
    · obtain ⟨fanIn, found⟩ := orderly.barriers barrier older
      have kept := evolves.members (Deferreds.lt_size_of_fanIn found)
      have same : s.table.members? barrier = some fanIn.members := by
        unfold Deferreds.members?
        rw [found]
        rfl
      obtain ⟨after, known, -⟩ := Option.map_eq_some_iff.mp (kept.trans same)
      exact ⟨after, known⟩
    · exact found
  · intro other listed
    rcases List.mem_append.mp listed with older | here
    · exact Nat.lt_of_lt_of_le (orderly.seen other older) evolves.size_le
    · obtain rfl := List.mem_singleton.mp here
      exact subject

/-- A completion moves callbacks to the notices that are due. -/
theorem completed (orderly : Orderly log s) {id : DeferredId} (known : id < s.table.size)
    (pending : s.table.outcome? id = none) (outcome : Outcome) :
    let due := Deferreds.notices id outcome (s.table.callbacksOf id) ++ s.due
    (s.table.completed id outcome).Wired (unheard s.learning ++ due) ∧
      (s.table.completed id outcome).Truthful due := by
  refine ⟨?_, Deferreds.truthful_append.mpr ⟨?_, ?_⟩⟩
  · refine (orderly.wired.completed known outcome).perm ?_
    unfold onTheWay
    exact List.perm_append_comm_assoc _ _ _
  · exact Deferreds.truthful_notices (Deferreds.outcome?_completed_self known outcome) _
  · exact orderly.truthful.evolves (s.table.evolves_completed pending outcome)

/-- A registration either waits or makes a notice due. -/
theorem registered {table after : Deferreds β} {id : DeferredId} {callback : Callback β}
    {fresh others : List (Notice β)} (known : id < table.size)
    (made : table.register id callback = (after, fresh))
    (wired : table.Wired (⟨id, callback, .ok .nothing⟩ :: others)) :
    after.Wired (fresh ++ others) ∧ after.Truthful fresh := by
  cases done : table.outcome? id with
  | none =>
    rw [Deferreds.register_pending done] at made
    obtain ⟨rfl, rfl⟩ := Prod.mk.inj made
    exact ⟨wired.registered known done, nofun⟩
  | some outcome =>
    rw [Deferreds.register_done done] at made
    obtain ⟨rfl, rfl⟩ := Prod.mk.inj made
    refine ⟨wired.retold outcome, ?_⟩
    intro notice listed
    obtain rfl := List.mem_singleton.mp listed
    exact done

/-- Of the notices that are due, one is delivered. -/
theorem delivered (orderly : Orderly log s) {before after : List (Notice β)} {notice : Notice β}
    (delivered : s.due = before ++ notice :: after) :
    (∃ outcome, s.table.outcome? notice.subject = some outcome) ∧
      s.table.Truthful (before ++ after) := by
  have truthful := orderly.truthful
  rw [delivered] at truthful
  have first := truthful.perm List.perm_middle
  exact ⟨⟨_, first notice List.mem_cons_self⟩, fun other listed =>
    first other (List.mem_cons_of_mem notice listed)⟩

/-- What a delivered notice about a member was good for is used up. -/
theorem counted (orderly : Orderly log s) {before after : List (Notice β)} {notice : Notice β}
    (delivered : s.due = before ++ notice :: after) {barrier : DeferredId}
    (callback : notice.callback = .member barrier) {fanIn : FanIn}
    (found : s.table.fanIn? barrier = some fanIn) :
    (s.table.counted barrier fanIn).Wired { s with due := before ++ after }.onTheWay ∧
      (s.table.counted barrier fanIn).Truthful (before ++ after) := by
  obtain ⟨terminal, others⟩ := orderly.delivered delivered
  exact ⟨(orderly.wired.perm (onTheWay_perm delivered)).arrived callback found terminal,
    others.evolves (Deferreds.evolves_counted found)⟩

/-- A new barrier is told of known members. -/
theorem learner (orderly : Orderly log s) {rest : List DeferredId}
    (listed : (barrier, rest) ∈ s.learning) {member : DeferredId} (inside : member ∈ rest) :
    (∃ fanIn, s.table.fanIn? barrier = some fanIn) ∧ member < s.table.size := by
  have waits : Deferreds.untold barrier member ∈ s.onTheWay :=
    List.mem_append_left _ (List.mem_flatMap.mpr ⟨_, listed, List.mem_map_of_mem inside⟩)
  obtain ⟨fanIn, found, among⟩ := orderly.wired.informs waits rfl
  exact ⟨⟨fanIn, found⟩, orderly.wired.known found member among⟩

/-- Every step keeps the order. -/
theorem step (orderly : Orderly log s) (step : Step s event t) : Orderly (log ++ [event]) t := by
  obtain ⟨completes, evolves⟩ := step.evolves
  have grown := evolves.size_le
  have older : t.table.Truthful s.due := orderly.truthful.evolves evolves
  cases step with
  | make timeout =>
    refine orderly.next evolves (orderly.wired.add_plain rfl rfl) older (fun _ => .inl) ?_
    exact Nat.lt_of_lt_of_eq (Nat.lt_succ_self _) (Deferreds.size_add _ _).symm
  | @openGroup members known timeout =>
    refine orderly.next evolves ?_ older (fun _ => .inl) ?_
    · have wired := orderly.wired.openGroup known timeout
      unfold onTheWay unheard at wired ⊢
      rwa [List.flatMap_cons, List.append_assoc]
    · exact Nat.lt_of_lt_of_eq (Nat.lt_succ_self _) (Deferreds.size_openGroup ..).symm
  | @enroll before after barrier member rest next table fresh enrolled =>
    have listed : (barrier, member :: rest) ∈ s.learning :=
      next ▸ List.mem_append_right before List.mem_cons_self
    obtain ⟨⟨fanIn, found⟩, known⟩ := orderly.learner listed List.mem_cons_self
    have wired : s.table.Wired (Deferreds.untold barrier member ::
        (unheard (before ++ (barrier, rest) :: after) ++ s.due)) := by
      refine orderly.wired.perm ?_
      unfold onTheWay
      rw [next]
      exact (unheard_perm before after barrier member rest).append_right s.due
    obtain ⟨wired, truthful⟩ := registered known enrolled wired
    refine orderly.next evolves ?_ ?_ (fun _ => .inl) ?_
    · exact wired.perm (List.perm_append_comm_assoc ..)
    · exact Deferreds.truthful_append.mpr ⟨truthful, older⟩
    · exact Nat.lt_of_lt_of_le (Deferreds.lt_size_of_fanIn found) grown
  | @register id known callback foreign table fresh made =>
    obtain ⟨wired, truthful⟩ := registered known made
      ((Deferreds.Wired.cons_foreign (countsFor_foreign foreign)).mpr orderly.wired)
    refine orderly.next evolves ?_ ?_ (fun _ => .inl) (Nat.lt_of_lt_of_le known grown)
    · exact wired.perm (List.perm_append_comm_assoc ..)
    · exact Deferreds.truthful_append.mpr ⟨truthful, older⟩
  | @complete id known outcome table fresh done =>
    obtain ⟨pending, rfl, rfl⟩ := Deferreds.of_complete_ok known done
    obtain ⟨wired, truthful⟩ := orderly.completed known pending outcome
    exact orderly.next evolves wired truthful (fun _ => .inl) (Nat.lt_of_lt_of_le known grown)
  | @count before after notice delivered barrier callback fanIn found =>
    obtain ⟨wired, truthful⟩ := orderly.counted delivered callback found
    refine orderly.next evolves wired truthful ?_
      (Nat.lt_of_lt_of_le (Deferreds.lt_size_of_fanIn found) grown)
    intro other listed
    change other ∈ if fanIn.remaining - 1 = 0 then barrier :: s.concluding else s.concluding
      at listed
    split at listed
    · rcases List.mem_cons.mp listed with rfl | before
      · exact .inr ⟨_, Deferreds.fanIn?_counted_self found⟩
      · exact .inl before
    · exact .inl listed
  | @pass before after notice delivered foreign =>
    obtain ⟨⟨outcome, done⟩, others⟩ := orderly.delivered delivered
    refine orderly.next evolves ?_ others (fun _ => .inl) (Deferreds.lt_size_of_outcome done)
    exact (Deferreds.Wired.cons_foreign (countsFor_foreign foreign)).mp
      (orderly.wired.perm (onTheWay_perm delivered))
  | @conclude before after barrier last fanIn found table fresh done =>
    have known := Deferreds.lt_size_of_fanIn found
    obtain ⟨pending, rfl, rfl⟩ := Deferreds.of_complete_ok known done
    obtain ⟨wired, truthful⟩ := orderly.completed known pending (s.table.verdict fanIn.members)
    refine orderly.next evolves wired truthful ?_ (Nat.lt_of_lt_of_le known grown)
    exact fun other listed => .inl (last ▸ mem_middle listed)
  | @refuse before after barrier last fanIn found error late =>
    refine orderly.next evolves orderly.wired older ?_ (Deferreds.lt_size_of_fanIn found)
    exact fun other listed => .inl (last ▸ mem_middle listed)

/-- Every state of a run is in order. -/
theorem of_run (run : Run Interleaving.start log s) : Orderly log s := by
  induction run with
  | nil => exact .start
  | snoc earlier step ih => exact ih.step step

end Orderly
/-! ## The phases of a barrier -/

/-- How often something was completed. -/
def completions (id : DeferredId) (log : List Event) : Nat := log.countP (Event.completes id)

/-- What a longer log says. -/
theorem completions_concat (id : DeferredId) (log : List Event) (event : Event) :
    completions id (log ++ [event]) =
      completions id log + if event.completes id then 1 else 0 := by
  unfold completions
  rw [List.countP_append, List.countP_singleton]

/-- Where a barrier stands that nobody else completes. -/
inductive Phase (barrier : DeferredId) (members : List DeferredId) (log : List Event)
    (s : Interleaving β) : Prop where
  /-- It has members left to count. -/
  | counting {others : Nat} (found : s.table.fanIn? barrier = some ⟨members, others + 1⟩)
    (pending : s.table.outcome? barrier = none) (off : s.concluding.count barrier = 0)
    (never : completions barrier log = 0)
  /-- It has counted all its members and has yet to be completed. -/
  | concluding (found : s.table.fanIn? barrier = some ⟨members, 0⟩)
    (pending : s.table.outcome? barrier = none) (on : s.concluding.count barrier = 1)
    (never : completions barrier log = 0)
  /-- It has the verdict over its members. -/
  | concluded (found : s.table.fanIn? barrier = some ⟨members, 0⟩)
    (done : s.table.outcome? barrier = some (s.table.verdict members))
    (off : s.concluding.count barrier = 0) (once : completions barrier log = 1)

namespace Phase

/-- A barrier has its members in every phase. -/
theorem found (phase : Phase barrier members log s) :
    ∃ remaining, s.table.fanIn? barrier = some ⟨members, remaining⟩ := by
  cases phase with
  | counting found => exact ⟨_, found⟩
  | concluding found => exact ⟨_, found⟩
  | concluded found => exact ⟨_, found⟩

/-- A verdict over terminal members stays. -/
theorem verdict_eq (wired : s.table.Wired s.onTheWay)
    (counted : s.table.fanIn? barrier = some ⟨members, 0⟩) {completes : Option DeferredId}
    (evolves : Deferreds.Evolves completes s.table t.table) :
    t.table.verdict members = s.table.verdict members := by
  apply Deferreds.verdict_congr
  intro member listed
  obtain ⟨outcome, done⟩ := wired.members_done counted rfl listed
  rw [done, evolves.outcome done]

/-- A step that is not about a barrier leaves its phase as it is. -/
theorem frame (phase : Phase barrier members log s) (event : Event)
    (wired : s.table.Wired s.onTheWay)
    {completes : Option DeferredId} (evolves : Deferreds.Evolves completes s.table t.table)
    (found : t.table.fanIn? barrier = s.table.fanIn? barrier)
    (outcome : t.table.outcome? barrier = s.table.outcome? barrier)
    (concluding : t.concluding.count barrier = s.concluding.count barrier)
    (uncompleted : event.completes barrier = false) : Phase barrier members (log ++ [event]) t := by
  have completions : completions barrier (log ++ [event]) = completions barrier log := by
    rw [completions_concat, uncompleted]
    rfl
  cases phase with
  | counting has pending off never =>
    exact .counting (found.trans has) (outcome.trans pending) (concluding.trans off)
      (completions.trans never)
  | concluding has pending on never =>
    exact .concluding (found.trans has) (outcome.trans pending) (concluding.trans on)
      (completions.trans never)
  | concluded has done off once =>
    refine .concluded (found.trans has) ?_ (concluding.trans off) (completions.trans once)
    rw [outcome, done, verdict_eq wired has evolves]

/-- A new barrier. -/
theorem openGroup (orderly : Orderly log s) (members : List DeferredId)
    (known : ∀ member ∈ members, member < s.table.size) (timeout : Option Number) :
    Phase s.table.size members (log ++ [.opened s.table.size members])
      { s with
        table := (s.table.openGroup members timeout).2
        learning := (s.table.size, members) :: s.learning } := by
  have off : s.concluding.count s.table.size = 0 := by
    apply List.count_eq_zero.mpr
    intro listed
    obtain ⟨fanIn, found⟩ := orderly.barriers _ listed
    exact Nat.lt_irrefl _ (Deferreds.lt_size_of_fanIn found)
  have never : completions s.table.size log = 0 := by
    apply List.countP_eq_zero.mpr
    intro event listed completes
    exact Nat.ne_of_lt (orderly.seen event listed) (Event.subject_of_completes completes)
  have counted := completions_concat s.table.size log (.opened s.table.size members)
  cases members with
  | nil =>
    refine .concluded (Deferreds.fanIn?_add_self s.table _) ?_ off ?_
    · exact Deferreds.outcome?_add_self s.table _
    · rw [counted, never]
      simp [Event.completes]
  | cons first rest =>
    refine .counting (Deferreds.fanIn?_add_self s.table _) ?_ off ?_
    · exact Deferreds.outcome?_add_self s.table _
    · rw [counted, never]
      simp [Event.completes]

/-- The barrier counts a member. -/
theorem count (phase : Phase barrier members log s) (orderly : Orderly log s)
    {before after : List (Notice β)} {notice : Notice β}
    (delivered : s.due = before ++ notice :: after) (callback : notice.callback = .member barrier)
    {fanIn : FanIn} (found : s.table.fanIn? barrier = some fanIn) :
    Phase barrier members (log ++ [.counted barrier notice.subject])
      { s with
        table := s.table.counted barrier fanIn
        due := before ++ after
        concluding :=
          if fanIn.remaining - 1 = 0 then barrier :: s.concluding else s.concluding } := by
  have on_the_way : 0 < Notice.dueFor barrier s.onTheWay := by
    have listed : notice ∈ s.due := delivered ▸ List.mem_append_right before List.mem_cons_self
    exact Notice.dueFor_pos (List.mem_append_right _ listed) callback
  have counted := orderly.wired.counted found
  have positive : 0 < fanIn.remaining := by omega
  have has := Deferreds.fanIn?_counted_self found
  have outcome := Deferreds.outcome?_counted s.table barrier barrier fanIn
  have completions := completions_concat barrier log (.counted barrier notice.subject)
  cases phase with
  | @counting others present pending off never =>
    obtain rfl := Option.some.inj (found.symm.trans present)
    cases others with
    | zero =>
      refine .concluding has (outcome.trans pending) ?_ (completions.trans never)
      simp [off]
    | succ others =>
      exact .counting has (outcome.trans pending) off (completions.trans never)
  | concluding present =>
    obtain rfl := Option.some.inj (found.symm.trans present)
    exact absurd positive (Nat.lt_irrefl 0)
  | concluded present =>
    obtain rfl := Option.some.inj (found.symm.trans present)
    exact absurd positive (Nat.lt_irrefl 0)

/-- The barrier is completed. -/
theorem conclude (phase : Phase barrier members log s) (orderly : Orderly log s)
    {before after : List DeferredId} (last : s.concluding = before ++ barrier :: after)
    {fanIn : FanIn} (found : s.table.fanIn? barrier = some fanIn) {table : Deferreds β}
    {fresh : List (Notice β)}
    (done : s.table.complete barrier (s.table.verdict fanIn.members) = .ok (table, fresh)) :
    Phase barrier members (log ++ [.concluded barrier (s.table.verdict fanIn.members)])
      { s with table, due := fresh ++ s.due, concluding := before ++ after } := by
  have known := Deferreds.lt_size_of_fanIn found
  obtain ⟨pending, rfl, -⟩ := Deferreds.of_complete_ok known done
  have listed : s.concluding.count barrier = (before ++ after).count barrier + 1 := by
    rw [last, List.perm_middle.count_eq, List.count_cons_self]
  have completions := completions_concat barrier log (.concluded barrier
    (s.table.verdict fanIn.members))
  cases phase with
  | concluding present _ on never =>
    obtain rfl := Option.some.inj (found.symm.trans present)
    have settled (member : DeferredId) (inside : member ∈ members) :=
      orderly.wired.members_done found rfl inside
    refine .concluded ((Deferreds.fanIn?_completed ..).trans found) ?_ ?_ ?_
    · rw [Deferreds.outcome?_completed_self known, Deferreds.verdict_completed settled pending]
    · exact Nat.succ.inj (listed.symm.trans on)
    · rw [completions, never]
      simp [Event.completes]
  | counting _ _ off _ => omega
  | concluded _ _ off _ => omega

/-- Every step keeps the phases of a barrier that nobody else completes. -/
theorem step (phase : Phase barrier members log s) (orderly : Orderly log s)
    (step : Step s event t) (unaided : ∀ outcome, event ≠ .completed barrier outcome) :
    Phase barrier members (log ++ [event]) t ∧ ∀ error, event ≠ .refused barrier error := by
  obtain ⟨remaining, has⟩ := phase.found
  obtain ⟨completes, evolves⟩ := step.evolves
  have known := Deferreds.lt_size_of_fanIn has
  have older := Nat.ne_of_lt known
  have frame := phase.frame event orderly.wired evolves
  cases step with
  | make timeout =>
    exact ⟨frame (Deferreds.fanIn?_add_ne _ _ older) (Deferreds.outcome?_add_ne _ _ older) rfl rfl,
      nofun⟩
  | @openGroup others inside timeout =>
    refine ⟨frame (Deferreds.fanIn?_add_ne _ _ older) (Deferreds.outcome?_add_ne _ _ older) rfl ?_,
      nofun⟩
    exact Bool.and_eq_false_imp.mpr fun same => absurd (beq_iff_eq.mp same).symm older
  | @enroll before after other member rest next table fresh enrolled =>
    have same := Deferreds.fanIn?_register s.table member barrier (.member other)
    have outcome := Deferreds.outcome?_register s.table member barrier (.member other)
    rw [show s.table.register member (.member other) = (table, fresh) from enrolled]
      at same outcome
    exact ⟨frame same outcome rfl rfl, nofun⟩
  | @register id known callback foreign table fresh made =>
    have same := Deferreds.fanIn?_register s.table id barrier callback
    have outcome := Deferreds.outcome?_register s.table id barrier callback
    rw [made] at same outcome
    exact ⟨frame same outcome rfl rfl, nofun⟩
  | @complete id known outcome table fresh done =>
    obtain ⟨-, rfl, -⟩ := Deferreds.of_complete_ok known done
    have different : id ≠ barrier := by
      rintro rfl
      exact unaided outcome rfl
    refine ⟨frame (Deferreds.fanIn?_completed ..) (Deferreds.outcome?_completed_ne _ different _)
      rfl ?_, nofun⟩
    exact beq_eq_false_iff_ne.mpr different
  | @count before after notice delivered other callback fanIn found =>
    by_cases same : other = barrier
    · subst same
      exact ⟨phase.count orderly delivered callback found, nofun⟩
    · refine ⟨frame (Deferreds.fanIn?_counted_ne _ same fanIn) (Deferreds.outcome?_counted ..) ?_
        rfl, nofun⟩
      change List.count barrier (if _ then _ else _) = _
      split
      · exact List.count_cons_of_ne same
      · rfl
  | pass delivered foreign => exact ⟨frame rfl rfl rfl rfl, nofun⟩
  | @conclude before after other last fanIn found table fresh done =>
    by_cases same : other = barrier
    · subst same
      exact ⟨phase.conclude orderly last found done, nofun⟩
    · obtain ⟨-, rfl, -⟩ := Deferreds.of_complete_ok (Deferreds.lt_size_of_fanIn found) done
      refine ⟨frame (Deferreds.fanIn?_completed ..) (Deferreds.outcome?_completed_ne _ same _)
        ?_ ?_, nofun⟩
      · rw [last, List.perm_middle.count_eq, List.count_cons_of_ne same]
      · exact beq_eq_false_iff_ne.mpr same
  | @refuse before after other last fanIn found error late =>
    have different : other ≠ barrier := by
      rintro rfl
      cases phase with
      | concluding _ pending =>
        rw [Deferreds.complete_eq known pending] at late
        cases late
      | counting _ _ off | concluded _ _ off =>
        rw [last, List.perm_middle.count_eq, List.count_cons_self] at off
        cases off
    refine ⟨frame rfl rfl ?_ rfl, ?_⟩
    · rw [last, List.perm_middle.count_eq, List.count_cons_of_ne different]
    · rintro _ ⟨⟩
      exact different rfl

end Phase

/-- In every run a barrier that nobody else completes goes through its phases, and its completion
is never refused. -/
theorem Run.phase (run : Run Interleaving.start log s) (opened : .opened barrier members ∈ log)
    (unaided : ∀ outcome, .completed barrier outcome ∉ log) :
    Phase barrier members log s ∧ ∀ error, .refused barrier error ∉ log := by
  induction run with
  | nil => cases opened
  | @snoc log s t event earlier step ih =>
    have orderly := Orderly.of_run earlier
    rcases List.mem_append.mp opened with before | here
    · obtain ⟨phase, unrefused⟩ := ih before fun outcome listed =>
        unaided outcome (List.mem_append_left _ listed)
      obtain ⟨next, now⟩ := phase.step orderly step fun outcome same =>
        unaided outcome (List.mem_append_right _ (List.mem_singleton.mpr same.symm))
      refine ⟨next, fun error listed => ?_⟩
      rcases List.mem_append.mp listed with older | last
      · exact unrefused error older
      · exact now error (List.mem_singleton.mp last).symm
    · obtain rfl := List.mem_singleton.mp here
      cases step with
      | openGroup known timeout =>
        refine ⟨.openGroup orderly members known timeout, fun error listed => ?_⟩
        rcases List.mem_append.mp listed with older | last
        · exact Nat.lt_irrefl _ (orderly.seen _ older)
        · cases List.mem_singleton.mp last

end Interleaving
end WideColumn
