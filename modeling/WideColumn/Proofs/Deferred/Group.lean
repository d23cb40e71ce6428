import WideColumn.Proofs.Deferred.FanIn

/-!
# New barriers

A barrier that is still learning of its members fits the picture of exact counts: each member that
it has not been told about counts as one notice on its way. Telling it of a pending member turns
that notice into a callback that waits, telling it of a terminal one delivers the notice. Nobody
else knows the barrier yet, so nothing else becomes due meanwhile.
-/
namespace WideColumn.Deferreds

variable {β : Type}

/-- What stands for a member that a barrier has not been told about: a notice on its way. -/
def untold (barrier member : DeferredId) : Notice β := ⟨member, .member barrier, .ok .nothing⟩

/-- A barrier counts all members that it has not been told about, and those of no other. -/
theorem dueFor_untold (barrier other : DeferredId) (members : List DeferredId) :
    Notice.dueFor other (members.map (untold (β := β) barrier)) =
      if barrier = other then members.length else 0 := by
  induction members with
  | nil => simp
  | cons first rest ih =>
    rw [List.map_cons, Notice.dueFor_cons, ih]
    by_cases same : barrier = other <;> simp [untold, same]

/-- No completion that a barrier attempts while it learns of its members is refused. -/
def EnrollsCleanly (barrier : DeferredId) : List DeferredId → Deferreds β → Prop
  | [], _ => True
  | member :: rest, table =>
    match table.enroll barrier member with
    | (after, []) => EnrollsCleanly barrier rest after
    | (after, _ :: _) =>
      ∃ last due, after.arrive barrier = .ok (last, due) ∧ EnrollsCleanly barrier rest last

@[simp] theorem size_openGroup (table : Deferreds β) (members : List DeferredId)
    (timeout : Option Number) : (table.openGroup members timeout).2.size = table.size + 1 := by
  unfold openGroup
  exact size_add table _

/-- A new barrier that has been told of none of its members yet. -/
theorem Wired.openGroup {table : Deferreds β} {due : List (Notice β)} (wired : table.Wired due)
    {members : List DeferredId} (known : ∀ member ∈ members, member < table.size)
    (timeout : Option Number) :
    (table.openGroup members timeout).2.Wired (members.map (untold table.size) ++ due) := by
  unfold Deferreds.openGroup
  apply wired.add rfl
  · intro notice present
    obtain ⟨member, listed, rfl⟩ := List.mem_map.mp present
    exact ⟨rfl, _, rfl, listed⟩
  · intro fanIn described
    obtain rfl := Option.some.inj described
    refine ⟨?_, ?_⟩
    · rw [dueFor_untold, if_pos rfl]
    · intro member listed
      exact ⟨known member listed, untold table.size member, List.mem_map_of_mem listed, rfl⟩

namespace Sound

/-- A new barrier that has been told of none of its members yet. -/
theorem openGroup {table : Deferreds β} {due : List (Notice β)} (sound : table.Sound due)
    {members : List DeferredId} (known : ∀ member ∈ members, member < table.size)
    (timeout : Option Number) :
    (table.openGroup members timeout).2.Sound (members.map (untold table.size) ++ due) := by
  apply sound.add (sound.toWired.openGroup known timeout)
  intro fanIn described
  obtain rfl := Option.some.inj described
  refine ⟨known, ?_⟩
  cases members with
  | nil => rfl
  | cons first rest => rfl

/-- A barrier learns of its members: of those that are pending it will hear, those that are terminal
it counts, and none of its completions is refused. -/
theorem enrollAll {due : List (Notice β)} {barrier : DeferredId} {members : List DeferredId}
    {table : Deferreds β} (sound : table.Sound (members.map (untold barrier) ++ due))
    (known : ∀ member ∈ members, member < table.size ∧ member ≠ barrier)
    (silent : table.callbacksOf barrier = []) :
    (Deferreds.enrollAll barrier members table).Sound due ∧
      EnrollsCleanly barrier members table := by
  induction members generalizing table with
  | nil => exact ⟨sound, trivial⟩
  | cons member rest ih =>
    obtain ⟨inside, different⟩ := known member List.mem_cons_self
    have others := fun other listed => known other (List.mem_cons_of_mem member listed)
    have first : table.Sound (untold barrier member :: (rest.map (untold barrier) ++ due)) := sound
    cases done : table.outcome? member with
    | none =>
      have next := first.registered inside done
      have quiet : (table.registered member (.member barrier)).callbacksOf barrier = [] := by
        rw [callbacksOf_registered inside, if_neg different, silent]
      obtain ⟨after, clean⟩ := ih next (fun other listed => by
        rw [size_registered]
        exact others other listed) quiet
      refine ⟨?_, ?_⟩
      · rw [enrollAll_pending barrier rest done]
        exact after
      · simp only [EnrollsCleanly, enroll, register_pending done]
        exact clean
    | some outcome =>
      obtain ⟨next, fresh, arrived, nextSound, _, still⟩ := first.arrive rfl ⟨outcome, done⟩
      obtain ⟨rfl, quiet⟩ := still silent
      have grown := (evolves_arrive arrived).size_le
      obtain ⟨after, clean⟩ := ih nextSound (fun other listed =>
        ⟨Nat.lt_of_lt_of_le (others other listed).1 grown, (others other listed).2⟩) quiet
      refine ⟨?_, ?_⟩
      · rw [enrollAll_done rest done arrived]
        exact after
      · simp only [EnrollsCleanly, enroll, register_done done]
        exact ⟨next, [], arrived, clean⟩

/-- A new barrier over members that are known. -/
theorem group {table : Deferreds β} {due : List (Notice β)} (sound : table.Sound due)
    {members : List DeferredId} (known : ∀ member ∈ members, member < table.size)
    (timeout : Option Number) :
    (table.group members timeout).2.Sound due ∧
      EnrollsCleanly table.size members (table.openGroup members timeout).2 := by
  apply enrollAll (sound.openGroup known timeout)
  · intro member listed
    have inside := known member listed
    refine ⟨?_, Nat.ne_of_lt inside⟩
    rw [size_openGroup]
    exact Nat.lt_succ_of_lt inside
  · exact callbacksOf_add_self table _

end Sound

/-- The reference of a new barrier. -/
@[simp] theorem group_fst (table : Deferreds β) (members : List DeferredId)
    (timeout : Option Number) : (table.group members timeout).1 = table.size := rfl

/-- The members of a new barrier. -/
theorem members?_group (table : Deferreds β) (members : List DeferredId)
    (timeout : Option Number) :
    (table.group members timeout).2.members? table.size = some members := by
  have opened : (table.openGroup members timeout).2.members? table.size = some members := by
    unfold members? openGroup
    rw [fanIn?_add_self]
    rfl
  have grown : table.size < (table.openGroup members timeout).2.size := by simp
  have kept := (evolves_enrollAll table.size members (table.openGroup members timeout).2).members
    grown
  exact kept.trans opened

/-- A new barrier is one reference more. -/
theorem size_lt_group (table : Deferreds β) (members : List DeferredId)
    (timeout : Option Number) : table.size < (table.group members timeout).2.size := by
  have opened : table.size < (table.openGroup members timeout).2.size := by simp
  exact Nat.lt_of_lt_of_le opened (evolves_enrollAll table.size members _).size_le

end WideColumn.Deferreds
