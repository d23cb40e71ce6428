import WideColumn.Deferred.Table

/-!
# Looking things up in the table of deferred results

Each part of a deferred result, read through the table: its outcome, its callbacks and, for a
barrier, what it waits for. Every change of the table is a change of one entry or one entry more, so
what a look-up finds afterwards follows from two equations. The callbacks of a barrier that wait
anywhere in the table are counted by `waiting`, those that are due by `dueFor`.
-/
namespace WideColumn

/-- Whether a callback counts down the members of a barrier. -/
def Callback.countsFor (barrier : DeferredId) : Callback β → Bool
  | .member other => other == barrier
  | _ => false

@[simp] theorem Callback.countsFor_member (barrier other : DeferredId) :
    (Callback.member other : Callback β).countsFor barrier = (other == barrier) := rfl

@[simp] theorem Callback.countsFor_flushed (barrier : DeferredId) (reason : FlushReason)
    (batch : Nat) : (Callback.flushed reason batch : Callback β).countsFor barrier = false := rfl

@[simp] theorem Callback.countsFor_client (barrier : DeferredId) (scope : Scope) (body : β) :
    (Callback.client scope body).countsFor barrier = false := rfl

/-- Only its own callback counts for a barrier. -/
theorem Callback.eq_member {barrier : DeferredId} {callback : Callback β}
    (counts : callback.countsFor barrier = true) : callback = .member barrier := by
  cases callback with
  | member other => simpa using counts
  | flushed => simp at counts
  | client => simp at counts

/-- How many callbacks of a list count down the members of a barrier. -/
def Callback.counting (barrier : DeferredId) (callbacks : List (Callback β)) : Nat :=
  callbacks.countP (·.countsFor barrier)

@[simp] theorem Callback.counting_append (barrier : DeferredId)
    (before after : List (Callback β)) :
    Callback.counting barrier (before ++ after) =
      Callback.counting barrier before + Callback.counting barrier after :=
  List.countP_append

@[simp] theorem Callback.counting_cons (barrier : DeferredId) (callback : Callback β)
    (rest : List (Callback β)) :
    Callback.counting barrier (callback :: rest) =
      Callback.counting barrier rest + if callback.countsFor barrier then 1 else 0 :=
  List.countP_cons

@[simp] theorem Callback.counting_nil (barrier : DeferredId) :
    Callback.counting barrier ([] : List (Callback β)) = 0 := rfl

/-- A callback of a barrier that is in a list is counted there. -/
theorem Callback.counting_pos {barrier : DeferredId} {callbacks : List (Callback β)}
    (present : .member barrier ∈ callbacks) : 0 < Callback.counting barrier callbacks := by
  apply List.countP_pos_iff.mpr
  exact ⟨.member barrier, present, by simp⟩

/-- How many due notices count down the members of a barrier. -/
def Notice.dueFor (barrier : DeferredId) (due : List (Notice β)) : Nat :=
  Callback.counting barrier (due.map (·.callback))

@[simp] theorem Notice.dueFor_append (barrier : DeferredId) (before after : List (Notice β)) :
    Notice.dueFor barrier (before ++ after) =
      Notice.dueFor barrier before + Notice.dueFor barrier after := by
  simp [Notice.dueFor]

@[simp] theorem Notice.dueFor_cons (barrier : DeferredId) (notice : Notice β)
    (rest : List (Notice β)) :
    Notice.dueFor barrier (notice :: rest) =
      Notice.dueFor barrier rest + if notice.callback.countsFor barrier then 1 else 0 := by
  simp [Notice.dueFor]

@[simp] theorem Notice.dueFor_nil (barrier : DeferredId) :
    Notice.dueFor barrier ([] : List (Notice β)) = 0 := rfl

/-- A notice for a barrier that is due is counted. -/
theorem Notice.dueFor_pos {barrier : DeferredId} {due : List (Notice β)} {notice : Notice β}
    (present : notice ∈ due) (counts : notice.callback = .member barrier) :
    0 < Notice.dueFor barrier due :=
  Callback.counting_pos (counts ▸ List.mem_map_of_mem present)

/-- Where notices for a barrier are counted, one is due. -/
theorem Notice.exists_of_dueFor_pos {barrier : DeferredId} {due : List (Notice β)}
    (positive : 0 < Notice.dueFor barrier due) :
    ∃ notice ∈ due, notice.callback = .member barrier := by
  obtain ⟨callback, present, counts⟩ := List.countP_pos_iff.mp positive
  obtain ⟨notice, listed, rfl⟩ := List.mem_map.mp present
  exact ⟨notice, listed, Callback.eq_member counts⟩

/-- Counting does not depend on the order of the notices. -/
theorem Notice.dueFor_perm {barrier : DeferredId} {a b : List (Notice β)} (same : a.Perm b) :
    Notice.dueFor barrier a = Notice.dueFor barrier b :=
  (same.map _).countP_eq _

namespace Deferreds

variable {β : Type}

/-- How many references have been given out. -/
def size (table : Deferreds β) : Nat := table.entries.length

/-- What a barrier waits for, nothing for any other deferred result. -/
def fanIn? (table : Deferreds β) (id : DeferredId) : Option FanIn :=
  (table.get? id).bind Deferred.fanIn

/-- The members of a barrier, nothing for any other deferred result. -/
def members? (table : Deferreds β) (id : DeferredId) : Option (List DeferredId) :=
  (table.fanIn? id).map FanIn.members

/-- The callbacks that wait for a deferred result. -/
def callbacksOf (table : Deferreds β) (id : DeferredId) : List (Callback β) :=
  ((table.get? id).map Deferred.callbacks).getD []

/-- How many callbacks anywhere in the table count down the members of a barrier. -/
def waiting (table : Deferreds β) (barrier : DeferredId) : Nat :=
  Callback.counting barrier (table.entries.flatMap Deferred.callbacks)

/-- A reference has been given out exactly if it is below the size. -/
theorem exists_get?_iff (table : Deferreds β) (id : DeferredId) :
    (∃ deferred, table.get? id = some deferred) ↔ id < table.size := by
  constructor
  · rintro ⟨deferred, found⟩
    exact (List.getElem?_eq_some_iff.mp found).1
  · intro inside
    exact ⟨table.entries[id], List.getElem?_eq_getElem inside⟩

/-- Nothing stands at references that have not been given out. -/
theorem get?_eq_none {table : Deferreds β} {id : DeferredId} (outside : table.size ≤ id) :
    table.get? id = none := List.getElem?_eq_none outside

/-- A reference with an outcome has been given out. -/
theorem lt_size_of_outcome {table : Deferreds β} {id : DeferredId} {outcome : Outcome}
    (done : table.outcome? id = some outcome) : id < table.size := by
  obtain ⟨deferred, found, _⟩ := Option.bind_eq_some_iff.mp done
  exact (table.exists_get?_iff id).mp ⟨deferred, found⟩

/-- A reference of a barrier has been given out. -/
theorem lt_size_of_fanIn {table : Deferreds β} {id : DeferredId} {fanIn : FanIn}
    (barrier : table.fanIn? id = some fanIn) : id < table.size := by
  obtain ⟨deferred, found, _⟩ := Option.bind_eq_some_iff.mp barrier
  exact (table.exists_get?_iff id).mp ⟨deferred, found⟩

/-- A reference of a barrier with known members has been given out. -/
theorem lt_size_of_members {table : Deferreds β} {id : DeferredId} {members : List DeferredId}
    (barrier : table.members? id = some members) : id < table.size := by
  obtain ⟨fanIn, found, _⟩ := Option.map_eq_some_iff.mp barrier
  exact lt_size_of_fanIn found

/-- A reference that callbacks wait for has been given out. -/
theorem lt_size_of_callback {table : Deferreds β} {id : DeferredId} {callback : Callback β}
    (present : callback ∈ table.callbacksOf id) : id < table.size := by
  apply Nat.lt_of_not_le
  intro outside
  simp [callbacksOf, get?_eq_none outside] at present

/-- What a look-up finds after one entry was changed. -/
theorem get?_modify (table : Deferreds β) (id other : DeferredId)
    (change : Deferred β → Deferred β) :
    (table.modify id change).get? other =
      if id = other then (table.get? other).map change else table.get? other := by
  unfold get? modify
  rw [List.getElem?_modify]
  split
  · rfl
  · simp

/-- A changed entry is found changed. -/
theorem get?_modify_self {table : Deferreds β} {id : DeferredId} {deferred : Deferred β}
    (found : table.get? id = some deferred) (change : Deferred β → Deferred β) :
    (table.modify id change).get? id = some (change deferred) := by
  rw [get?_modify, if_pos rfl, found]
  rfl

/-- A change of one entry leaves the others alone. -/
theorem get?_modify_ne (table : Deferreds β) {id other : DeferredId} (different : id ≠ other)
    (change : Deferred β → Deferred β) :
    (table.modify id change).get? other = table.get? other := by
  rw [get?_modify, if_neg different]

@[simp] theorem size_modify (table : Deferreds β) (id : DeferredId)
    (change : Deferred β → Deferred β) : (table.modify id change).size = table.size := by
  simp [size, modify]

/-- The reference of a new entry is the size so far. -/
@[simp] theorem add_fst (table : Deferreds β) (deferred : Deferred β) :
    (table.add deferred).1 = table.size := rfl

@[simp] theorem size_add (table : Deferreds β) (deferred : Deferred β) :
    (table.add deferred).2.size = table.size + 1 := by
  simp [size, add]

/-- A new entry is found under its reference. -/
theorem get?_add_self (table : Deferreds β) (deferred : Deferred β) :
    (table.add deferred).2.get? table.size = some deferred := by
  simp [get?, add, size]

/-- A new entry leaves the others alone. -/
theorem get?_add_ne (table : Deferreds β) (deferred : Deferred β) {id : DeferredId}
    (different : id ≠ table.size) : (table.add deferred).2.get? id = table.get? id := by
  unfold get? add
  simp only [List.getElem?_append]
  split
  · rfl
  · rename_i outside
    have beyond : table.entries.length < id :=
      Nat.lt_of_le_of_ne (Nat.le_of_not_lt outside) (Ne.symm different)
    have rest : 0 < id - table.entries.length := Nat.sub_pos_of_lt beyond
    rw [List.getElem?_eq_none (Nat.le_of_lt beyond)]
    exact List.getElem?_eq_none rest

/-- A changed entry stands where it stood, between the same others. -/
theorem entries_modify {table : Deferreds β} {id : DeferredId} {deferred : Deferred β}
    (found : table.get? id = some deferred) (change : Deferred β → Deferred β) :
    ∃ before after, table.entries = before ++ deferred :: after ∧
      (table.modify id change).entries = before ++ change deferred :: after := by
  obtain ⟨inside, here⟩ := List.getElem?_eq_some_iff.mp found
  refine ⟨table.entries.take id, table.entries.drop (id + 1), ?_, ?_⟩
  · rw [← here, ← List.drop_eq_getElem_cons inside, List.take_append_drop]
  · simp only [modify]
    rw [List.modify_eq_take_cons_drop inside, here]

/-- The callbacks of an entry that was changed count differently, those of the others do not. -/
theorem waiting_modify {table : Deferreds β} {id : DeferredId} {deferred : Deferred β}
    (found : table.get? id = some deferred) (change : Deferred β → Deferred β)
    (barrier : DeferredId) :
    (table.modify id change).waiting barrier + Callback.counting barrier deferred.callbacks =
      table.waiting barrier + Callback.counting barrier (change deferred).callbacks := by
  obtain ⟨before, after, was, became⟩ := entries_modify found change
  unfold waiting
  rw [was, became]
  simp only [List.flatMap_append, List.flatMap_cons, Callback.counting_append]
  omega

/-- A new entry adds its callbacks to the count. -/
theorem waiting_add (table : Deferreds β) (deferred : Deferred β) (barrier : DeferredId) :
    (table.add deferred).2.waiting barrier =
      table.waiting barrier + Callback.counting barrier deferred.callbacks := by
  simp [waiting, add]

/-- A callback of a barrier that waits for something is counted. -/
theorem waiting_pos {table : Deferreds β} {id barrier : DeferredId}
    (present : .member barrier ∈ table.callbacksOf id) : 0 < table.waiting barrier := by
  obtain ⟨deferred, found⟩ := (table.exists_get?_iff id).mpr (lt_size_of_callback present)
  have listed : .member barrier ∈ deferred.callbacks := by
    simpa [callbacksOf, found] using present
  apply Callback.counting_pos
  exact List.mem_flatMap.mpr ⟨deferred, List.mem_of_getElem? found, listed⟩

/-- Where callbacks of a barrier are counted, one of them waits for something. -/
theorem exists_of_waiting_pos {table : Deferreds β} {barrier : DeferredId}
    (positive : 0 < table.waiting barrier) : ∃ id, .member barrier ∈ table.callbacksOf id := by
  obtain ⟨callback, present, counts⟩ := List.countP_pos_iff.mp positive
  obtain ⟨deferred, listed, waits⟩ := List.mem_flatMap.mp present
  obtain ⟨id, found⟩ := List.getElem?_of_mem listed
  have known : table.get? id = some deferred := found
  obtain rfl := Callback.eq_member counts
  exact ⟨id, by simpa [callbacksOf, known] using waits⟩

/-- The error of a deferred result is read off its outcome. -/
theorem error?_eq (table : Deferreds β) (id : DeferredId) :
    (table.get? id).bind Deferred.error? =
      match table.outcome? id with
      | some (.error error) => some error
      | _ => none := by
  unfold outcome?
  cases table.get? id <;> rfl

/-- The failures of members depend on the outcomes of the members only. -/
theorem failures_congr {a b : Deferreds β} {members : List DeferredId}
    (same : ∀ member ∈ members, b.outcome? member = a.outcome? member) :
    b.failures members = a.failures members := by
  induction members with
  | nil => rfl
  | cons first rest ih =>
    have here := same first List.mem_cons_self
    have others := ih fun member listed => same member (List.mem_cons_of_mem first listed)
    unfold failures at others ⊢
    rw [List.filterMap_cons, List.filterMap_cons, others, error?_eq, error?_eq, here]

/-- A verdict depends on the outcomes of the members only. -/
theorem verdict_congr {a b : Deferreds β} {members : List DeferredId}
    (same : ∀ member ∈ members, b.outcome? member = a.outcome? member) :
    b.verdict members = a.verdict members := by
  unfold verdict
  rw [failures_congr same]

end Deferreds
end WideColumn
