import WideColumn.Proofs.Request.Execution

/-!
# What stands in a store can be addressed

A store that comes about by creating and deleting tables and by executing requests that are built
has cells only where another request could write: in a row with a key, at a coordinate with a family
and a qualifier, in a table that declares the family.
-/
namespace WideColumn

namespace Store

/-- The stores that come about from nothing by creating and deleting tables and by executing
requests that are built. -/
inductive Reached : Store → Prop where
  /-- A store without tables. -/
  | empty : Reached .empty
  /-- A table is created. -/
  | createTable {before after : Store} {name : Bytes} {families : List Bytes}
    (reached : Reached before) (created : before.createTable name families = .ok after) :
    Reached after
  /-- A table is deleted. -/
  | deleteTable {before after : Store} {name : Bytes} (reached : Reached before)
    (deleted : before.deleteTable name = .ok after) : Reached after
  /-- A request is executed, whatever becomes of it. -/
  | execute {before after : Store} {arguments : Request.Arguments} {request : Request}
    {outcome : Outcome} (reached : Reached before) (built : arguments.build = .ok request)
    (executed : (request : Submission).execute Request.onStore none before = (outcome, after)) :
    Reached after

/-- A write could address a place: row, family and qualifier are not empty, and the table declares
the family. -/
structure Place.Addressable (store : Store) (place : Place) : Prop where
  /-- The row has a key. -/
  key : place.key ≠ []
  /-- The family and the qualifier are not empty. -/
  coordinate : place.coordinate.WellFormed
  /-- The table is there and declares the family. -/
  declared : ∃ families, (store.tables.get? place.table).map Table.families = some families ∧
    place.coordinate.family ∈ families

/-- Whatever stands in a store stands where a write could address it. -/
def Sound (store : Store) : Prop :=
  ∀ place entry, store.cell? place = some entry → place.Addressable store

/-- What can be addressed in a store can be addressed where the table declares as much. -/
theorem Place.Addressable.of_families {store other : Store} {place : Place}
    (addressable : place.Addressable store)
    (families : (other.tables.get? place.table).map Table.families =
      (store.tables.get? place.table).map Table.families) : place.Addressable other :=
  ⟨addressable.key, addressable.coordinate, families ▸ addressable.declared⟩

/-- Nothing stands in a store without tables. -/
theorem Sound.empty : Store.empty.Sound := fun _ _ => nofun

/-! ## Tables -/

section Tables

variable {store after : Store} {name : Bytes} {place : Place}

/-- What a created table is, and what is elsewhere. -/
theorem createTable_ok {families : List Bytes}
    (created : store.createTable name families = .ok after) :
    after.tables.get? name = some ⟨families, .empty⟩ ∧
      ∀ other, name ≠ other → after.tables.get? other = store.tables.get? other := by
  unfold createTable at created
  split at created
  · cases created
  · cases created
    refine ⟨?_, fun other different => ?_⟩
    · rw [setTable, SortedMap.insert_eq_alter, SortedMap.get?_alter_self]
    · rw [setTable, SortedMap.insert_eq_alter, SortedMap.get?_alter_ne _ different]

/-- A deleted table is gone, and what is elsewhere stays. -/
theorem deleteTable_ok (deleted : store.deleteTable name = .ok after) :
    after.tables.get? name = none ∧
      ∀ other, name ≠ other → after.tables.get? other = store.tables.get? other := by
  unfold deleteTable at deleted
  split at deleted
  · cases deleted
    refine ⟨?_, fun other different => ?_⟩
    · rw [SortedMap.erase_eq_alter, SortedMap.get?_alter_self]
    · rw [SortedMap.erase_eq_alter, SortedMap.get?_alter_ne _ different]
  · cases deleted

/-- What stands at a place is told by its table. -/
theorem cell?_congr (same : after.tables.get? place.table = store.tables.get? place.table) :
    after.cell? place = store.cell? place := by
  unfold cell? row?
  rw [same]

/-- Nothing stands in a table that is not there or has no rows. -/
theorem cell?_of_no_rows (clear : ∀ table, store.tables.get? place.table = some table →
    table.rows = .empty) : store.cell? place = none := by
  unfold cell? row?
  cases found : store.tables.get? place.table with
  | none => rfl
  | some table =>
    rw [Option.bind_some, clear table found]
    rfl

/-- A store is still sound when a table without rows takes the place of a table, or nothing does. -/
theorem Sound.of_clear (sound : store.Sound)
    (clear : ∀ table, after.tables.get? name = some table → table.rows = .empty)
    (others : ∀ other, name ≠ other → after.tables.get? other = store.tables.get? other) :
    after.Sound := by
  intro place entry stands
  by_cases here : name = place.table
  · subst here
    rw [cell?_of_no_rows clear] at stands
    cases stands
  · have same := others _ here
    rw [cell?_congr same] at stands
    exact (sound place entry stands).of_families (congrArg _ same)

end Tables

end Store

/-! ## Requests -/

namespace Request

open Store

variable {request : Request} {store after : Store}

/-- A request is admitted exactly where its table is there and declares the family that it names. -/
theorem admitted_iff : (∃ table, request.admission store = .ok table) ↔
    ∃ table, store.tables.get? request.table = some table ∧
      ∀ family, request.family? = some family → family ∈ table.families := by
  constructor
  · rintro ⟨table, admitted⟩
    refine ⟨table, (admission_ok admitted).1, fun family named => ?_⟩
    by_contra undeclared
    have refused := admission_error.2
      (.inr ⟨table, family, (admission_ok admitted).1, named, undeclared, rfl⟩)
    rw [admitted] at refused
    cases refused
  · rintro ⟨table, found, declared⟩
    cases outcome : request.admission store with
    | ok table => exact ⟨table, rfl⟩
    | error refusal =>
      rcases admission_error.1 outcome with ⟨missing, -⟩ | ⟨same, family, known, named, not, -⟩
      · rw [missing] at found
        cases found
      · rw [known] at found
        cases found
        exact absurd (declared family named) not

/-- Something stands after a request only where something stood, or where the request writes. -/
theorem stood_or_addressed {timestamp : Nat} {place : Place} {old : Option Entry} {entry : Entry}
    (wellFormed : request.WellFormed)
    (left : request.leaves timestamp place old = some entry) :
    (∃ stood, old = some stood) ∨ request.table = place.table ∧
      request.family? = some place.coordinate.family ∧ place.key ≠ [] ∧
        place.coordinate.WellFormed := by
  cases request with
  | get | scan => exact .inl ⟨entry, left⟩
  | put | append =>
    simp only [leaves] at left
    split at left
    · rename_i here
      subst here
      exact .inr ⟨rfl, rfl, wellFormed.2.1, wellFormed.2.2⟩
    · exact .inl ⟨entry, left⟩
  | delete =>
    simp only [leaves] at left
    split at left
    · cases left
    · exact .inl ⟨entry, left⟩

/-- Executing a request that is well formed leaves a sound store sound. -/
theorem sound_execute (wellFormed : request.WellFormed) (sound : store.Sound) {outcome : Outcome}
    (executed : (request : Submission).execute onStore none store = (outcome, after)) :
    after.Sound := by
  cases admitted : request.admission store with
  | error refusal =>
    obtain rfl : store = after :=
      congrArg Prod.snd ((execute_refused admitted).symm.trans executed)
    exact sound
  | ok table =>
    obtain ⟨_, left, resolved, -, leaves⟩ := answered_of_admitted wellFormed admitted
    obtain rfl : left = after := congrArg Prod.snd (resolved.symm.trans executed)
    intro place entry stands
    rw [leaves.cells] at stands
    have addressable : place.Addressable store := by
      rcases stood_or_addressed wellFormed stands with
        ⟨stood, stands⟩ | ⟨here, named, key, coordinate⟩
      · exact sound place stood stands
      · obtain ⟨same, found, declared⟩ := admitted_iff.1 ⟨table, admitted⟩
        refine ⟨key, coordinate, same.families, ?_, declared _ named⟩
        rw [← here, found, Option.map_some]
    exact addressable.of_families (leaves.tables place.table)

end Request

/-- Whatever is reached is sound. -/
theorem Store.Reached.sound {store : Store} (reached : store.Reached) : store.Sound := by
  induction reached with
  | empty => exact .empty
  | createTable reached created sound =>
    obtain ⟨here, others⟩ := createTable_ok created
    refine sound.of_clear (fun table found => ?_) others
    rw [here] at found
    cases found
    rfl
  | deleteTable reached deleted sound =>
    obtain ⟨gone, others⟩ := deleteTable_ok deleted
    exact sound.of_clear (fun table found => nomatch gone.symm.trans found) others
  | execute reached built executed sound =>
    exact Request.sound_execute (Request.build_eq_ok.1 built).2 sound executed

end WideColumn
