import Mathlib.Data.List.Forall2
import Mathlib.Data.List.Nodup
import WideColumn.Proofs.Except
import WideColumn.Store.Filter

/-!
# How filters act on cells

A filter is a tree, whose lists are its inner nodes. What it gives of a row is followed from the
leaves up: a test keeps the cells that pass it, a list whose members must all pass hands what one
member leaves to the next, and a list of which one must pass looks every cell up in what each member
leaves.
-/
namespace WideColumn.Store

/-- Cells of which no two share a coordinate, as those of a row. -/
def Distinct (cells : List Cell) : Prop := (cells.map Cell.coordinate).Nodup

/-- Among distinct cells, the coordinate tells the cell. -/
theorem Distinct.eq_of_coordinate {cells : List Cell} (distinct : Distinct cells) {one other : Cell}
    (listed : one ∈ cells) (also : other ∈ cells) (same : one.coordinate = other.coordinate) :
    one = other := List.inj_on_of_nodup_map distinct listed also same

/-- Some of distinct cells are distinct. -/
theorem Distinct.sublist {cells some : List Cell} (distinct : Distinct cells)
    (among : some.Sublist cells) : Distinct some :=
  List.Nodup.sublist (among.map Cell.coordinate) distinct

namespace Filter

/-! ## Trees -/

/-- What holds of every filter that is no list, and of every list if of its members, holds of all
filters. -/
@[elab_as_elim]
theorem tree_induction {motive : Filter → Prop}
    (compare : ∀ component op comparator, motive (.compare component op comparator))
    (columnPrefix : ∀ reference, motive (.columnPrefix reference))
    (columnRange : ∀ low lowInclusive high highInclusive,
      motive (.columnRange low lowInclusive high highInclusive))
    (keyOnly : motive .keyOnly) (firstKeyOnly : motive .firstKeyOnly)
    (list : ∀ operator members, (∀ member ∈ members, motive member) →
      motive (.list operator members))
    (filter : Filter) : motive filter :=
  @Filter.rec motive (fun members => ∀ member ∈ members, motive member)
    compare columnPrefix columnRange keyOnly firstKeyOnly list
    (List.forall_mem_nil motive) (fun _ _ first others => List.forall_mem_cons.2 ⟨first, others⟩)
    filter

mutual

/-- The filters in a tree that are no lists. -/
def leaves : Filter → List Filter
  | list _ members => leavesOf members
  | leaf => [leaf]

/-- The filters in several trees that are no lists. -/
def leavesOf : List Filter → List Filter
  | [] => []
  | member :: rest => leaves member ++ leavesOf rest

end

/-- A leaf of a list is a leaf of one of its members. -/
@[simp] theorem mem_leaves_list {leaf : Filter} {operator : ListOperator} {members : List Filter} :
    leaf ∈ (list operator members).leaves ↔ ∃ member ∈ members, leaf ∈ member.leaves := by
  rw [leaves]
  induction members with
  | nil => simp [leavesOf]
  | cons member rest ih => simp [leavesOf, ih]

/-! ## Tests of single cells -/

/-- Whether a test lets something pass; a test that fails does not. -/
def passed : Except Error Bool → Bool
  | .ok verdict => verdict
  | .error _ => false

/-- Cells are kept by a test exactly if it fails for none of them, and then those that pass. -/
theorem keep_eq_ok {test : Cell → Except Error Bool} {cells kept : List Cell} :
    keep test cells = .ok kept ↔
      (∀ cell ∈ cells, ∃ verdict, test cell = .ok verdict) ∧
        kept = cells.filter fun cell => passed (test cell) := by
  induction cells generalizing kept with
  | nil => simp [keep, eq_comm]
  | cons cell rest ih =>
    simp only [keep, Except.bind_eq_ok, ih, List.forall_mem_cons]
    constructor
    · rintro ⟨verdict, here, others, ⟨answered, rfl⟩, done⟩
      obtain rfl := Except.ok.inj done
      refine ⟨⟨⟨verdict, here⟩, answered⟩, ?_⟩
      rw [List.filter_cons, here]
      rfl
    · rintro ⟨⟨⟨verdict, here⟩, answered⟩, rfl⟩
      refine ⟨verdict, here, _, ⟨answered, rfl⟩, ?_⟩
      rw [List.filter_cons, here]
      rfl

/-- A test that never fails keeps the cells that pass it. -/
theorem keep_ok (test : Cell → Bool) (cells : List Cell) :
    keep (fun cell => .ok (test cell)) cells = .ok (cells.filter test) :=
  keep_eq_ok.2 ⟨fun cell _ => ⟨test cell, rfl⟩, rfl⟩

/-! ## Lists -/

/-- A row passes through several filters exactly if it passes the first and, unless no cell is left
then, the rest. -/
theorem applyAll_cons_eq_ok [Pattern.Engine] {key : Bytes} {cells kept : List Cell}
    {member : Filter} {rest : List Filter} :
    applyAll key cells (member :: rest) = .ok kept ↔
      ∃ first, member.apply key cells = .ok first ∧
        (first = [] ∧ kept = [] ∨ first ≠ [] ∧ applyAll key first rest = .ok kept) := by
  rw [applyAll, Except.bind_eq_ok]
  refine exists_congr fun first => and_congr_right fun _ => ?_
  cases first with
  | nil => simp [pure, Except.pure, eq_comm]
  | cons cell others => simp

/-- Several filters are applied to the same cells exactly if each is. -/
theorem applyEach_eq_ok [Pattern.Engine] {key : Bytes} {cells : List Cell} {members : List Filter}
    {results : List (List Cell)} :
    applyEach key cells members = .ok results ↔
      List.Forall₂ (fun member kept => member.apply key cells = .ok kept) members results := by
  rw [← Except.mapM_eq_ok]
  suffices each : applyEach key cells members = members.mapM fun member => member.apply key cells by
    rw [each]
  induction members with
  | nil => rfl
  | cons member rest ih => rw [applyEach, ih, List.mapM_cons]

/-- Several filters and their results go together, from either side. -/
theorem results_of_members [Pattern.Engine] {key : Bytes} {cells : List Cell}
    {members : List Filter} {results : List (List Cell)}
    (applied : applyEach key cells members = .ok results) :
    (∀ member ∈ members, ∃ kept ∈ results, member.apply key cells = .ok kept) ∧
      ∀ kept ∈ results, ∃ member ∈ members, member.apply key cells = .ok kept := by
  replace applied := applyEach_eq_ok.1 applied
  induction applied with
  | nil => exact ⟨nofun, nofun⟩
  | cons here _ ih =>
    constructor
    · refine List.forall_mem_cons.2 ⟨⟨_, List.mem_cons_self, here⟩, fun member listed => ?_⟩
      obtain ⟨kept, among, gives⟩ := ih.1 member listed
      exact ⟨kept, List.mem_cons_of_mem _ among, gives⟩
    · refine List.forall_mem_cons.2 ⟨⟨_, List.mem_cons_self, here⟩, fun kept among => ?_⟩
      obtain ⟨member, listed, gives⟩ := ih.2 kept among
      exact ⟨member, List.mem_cons_of_mem _ listed, gives⟩

/-- A cell that is looked up by a coordinate is listed and has the coordinate. -/
theorem lastAt_eq_some {coordinate : Coordinate} {cells : List Cell} {cell : Cell}
    (found : lastAt coordinate cells = some cell) :
    cell ∈ cells ∧ cell.coordinate = coordinate := by
  unfold lastAt at found
  exact ⟨List.mem_reverse.1 (List.mem_of_find?_eq_some found), by simpa using List.find?_some found⟩

/-- Distinct cells that pass a test are looked up by their coordinates. -/
theorem lastAt_filter {cells : List Cell} (distinct : Distinct cells) (test : Cell → Bool)
    {cell : Cell} (listed : cell ∈ cells) :
    lastAt cell.coordinate (cells.filter test) = if test cell then some cell else none := by
  cases found : lastAt cell.coordinate (cells.filter test) with
  | some other =>
    obtain ⟨kept, same⟩ := lastAt_eq_some found
    obtain ⟨also, passes⟩ := List.mem_filter.1 kept
    obtain rfl := distinct.eq_of_coordinate also listed same
    rw [if_pos passes]
  | none =>
    split
    · next passes =>
      have kept : cell ∈ (cells.filter test).reverse :=
        List.mem_reverse.2 (List.mem_filter.2 ⟨listed, passes⟩)
      exact absurd (decide_eq_true rfl) (List.find?_eq_none.1 found cell kept)
    · rfl

end Filter
end WideColumn.Store
