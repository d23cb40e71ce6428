import WideColumn.Proofs.Filter.Agreement
import WideColumn.Proofs.Store.Filter

/-!
# Filters as formulas

A filter made of tests of single cells reads as a formula: a list whose members must all pass is a
conjunction, one of which one must pass a disjunction. What it gives of a row is the cells that
satisfy the formula. That the lists are a pipe which ends early and a lookup in several results
cannot be told from that, nor how often or in what order their members come.
-/
namespace WideColumn.Store

/-- The part of a cell, in a row with the given key, that a compare filter looks at. -/
def Component.dataOf (key : Bytes) (cell : Cell) : Component → Bytes
  | row => key
  | family => cell.family
  | qualifier => cell.qualifier
  | value => cell.value

/-- All data of a row that a compare filter looks at. -/
def Component.dataIn (key : Bytes) (cells : List Cell) : Component → List Bytes
  | row => [key]
  | component => cells.map fun cell => component.dataOf key cell

/-- Whether a comparator does not fail on data. Only a regular expression may fail. -/
def Comparator.Searches [Pattern.Engine] (data : Bytes) : Comparator → Prop
  | regex pattern _ _ => ∃ found, Pattern.Engine.search pattern data = .ok found
  | _ => True

namespace Filter

/-! ## Formulas -/

section

variable [Pattern.Engine]

/-- The test that a filter which is no list makes of a cell. One that makes none lets it pass. -/
def test (key : Bytes) (cell : Cell) : Filter → Except Error Bool
  | compare component op comparator => passes op comparator (component.dataOf key cell)
  | columnPrefix reference => hasPrefix reference cell.qualifier
  | columnRange low lowInclusive high highInclusive =>
    inRange low lowInclusive high highInclusive cell.qualifier
  | keyOnly | firstKeyOnly | list .. => .ok true

mutual

/-- Whether a cell satisfies a filter, as a formula over the tests of its leaves. -/
def holds (key : Bytes) (cell : Cell) : Filter → Bool
  | list .mustPassAll members => allHold key cell members
  | list .mustPassOne members => anyHolds key cell members
  | leaf => passed (leaf.test key cell)

/-- Whether a cell satisfies all of several filters. -/
def allHold (key : Bytes) (cell : Cell) : List Filter → Bool
  | [] => true
  | member :: rest => holds key cell member && allHold key cell rest

/-- Whether a cell satisfies one of several filters. -/
def anyHolds (key : Bytes) (cell : Cell) : List Filter → Bool
  | [] => false
  | member :: rest => holds key cell member || anyHolds key cell rest

end

/-- A list whose members must all pass is a conjunction. -/
@[simp] theorem holds_mustPassAll (key : Bytes) (cell : Cell) (members : List Filter) :
    (list .mustPassAll members).holds key cell =
      members.all fun member => member.holds key cell := by
  rw [holds]
  induction members with
  | nil => rfl
  | cons member rest ih => rw [allHold, ih, List.all_cons]

/-- A list of which one member must pass is a disjunction. -/
@[simp] theorem holds_mustPassOne (key : Bytes) (cell : Cell) (members : List Filter) :
    (list .mustPassOne members).holds key cell =
      members.any fun member => member.holds key cell := by
  rw [holds]
  induction members with
  | nil => rfl
  | cons member rest ih => rw [anyHolds, ih, List.any_cons]

/-- The cells that satisfy a filter as a formula. -/
def satisfying (filter : Filter) (key : Bytes) (cells : List Cell) : List Cell :=
  cells.filter fun cell => filter.holds key cell

end

/-- A bound of columns, as it is asked for: absent, or bytes that are ordered. -/
inductive IsBound : Value → Prop
  /-- No bound. -/
  | absent : IsBound .none
  /-- Bytes. -/
  | fixed (data : Bytes) : IsBound (.bytes .fixed data)
  /-- Bytes that may be changed in place. -/
  | buffer (data : Bytes) : IsBound (.bytes .buffer data)

/-- A filter that tests each cell on its own, with references of the kinds that are asked for. -/
inductive IsTest : Filter → Prop
  /-- A comparison. -/
  | compare (component : Component) (op : CompareOp) (comparator : Comparator) :
    IsTest (.compare component op comparator)
  /-- A prefix of qualifiers. -/
  | columnPrefix (form : ByteForm) (reference : Bytes) :
    IsTest (.columnPrefix (.bytes form reference))
  /-- A range of qualifiers. -/
  | columnRange {low high : Value} (lowInclusive highInclusive : Bool) (starts : IsBound low)
    (stops : IsBound high) : IsTest (.columnRange low lowInclusive high highInclusive)

/-- Whether no regular expression of a filter that is no list fails on a row. -/
def Searches [Pattern.Engine] (key : Bytes) (cells : List Cell) : Filter → Prop
  | compare component _ comparator =>
    ∀ data ∈ component.dataIn key cells, comparator.Searches data
  | _ => True

/-- A filter that is made of such tests by lists. -/
def IsFormula (filter : Filter) : Prop := ∀ leaf ∈ filter.leaves, leaf.IsTest

/-- Whether no regular expression of a filter fails on a row. -/
def RunsOn [Pattern.Engine] (key : Bytes) (cells : List Cell) (filter : Filter) : Prop :=
  ∀ leaf ∈ filter.leaves, leaf.Searches key cells

/-- A filter with the members of its lists put in another order, listed more than once, or listed
in place of a member that is a list of them under the same operator. -/
inductive Rearranges : Filter → Filter → Prop
  /-- Nothing is done. -/
  | refl (filter : Filter) : Rearranges filter filter
  /-- It is undone. -/
  | symm {one other : Filter} (done : Rearranges one other) : Rearranges other one
  /-- More is done. -/
  | trans {one other last : Filter} (done : Rearranges one other) (more : Rearranges other last) :
    Rearranges one last
  /-- Members come in another order. -/
  | permute (operator : ListOperator) {members others : List Filter} (same : members.Perm others) :
    Rearranges (.list operator members) (.list operator others)
  /-- A member is listed once more. -/
  | duplicate (operator : ListOperator) {member : Filter} {members : List Filter}
    (listed : member ∈ members) :
    Rearranges (.list operator members) (.list operator (member :: members))
  /-- The members of a member are listed in its place. -/
  | flatten (operator : ListOperator) (before inner after : List Filter) :
    Rearranges (.list operator (before ++ .list operator inner :: after))
      (.list operator (before ++ inner ++ after))
  /-- It is done to a member. -/
  | inside (operator : ListOperator) (before after : List Filter) {member other : Filter}
    (done : Rearranges member other) :
    Rearranges (.list operator (before ++ member :: after))
      (.list operator (before ++ other :: after))

/-- On a row, a filter does what it says as a formula. -/
structure ActsAsFormula [Pattern.Engine] (filter : Filter) (key : Bytes) (cells : List Cell) :
    Prop where
  /-- What it gives is the cells that satisfy it, in their order. -/
  exact : ∀ kept, filter.apply key cells = .ok kept → kept = filter.satisfying key cells
  /-- It gives them if no regular expression fails. -/
  returns : filter.RunsOn key cells →
    filter.apply key cells = .ok (filter.satisfying key cells)
  /-- Applied to what it gives, it gives the same. -/
  twice : ∀ kept, filter.apply key cells = .ok kept → filter.apply key kept = .ok kept
  /-- Rearranged, it gives the same, where both give something. -/
  alike : ∀ other, Rearranges filter other → ∀ kept others, filter.apply key cells = .ok kept →
    other.apply key cells = .ok others → others = kept
  /-- Rearranged, it gives the same if no regular expression fails. -/
  rearranged : ∀ other, Rearranges filter other → filter.RunsOn key cells →
    other.apply key cells = filter.apply key cells

/-! ## Leaves -/

/-- A comparison does not fail where no regular expression does. -/
theorem passes_ok [Pattern.Engine] (op : CompareOp) {comparator : Comparator} {data : Bytes}
    (searches : comparator.Searches data) : ∃ verdict, passes op comparator data = .ok verdict := by
  cases comparator with
  | regex pattern charset cache =>
    obtain ⟨found, searched⟩ := searches
    exact ⟨op.accepts (Comparator.ofMatch found), by
      simp only [passes, Comparator.compareTo, searched, Except.map]⟩
  | _ => exact ⟨_, rfl⟩

/-- A bound of the kind that is asked for decides about every qualifier. -/
theorem withinBound_ok (op : CompareOp) (comparison : String) (qualifier : Bytes) {bound : Value}
    (bounds : IsBound bound) :
    ∃ inside, withinBound op comparison qualifier bound = .ok inside := by
  cases bounds with
  | absent => exact ⟨_, rfl⟩
  | fixed => exact ⟨_, rfl⟩
  | buffer => exact ⟨_, rfl⟩

/-- A range with such bounds decides about every qualifier. -/
theorem inRange_ok {low high : Value} (lowInclusive highInclusive : Bool) (starts : IsBound low)
    (stops : IsBound high) (qualifier : Bytes) :
    ∃ inside, inRange low lowInclusive high highInclusive qualifier = .ok inside := by
  rw [inRange_eq, withinColumns]
  obtain ⟨after, above⟩ :=
    withinBound_ok (if lowInclusive then .greaterOrEqual else .greater) "<" qualifier starts
  rw [above]
  cases after with
  | false => exact ⟨false, rfl⟩
  | true => exact withinBound_ok _ ">" qualifier stops

/-- Cells among those that a test keeps some of are kept if they pass it. -/
theorem keep_part {test : Cell → Except Error Bool} {cells kept part : List Cell}
    (done : keep test cells = .ok kept) (among : part.Sublist cells) :
    keep test part = .ok (part.filter fun cell => passed (test cell)) :=
  keep_eq_ok.2 ⟨fun cell listed => (keep_eq_ok.1 done).1 cell (among.subset listed), rfl⟩

section

variable [Pattern.Engine]

/-- A cell satisfies a test of single cells if it passes the test. -/
theorem IsTest.holds {leaf : Filter} (tests : leaf.IsTest) (key : Bytes) (cell : Cell) :
    leaf.holds key cell = passed (leaf.test key cell) := by
  cases tests with
  | compare => rfl
  | columnPrefix => rfl
  | columnRange => rfl

/-- A test of single cells does on part of a row what it does on the row. -/
theorem IsTest.apply_part {leaf : Filter} (tests : leaf.IsTest) {key : Bytes}
    {cells kept part : List Cell} (done : leaf.apply key cells = .ok kept)
    (among : part.Sublist cells) : leaf.apply key part = .ok (leaf.satisfying key part) := by
  cases tests with
  | compare component op comparator =>
    cases component with
    | row =>
      obtain ⟨verdict, compared, -⟩ := Except.bind_eq_ok.1 done
      refine Except.bind_eq_ok.2 ⟨verdict, compared, congrArg Except.ok ?_⟩
      have same (cell : Cell) : (Filter.compare .row op comparator).holds key cell = verdict := by
        rw [IsTest.holds (.compare .row op comparator), test, Component.dataOf, compared, passed]
      unfold satisfying
      simp only [same]
      cases verdict <;> simp
    | _ => exact keep_part done among
  | columnPrefix form reference => exact keep_part done among
  | columnRange lowInclusive highInclusive starts stops => exact keep_part done among

/-- A test of single cells gives something of a row on which no regular expression fails. -/
theorem IsTest.exists_apply {leaf : Filter} (tests : leaf.IsTest) {key : Bytes} {cells : List Cell}
    (searches : leaf.Searches key cells) : ∃ kept, leaf.apply key cells = .ok kept := by
  cases tests with
  | compare component op comparator =>
    have answers : ∀ data ∈ component.dataIn key cells,
        ∃ verdict, passes op comparator data = .ok verdict :=
      fun data listed => passes_ok op (searches data listed)
    cases component with
    | row =>
      obtain ⟨verdict, compared⟩ := answers key (List.mem_singleton.2 rfl)
      exact ⟨_, Except.bind_eq_ok.2 ⟨verdict, compared, rfl⟩⟩
    | _ => exact ⟨_, keep_eq_ok.2 ⟨fun cell listed => answers _ (List.mem_map_of_mem listed), rfl⟩⟩
  | columnPrefix form reference => exact ⟨_, keep_eq_ok.2 ⟨fun cell _ => ⟨_, rfl⟩, rfl⟩⟩
  | columnRange lowInclusive highInclusive starts stops =>
    exact ⟨_, keep_eq_ok.2
      ⟨fun cell _ => inRange_ok lowInclusive highInclusive starts stops cell.qualifier, rfl⟩⟩

/-! ## Trees -/

end

/-- The members of a formula are formulas. -/
theorem IsFormula.member {operator : ListOperator} {members : List Filter}
    (formula : (list operator members).IsFormula) {member : Filter} (listed : member ∈ members) :
    member.IsFormula :=
  fun leaf of_member => formula leaf (mem_leaves_list.2 ⟨member, listed, of_member⟩)

/-- The union of what several tests leave of distinct cells is the cells that pass one of them. -/
theorem union_filter [Pattern.Engine] {cells : List Cell} (distinct : Distinct cells)
    (members : List Filter) (key : Bytes) :
    union cells (members.map fun member => member.satisfying key cells) =
      (list .mustPassOne members).satisfying key cells := by
  unfold union satisfying
  rw [← List.filterMap_eq_filter]
  refine List.filterMap_congr fun cell listed => ?_
  rw [List.findSome?_map, Option.guard, holds_mustPassOne]
  induction members with
  | nil => rfl
  | cons member rest ih =>
    rw [List.findSome?_cons, List.any_cons, ih, Function.comp, lastAt_filter distinct _ listed]
    cases member.holds key cell <;> rfl

section

variable [Pattern.Engine]

/-- Where each member gives what satisfies it, a list of which one must pass does. -/
theorem apply_mustPassOne {key : Bytes} {cells : List Cell} {members : List Filter}
    (distinct : Distinct cells)
    (each : ∀ member ∈ members, member.apply key cells = .ok (member.satisfying key cells)) :
    (list .mustPassOne members).apply key cells =
      .ok ((list .mustPassOne members).satisfying key cells) := by
  have results : applyEach key cells members =
      .ok (members.map fun member => member.satisfying key cells) := by
    rw [applyEach_eq_ok, List.forall₂_map_right_iff, List.forall₂_same]
    exact each
  refine Except.bind_eq_ok.2 ⟨_, results, congrArg Except.ok ?_⟩
  exact union_filter distinct members key

/-- Where each member does on part of a row what it does on the row, so do all in turn. -/
theorem applyAll_part {key : Bytes} {members : List Filter}
    (each : ∀ member ∈ members, ∀ cells kept, Distinct cells →
      member.apply key cells = .ok kept → ∀ part, part.Sublist cells →
        member.apply key part = .ok (member.satisfying key part))
    {cells kept : List Cell} (distinct : Distinct cells)
    (done : applyAll key cells members = .ok kept) {part : List Cell}
    (among : part.Sublist cells) :
    applyAll key part members = .ok ((list .mustPassAll members).satisfying key part) := by
  induction members generalizing cells part with
  | nil =>
    rw [satisfying]
    simp [applyAll]
  | cons member rest ih =>
    obtain ⟨here, later⟩ := List.forall_mem_cons.1 each
    obtain ⟨first, applied, ending⟩ := applyAll_cons_eq_ok.1 done
    obtain rfl : first = member.satisfying key cells :=
      Except.ok.inj (applied.symm.trans (here cells first distinct applied cells (.refl cells)))
    have split : (list .mustPassAll (member :: rest)).satisfying key part =
        (list .mustPassAll rest).satisfying key (member.satisfying key part) := by
      simp only [satisfying, List.filter_filter, holds_mustPassAll, List.all_cons, Bool.and_comm]
    have still_among : (member.satisfying key part).Sublist (member.satisfying key cells) :=
      among.filter _
    rw [split]
    refine applyAll_cons_eq_ok.2 ⟨_, here cells _ distinct applied part among, ?_⟩
    by_cases none_left : member.satisfying key part = []
    · rw [none_left]
      exact .inl ⟨rfl, rfl⟩
    · refine .inr ⟨none_left, ?_⟩
      rcases ending with ⟨none_at_all, -⟩ | ⟨-, more⟩
      · rw [none_at_all] at still_among
        exact absurd (List.sublist_nil.1 still_among) none_left
      · exact ih later (distinct.sublist List.filter_sublist) more still_among

/-- A filter that gives something of a row gives of every part of it what satisfies the formula. -/
theorem apply_part {filter : Filter} (formula : filter.IsFormula) (key : Bytes) :
    ∀ cells kept, Distinct cells → filter.apply key cells = .ok kept →
      ∀ part, part.Sublist cells → filter.apply key part = .ok (filter.satisfying key part) := by
  induction filter using tree_induction with
  | list operator members ih =>
    intro cells kept distinct done part among
    have each := fun member listed => ih member listed (formula.member listed)
    cases operator with
    | mustPassAll => exact applyAll_part each distinct done among
    | mustPassOne =>
      obtain ⟨results, applied, -⟩ := Except.bind_eq_ok.1 done
      refine apply_mustPassOne (distinct.sublist among) fun member listed => ?_
      obtain ⟨gives, -, here⟩ := (results_of_members applied).1 member listed
      exact each member listed cells gives distinct here part among
  | _ => exact fun cells kept _ done part among =>
      (formula _ (List.mem_singleton.2 rfl)).apply_part done among

/-- What a filter gives of a row satisfies the formula. -/
theorem eq_satisfying {filter : Filter} (formula : filter.IsFormula) {key : Bytes}
    {cells kept : List Cell} (distinct : Distinct cells)
    (done : filter.apply key cells = .ok kept) : kept = filter.satisfying key cells :=
  Except.ok.inj (done.symm.trans
    (apply_part formula key cells kept distinct done cells (.refl cells)))

/-- Members give something in turn of a row of which all their leaves do. -/
theorem exists_applyAll {key : Bytes} {members : List Filter}
    (formulas : ∀ member ∈ members, member.IsFormula)
    (each : ∀ member ∈ members, ∀ cells, Distinct cells →
      (∀ leaf ∈ member.leaves, ∃ kept, leaf.apply key cells = .ok kept) →
        ∃ kept, member.apply key cells = .ok kept)
    {cells : List Cell} (distinct : Distinct cells)
    (answers : ∀ member ∈ members, ∀ leaf ∈ member.leaves,
      ∃ kept, leaf.apply key cells = .ok kept) :
    ∃ kept, applyAll key cells members = .ok kept := by
  induction members generalizing cells with
  | nil => exact ⟨cells, rfl⟩
  | cons member rest ih =>
    obtain ⟨formula, formulas⟩ := List.forall_mem_cons.1 formulas
    obtain ⟨here, later⟩ := List.forall_mem_cons.1 each
    obtain ⟨answers_here, answers_later⟩ := List.forall_mem_cons.1 answers
    obtain ⟨first, applied⟩ := here cells distinct answers_here
    by_cases none_left : first = []
    · exact ⟨[], applyAll_cons_eq_ok.2 ⟨first, applied, .inl ⟨none_left, rfl⟩⟩⟩
    · have among : first.Sublist cells := by
        rw [eq_satisfying formula distinct applied]
        exact List.filter_sublist
      -- The leaves of later members see part of the row only, and answer on it as well.
      have answers_first : ∀ other ∈ rest, ∀ leaf ∈ other.leaves,
          ∃ kept, leaf.apply key first = .ok kept := by
        intro other listed leaf of_other
        obtain ⟨kept, answered⟩ := answers_later other listed leaf of_other
        exact ⟨_, (formulas other listed leaf of_other).apply_part answered among⟩
      obtain ⟨kept, more⟩ := ih formulas later (distinct.sublist among) answers_first
      exact ⟨kept, applyAll_cons_eq_ok.2 ⟨first, applied, .inr ⟨none_left, more⟩⟩⟩

/-- A filter gives something of a row of which each of its leaves does. -/
theorem exists_apply {filter : Filter} (formula : filter.IsFormula) (key : Bytes) :
    ∀ cells, Distinct cells → (∀ leaf ∈ filter.leaves, ∃ kept, leaf.apply key cells = .ok kept) →
      ∃ kept, filter.apply key cells = .ok kept := by
  induction filter using tree_induction with
  | list operator members ih =>
    intro cells distinct answers
    have formulas : ∀ member ∈ members, member.IsFormula := fun _ => formula.member
    have each := fun member listed => ih member listed (formulas member listed)
    have answers_each : ∀ member ∈ members, ∀ leaf ∈ member.leaves,
        ∃ kept, leaf.apply key cells = .ok kept := fun member listed leaf of_member =>
      answers leaf (mem_leaves_list.2 ⟨member, listed, of_member⟩)
    cases operator with
    | mustPassAll => exact exists_applyAll formulas each distinct answers_each
    | mustPassOne =>
      refine ⟨_, apply_mustPassOne distinct fun member listed => ?_⟩
      obtain ⟨kept, applied⟩ := each member listed cells distinct (answers_each member listed)
      rw [applied, eq_satisfying (formulas member listed) distinct applied]
  | _ => exact fun _ _ answers => answers _ (List.mem_singleton.2 rfl)

end

/-! ## Rearrangement -/

/-- A cell satisfies a filter however it is rearranged. -/
theorem Rearranges.holds [Pattern.Engine] {filter other : Filter}
    (done : Rearranges filter other) (key : Bytes) (cell : Cell) :
    filter.holds key cell = other.holds key cell := by
  induction done with
  | refl => rfl
  | symm _ ih => exact ih.symm
  | trans _ _ ih more => exact ih.trans more
  | permute operator same =>
    cases operator with
    | mustPassAll => rw [holds_mustPassAll, holds_mustPassAll, same.all_eq]
    | mustPassOne => rw [holds_mustPassOne, holds_mustPassOne, same.any_eq]
  | @duplicate operator member members listed =>
    cases operator with
    | mustPassAll =>
      rw [holds_mustPassAll, holds_mustPassAll, List.all_cons, Bool.eq_iff_iff, Bool.and_eq_true]
      exact ⟨fun all => ⟨List.all_eq_true.1 all member listed, all⟩, And.right⟩
    | mustPassOne =>
      rw [holds_mustPassOne, holds_mustPassOne, List.any_cons, Bool.eq_iff_iff, Bool.or_eq_true]
      exact ⟨.inr, fun one => one.elim (fun here => List.any_eq_true.2 ⟨member, listed, here⟩) id⟩
  | flatten operator before inner after =>
    cases operator with
    | mustPassAll => simp
    | mustPassOne => simp
  | inside operator before after _ ih =>
    cases operator with
    | mustPassAll => simp [ih]
    | mustPassOne => simp [ih]

/-- A filter has the same leaves however it is rearranged. -/
theorem Rearranges.mem_leaves {filter other : Filter} (done : Rearranges filter other)
    {leaf : Filter} : leaf ∈ filter.leaves ↔ leaf ∈ other.leaves := by
  induction done with
  | refl => rfl
  | symm _ ih => exact ih.symm
  | trans _ _ ih more => exact ih.trans more
  | permute operator same => simp [same.mem_iff]
  | @duplicate operator member members listed =>
    simp only [mem_leaves_list, List.mem_cons, or_and_right, exists_or, exists_eq_left,
      iff_or_self]
    exact fun of_member => ⟨member, listed, of_member⟩
  | flatten operator before inner after =>
    simp only [mem_leaves_list, List.mem_append, List.mem_cons, or_and_right, exists_or,
      exists_eq_left, or_assoc]
  | inside operator before after _ ih => simp [ih, or_and_right, exists_or]

/-! ## Rows -/

/-- On a row in which no coordinate comes twice, a filter made of tests of single cells, by lists of
either kind and to any depth, does what it says as a formula. -/
theorem acts_as_formula [Pattern.Engine] {filter : Filter} (formula : filter.IsFormula)
    (key : Bytes) {cells : List Cell} (distinct : Distinct cells) :
    filter.ActsAsFormula key cells := by
  have returns {one : Filter} (formula : one.IsFormula) (runs : one.RunsOn key cells) :
      one.apply key cells = .ok (one.satisfying key cells) := by
    have answers : ∀ leaf ∈ one.leaves, ∃ kept, leaf.apply key cells = .ok kept :=
      fun leaf listed => (formula leaf listed).exists_apply (runs leaf listed)
    obtain ⟨kept, applied⟩ := exists_apply formula key cells distinct answers
    rw [applied, eq_satisfying formula distinct applied]
  have formula_of {other : Filter} (done : Rearranges filter other) : other.IsFormula :=
    fun leaf listed => formula leaf (done.mem_leaves.2 listed)
  have same {other : Filter} (done : Rearranges filter other) :
      other.satisfying key cells = filter.satisfying key cells := by
    simp only [satisfying, done.holds]
  constructor
  · exact fun kept applied => eq_satisfying formula distinct applied
  · exact returns formula
  · intro kept applied
    obtain rfl := eq_satisfying formula distinct applied
    have again : filter.satisfying key (filter.satisfying key cells) =
        filter.satisfying key cells := by
      simp only [satisfying, List.filter_filter, Bool.and_self]
    have part : (filter.satisfying key cells).Sublist cells := List.filter_sublist
    rw [apply_part formula key cells _ distinct applied _ part, again]
  · intro other done kept others applied applied_other
    rw [eq_satisfying formula distinct applied, ← same done]
    exact eq_satisfying (formula_of done) distinct applied_other
  · intro other done runs
    have runs_other : other.RunsOn key cells :=
      fun leaf listed => runs leaf (done.mem_leaves.2 listed)
    rw [returns formula runs, returns (formula_of done) runs_other, same done]

/-- Columns before `c` that begin with `b` or whose values begin with `a`. -/
def lettersBeforeC : Filter :=
  .list .mustPassAll [
    .list .mustPassOne [.columnPrefix (.raw [98]),
      .compare .value .equal (.regex [94, 97] (.string "utf-8") .empty)],
    .columnRange .none true (.raw [99]) false]

/-- The cells of a row with the columns `a`, `b`, `bb` and `c`. -/
def lettered : List Cell :=
  [⟨[107], [102], [97], [97, 97], 1⟩, ⟨[107], [102], [98], [98], 2⟩,
    ⟨[107], [102], [98, 98], [97], 3⟩, ⟨[107], [102], [99], [97], 4⟩]

/-- The first three columns stay. -/
theorem acts_as_formula_lettersBeforeC :
    lettersBeforeC.IsFormula ∧ Distinct lettered ∧ lettersBeforeC.ActsAsFormula [107] lettered ∧
      lettersBeforeC.RunsOn [107] lettered ∧
      lettersBeforeC.apply [107] lettered = .ok (lettered.take 3) := by
  have formula : lettersBeforeC.IsFormula :=
    List.forall_mem_cons.2 ⟨.columnPrefix .fixed [98], List.forall_mem_cons.2
      ⟨.compare .value .equal _, List.forall_mem_singleton.2
        (.columnRange true false .absent (.fixed [99]))⟩⟩
  have distinct : Distinct lettered := by unfold Distinct; decide
  have finds : ∀ data ∈ Component.value.dataIn [107] lettered,
      ∃ found, Pattern.Engine.search [94, 97] data = .ok found := fun _ _ => ⟨_, rfl⟩
  have runs : lettersBeforeC.RunsOn [107] lettered :=
    List.forall_mem_cons.2 ⟨trivial, List.forall_mem_cons.2 ⟨finds,
      List.forall_mem_singleton.2 trivial⟩⟩
  have acts := acts_as_formula formula [107] distinct
  have first_three : lettersBeforeC.satisfying [107] lettered = lettered.take 3 := by
    decide +kernel
  exact ⟨formula, distinct, acts, runs, (acts.returns runs).trans (congrArg _ first_three)⟩

end Filter
end WideColumn.Store
