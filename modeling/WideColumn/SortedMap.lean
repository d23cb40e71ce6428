/-!
# Sorted maps

A finite map as a list of entries in strictly increasing order of keys. The order is part of the
type, so two maps with the same entries are the same map, and reading all entries needs no sorting.
Each operation is one pass over the list and has laws that say what a look-up finds afterwards.
-/
namespace WideColumn

/-- Entries in strictly increasing order of keys. -/
def StrictlySorted [Ord α] (entries : List (α × β)) : Prop :=
  entries.Pairwise fun a b => compare a.1 b.1 = .lt

/-- A finite map, sorted by key. -/
structure SortedMap (α : Type) (β : Type) [Ord α] where
  /-- The entries. -/
  entries : List (α × β)
  /-- The keys strictly increase. -/
  sorted : StrictlySorted entries

namespace SortedMap

variable {α : Type} {β : Type} {γ : Type} [Ord α]

/-- The value at a key. -/
def findIn (key : α) : List (α × β) → Option β
  | [] => none
  | (other, value) :: rest => if compare key other = .eq then some value else findIn key rest

/-- Put a value at a key, replacing what stood there. -/
def insertIn (key : α) (value : β) : List (α × β) → List (α × β)
  | [] => [(key, value)]
  | (other, old) :: rest =>
    match compare key other with
    | .lt => (key, value) :: (other, old) :: rest
    | .eq => (key, value) :: rest
    | .gt => (other, old) :: insertIn key value rest

/-- The keys after an insertion are the old keys and the new one. -/
theorem mem_insertIn {key : α} {value : β} {entries : List (α × β)} {entry : α × β}
    (h : entry ∈ insertIn key value entries) : entry = (key, value) ∨ entry ∈ entries := by
  induction entries with
  | nil => simpa [insertIn] using h
  | cons head rest ih =>
    obtain ⟨other, old⟩ := head
    simp only [insertIn] at h
    split at h
    · simpa using h
    · rcases List.mem_cons.1 h with h | h
      · exact .inl h
      · exact .inr (List.mem_cons_of_mem _ h)
    · rcases List.mem_cons.1 h with h | h
      · exact .inr (h ▸ List.mem_cons_self)
      · exact (ih h).imp_right (List.mem_cons_of_mem _)

variable [Std.TransOrd α] [Std.LawfulEqOrd α]

/-- Insertion keeps the keys strictly increasing. -/
theorem sorted_insertIn (key : α) (value : β) {entries : List (α × β)}
    (sorted : StrictlySorted entries) : StrictlySorted (insertIn key value entries) := by
  induction entries with
  | nil => exact List.pairwise_singleton _ _
  | cons head rest ih =>
    obtain ⟨other, old⟩ := head
    obtain ⟨first, others⟩ := List.pairwise_cons.1 sorted
    simp only [insertIn]
    split
    · rename_i before
      refine List.pairwise_cons.2 ⟨fun entry member => ?_, sorted⟩
      rcases List.mem_cons.1 member with rfl | member
      · exact before
      · exact Std.TransCmp.lt_trans before (first entry member)
    · rename_i same
      obtain rfl := Std.LawfulEqOrd.eq_of_compare same
      exact List.pairwise_cons.2 ⟨first, others⟩
    · rename_i after
      refine List.pairwise_cons.2 ⟨fun entry member => ?_, ih others⟩
      rcases mem_insertIn member with rfl | member
      · exact Std.OrientedCmp.lt_of_gt after
      · exact first entry member

/-- The map without entries. -/
def empty : SortedMap α β := ⟨[], List.Pairwise.nil⟩

instance : Inhabited (SortedMap α β) := ⟨empty⟩

/-- The value at a key. -/
def get? (map : SortedMap α β) (key : α) : Option β := findIn key map.entries

/-- Whether a key has a value. -/
def contains (map : SortedMap α β) (key : α) : Bool := (map.get? key).isSome

/-- Put a value at a key, replacing what stood there. -/
def insert (map : SortedMap α β) (key : α) (value : β) : SortedMap α β :=
  ⟨insertIn key value map.entries, sorted_insertIn key value map.sorted⟩

/-- Keep the entries that pass a test. -/
def filter (map : SortedMap α β) (test : α → β → Bool) : SortedMap α β :=
  ⟨map.entries.filter fun (key, value) => test key value, map.sorted.sublist List.filter_sublist⟩

/-- Remove a key. -/
def erase (map : SortedMap α β) (key : α) : SortedMap α β :=
  map.filter fun other _ => compare key other != .eq

/-- Whether no key has a value. -/
def isEmpty (map : SortedMap α β) : Bool := map.entries.isEmpty

/-- The keys in order. -/
def keys (map : SortedMap α β) : List α := map.entries.map (·.1)

omit [Std.TransOrd α] [Std.LawfulEqOrd α] in
/-- Maps with the same entries are equal. -/
theorem ext_entries {a b : SortedMap α β} (h : a.entries = b.entries) : a = b := by
  cases a
  cases b
  cases h
  rfl

omit [Std.TransOrd α] in
/-- A look-up in a list with an entry inserted. -/
theorem findIn_insertIn (key : α) (value : β) (other : α) (entries : List (α × β)) :
    findIn other (insertIn key value entries) =
      if compare other key = .eq then some value else findIn other entries := by
  induction entries with
  | nil => simp [insertIn, findIn]
  | cons head rest ih =>
    obtain ⟨third, old⟩ := head
    simp only [insertIn]
    split
    · simp [findIn]
    · rename_i same
      obtain rfl := Std.LawfulEqOrd.eq_of_compare same
      by_cases h : compare other key = .eq <;> simp [findIn, h]
    · rename_i after
      by_cases h : compare other key = .eq
      · obtain rfl := Std.LawfulEqOrd.eq_of_compare h
        simp [findIn, ih, after]
      · by_cases i : compare other third = .eq <;> simp [findIn, ih, h, i]

/-- A look-up after an insertion. -/
theorem get?_insert (map : SortedMap α β) (key : α) (value : β) (other : α) :
    (map.insert key value).get? other =
      if compare other key = .eq then some value else map.get? other :=
  findIn_insertIn key value other map.entries

omit [Std.TransOrd α] in
/-- A look-up in a list without the entries of one key. -/
theorem findIn_filter_ne (key other : α) (entries : List (α × β)) :
    findIn other (entries.filter fun entry => compare key entry.1 != .eq) =
      if compare key other = .eq then none else findIn other entries := by
  induction entries with
  | nil => simp [findIn]
  | cons head rest ih =>
    obtain ⟨third, old⟩ := head
    by_cases k : compare key third = .eq
    · obtain rfl := Std.LawfulEqOrd.eq_of_compare k
      by_cases o : compare key other = .eq
      · simp [o, ih]
      · have p : compare other key ≠ .eq := fun p => by
          obtain rfl := Std.LawfulEqOrd.eq_of_compare p
          exact o k
        simp [o, ih, findIn, p]
    · by_cases o : compare key other = .eq
      · obtain rfl := Std.LawfulEqOrd.eq_of_compare o
        simp [k, ih, findIn]
      · simp [k, o, ih, findIn]

omit [Std.TransOrd α] in
/-- A look-up after a removal. -/
theorem get?_erase (map : SortedMap α β) (key other : α) :
    (map.erase key).get? other = if compare key other = .eq then none else map.get? other :=
  findIn_filter_ne key other map.entries

end SortedMap
end WideColumn
