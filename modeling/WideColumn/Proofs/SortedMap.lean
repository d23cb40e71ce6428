import WideColumn.SortedMap

/-!
# Laws of sorted maps

A sorted map is determined by its look-ups, so two ways to build a map agree as soon as every
look-up does. Changing what stands at one key covers insertion and removal alike: changes at
different keys commute, and changes at one key compose.
-/
namespace WideColumn.SortedMap

variable {α : Type} {β : Type} {γ : Type} [Ord α]

/-! ## Entries -/

/-- Nothing is found before the first key. -/
theorem findIn_eq_none {key : α} {entries : List (α × β)}
    (before : ∀ entry ∈ entries, compare key entry.1 = .lt) : findIn key entries = none := by
  induction entries with
  | nil => rfl
  | cons head rest ih =>
    obtain ⟨other, value⟩ := head
    have first : compare key other = .lt := before (other, value) List.mem_cons_self
    have others := ih fun entry present => before entry (List.mem_cons_of_mem _ present)
    simp only [findIn, first, others]
    rfl

variable [Std.TransOrd α] [Std.LawfulEqOrd α]

/-- Sorted entries are determined by what is found among them. -/
theorem entries_eq {left right : List (α × β)} (leftSorted : StrictlySorted left)
    (rightSorted : StrictlySorted right) (same : ∀ key, findIn key left = findIn key right) :
    left = right := by
  induction left generalizing right with
  | nil =>
    cases right with
    | nil => rfl
    | cons head rest =>
      have found := same head.1
      simp [findIn] at found
  | cons head rest ih =>
    obtain ⟨key, value⟩ := head
    obtain ⟨first, others⟩ := List.pairwise_cons.mp leftSorted
    cases right with
    | nil =>
      have found := same key
      simp [findIn] at found
    | cons head' rest' =>
      obtain ⟨key', value'⟩ := head'
      obtain ⟨first', others'⟩ := List.pairwise_cons.mp rightSorted
      have here := same key
      have there := same key'
      simp only [findIn, Std.ReflOrd.compare_self, ↓reduceIte] at here there
      cases order : compare key key' with
      | lt =>
        have missing : findIn key rest' = none := findIn_eq_none fun entry present =>
          Std.TransCmp.lt_trans order (first' entry present)
        simp [order, missing] at here
      | gt =>
        have order' := Std.OrientedCmp.lt_of_gt order
        have missing : findIn key' rest = none := findIn_eq_none fun entry present =>
          Std.TransCmp.lt_trans order' (first entry present)
        simp [order', missing] at there
      | eq =>
        obtain rfl := Std.LawfulEqOrd.eq_of_compare order
        simp only [order, ↓reduceIte, Option.some.injEq] at here
        obtain rfl := here
        congr 1
        apply ih others others'
        intro other
        have found := same other
        simp only [findIn] at found
        by_cases equal : compare other key = .eq
        · obtain rfl := Std.LawfulEqOrd.eq_of_compare equal
          rw [findIn_eq_none first, findIn_eq_none first']
        · simp only [equal, ↓reduceIte] at found
          exact found

omit [Std.TransOrd α] in
/-- What is found among the entries that pass a test. -/
theorem findIn_filter {entries : List (α × β)} (sorted : StrictlySorted entries)
    (test : α → β → Bool) (key : α) :
    findIn key (entries.filter fun entry => test entry.1 entry.2) =
      (findIn key entries).filter (test key) := by
  induction entries with
  | nil => rfl
  | cons head rest ih =>
    obtain ⟨other, value⟩ := head
    obtain ⟨first, others⟩ := List.pairwise_cons.mp sorted
    have later := ih others
    by_cases equal : compare key other = .eq
    · obtain rfl := Std.LawfulEqOrd.eq_of_compare equal
      rw [findIn_eq_none first] at later
      by_cases passes : test key value = true
      · simp [findIn, passes, Option.filter]
      · simp [findIn, passes, later, Option.filter]
    · by_cases passes : test other value = true
      · simp [findIn, passes, equal, later]
      · simp [findIn, passes, equal, later]

omit [Std.TransOrd α] [Std.LawfulEqOrd α] in
/-- What is found among changed values. -/
theorem findIn_map (change : β → γ) (key : α) (entries : List (α × β)) :
    findIn key (entries.map fun entry => (entry.1, change entry.2)) =
      (findIn key entries).map change := by
  induction entries with
  | nil => rfl
  | cons head rest ih =>
    simp only [List.map_cons, findIn, ih]
    split <;> rfl

omit [Std.TransOrd α] in
/-- What is found among sorted entries is what stands there under the key. -/
theorem findIn_eq_some_iff {entries : List (α × β)} (sorted : StrictlySorted entries) {key : α}
    {value : β} : findIn key entries = some value ↔ (key, value) ∈ entries := by
  induction entries with
  | nil => simp [findIn]
  | cons head rest ih =>
    obtain ⟨other, stands⟩ := head
    obtain ⟨first, others⟩ := List.pairwise_cons.mp sorted
    rw [List.mem_cons]
    by_cases equal : compare key other = .eq
    · obtain rfl := Std.LawfulEqOrd.eq_of_compare equal
      have absent : (key, value) ∉ rest := fun present => by
        have before := first (key, value) present
        rw [equal] at before
        cases before
      simp [findIn, absent, eq_comm]
    · have different : key ≠ other := fun same => by
        obtain rfl := same
        exact equal Std.ReflOrd.compare_self
      simp [findIn, equal, ih others, different]

/-! ## Look-ups -/

/-- Maps with the same look-ups are equal. -/
theorem ext_get? {left right : SortedMap α β} (same : ∀ key, left.get? key = right.get? key) :
    left = right :=
  ext_entries (entries_eq left.sorted right.sorted same)

omit [Std.TransOrd α] in
/-- A look-up among the entries that pass a test. -/
theorem get?_filter (map : SortedMap α β) (test : α → β → Bool) (key : α) :
    (map.filter test).get? key = (map.get? key).filter (test key) :=
  findIn_filter map.sorted test key

omit [Std.TransOrd α] in
/-- What is found in a map is what stands there under the key. -/
theorem get?_eq_some_iff (map : SortedMap α β) {key : α} {value : β} :
    map.get? key = some value ↔ (key, value) ∈ map.entries := findIn_eq_some_iff map.sorted

/-- A map is empty if nothing is found in it. -/
theorem isEmpty_iff (map : SortedMap α β) : map.isEmpty = true ↔ ∀ key, map.get? key = none := by
  constructor
  · intro empty key
    unfold get?
    rw [List.isEmpty_iff.mp empty]
    rfl
  · intro missing
    have same : map = empty := ext_get? missing
    rw [same]
    rfl

omit [Std.TransOrd α] [Std.LawfulEqOrd α] in
/-- Changing the values keeps the keys in order. -/
theorem sorted_map {entries : List (α × β)} (sorted : StrictlySorted entries) (change : β → γ) :
    StrictlySorted (entries.map fun entry => (entry.1, change entry.2)) :=
  List.pairwise_map.mpr sorted

/-- Change all values. -/
def map (change : β → γ) (map : SortedMap α β) : SortedMap α γ :=
  ⟨map.entries.map fun entry => (entry.1, change entry.2), sorted_map map.sorted change⟩

omit [Std.TransOrd α] [Std.LawfulEqOrd α] in
/-- A look-up among changed values. -/
theorem get?_map (change : β → γ) (map : SortedMap α β) (key : α) :
    (map.map change).get? key = (map.get? key).map change :=
  findIn_map change key map.entries

omit [Std.TransOrd α] [Std.LawfulEqOrd α] in
/-- Changing values leaves a map empty or not. -/
theorem isEmpty_map (change : β → γ) (map : SortedMap α β) :
    (map.map change).isEmpty = map.isEmpty := by
  unfold isEmpty
  exact List.isEmpty_map

/-! ## Changes at one key -/

/-- Change what stands at a key, if anything does. -/
def alter (map : SortedMap α β) (key : α) (change : Option β → Option β) : SortedMap α β :=
  match change (map.get? key) with
  | some value => map.insert key value
  | none => map.erase key

/-- A look-up of the key that was changed. -/
theorem get?_alter_self (map : SortedMap α β) (key : α) (change : Option β → Option β) :
    (map.alter key change).get? key = change (map.get? key) := by
  unfold alter
  cases changed : change (map.get? key) with
  | none => simp [get?_erase]
  | some value => simp [get?_insert]

/-- A look-up of another key. -/
theorem get?_alter_ne (map : SortedMap α β) {key other : α} (different : key ≠ other)
    (change : Option β → Option β) : (map.alter key change).get? other = map.get? other := by
  have apart : compare key other ≠ .eq := fun same =>
    different (Std.LawfulEqOrd.eq_of_compare same)
  have apart' : compare other key ≠ .eq := fun same =>
    different (Std.LawfulEqOrd.eq_of_compare same).symm
  unfold alter
  cases changed : change (map.get? key) with
  | none => simp [get?_erase, apart]
  | some value => simp [get?_insert, apart']

/-- A map is what a change makes of another if the look-ups say so. -/
theorem eq_alter {map altered : SortedMap α β} {key : α} {change : Option β → Option β}
    (here : altered.get? key = change (map.get? key))
    (elsewhere : ∀ other, key ≠ other → altered.get? other = map.get? other) :
    altered = map.alter key change := by
  apply ext_get?
  intro other
  by_cases same : key = other
  · subst same
    rw [here, get?_alter_self]
  · rw [elsewhere other same, get?_alter_ne map same]

/-- Insertion is a change at its key. -/
theorem insert_eq_alter (map : SortedMap α β) (key : α) (value : β) :
    map.insert key value = map.alter key fun _ => some value := rfl

/-- Removal is a change at its key. -/
theorem erase_eq_alter (map : SortedMap α β) (key : α) :
    map.erase key = map.alter key fun _ => none := rfl

/-- A change that leaves what it finds leaves the map. -/
theorem alter_unchanged (map : SortedMap α β) {key : α} {change : Option β → Option β}
    (unchanged : change (map.get? key) = map.get? key) : map.alter key change = map :=
  (eq_alter unchanged.symm fun _ _ => rfl).symm

/-- Changes that agree on what they find give the same map. -/
theorem alter_congr (map : SortedMap α β) {key : α} {change other : Option β → Option β}
    (same : change (map.get? key) = other (map.get? key)) :
    map.alter key change = map.alter key other := by
  unfold alter
  rw [same]

/-- Changes at one key compose. -/
theorem alter_alter (map : SortedMap α β) (key : α) (first second : Option β → Option β) :
    (map.alter key first).alter key second = map.alter key fun value => second (first value) := by
  apply eq_alter
  · rw [get?_alter_self, get?_alter_self]
  · intro other different
    rw [get?_alter_ne _ different, get?_alter_ne _ different]

/-- Changes at different keys commute. -/
theorem alter_comm (map : SortedMap α β) {key other : α} (different : key ≠ other)
    (first second : Option β → Option β) :
    (map.alter key first).alter other second = (map.alter other second).alter key first := by
  apply eq_alter
  · rw [get?_alter_ne _ different.symm, get?_alter_self, get?_alter_ne _ different.symm]
  · intro third apart
    by_cases same : other = third
    · subst same
      rw [get?_alter_self, get?_alter_self, get?_alter_ne _ different]
    · rw [get?_alter_ne _ same, get?_alter_ne _ apart, get?_alter_ne _ same]

/-- Changing the values after a change at one key. -/
theorem map_alter (convert : β → γ) (map : SortedMap α β) (key : α)
    {change : Option β → Option β} {changed : Option γ → Option γ}
    (same : (change (map.get? key)).map convert = changed ((map.get? key).map convert)) :
    (map.alter key change).map convert = (map.map convert).alter key changed := by
  apply eq_alter
  · rw [get?_map, get?_map, get?_alter_self, same]
  · intro other different
    rw [get?_map, get?_map, get?_alter_ne _ different]

end WideColumn.SortedMap
