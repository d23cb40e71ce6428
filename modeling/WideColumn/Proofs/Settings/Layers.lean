import Mathlib.Data.List.Basic
import WideColumn.Settings.Layers

/-!
# Names in layers of settings

Each name of a layer is filed at the top under the first part of its path, without regard to case.
What is filed under one name has nothing to do with what is filed under another: the settings of
some names are the same whether the others are merged with them or left out from the start.
-/
namespace WideColumn

/-! ## Names at the top -/

namespace Text

/-- The name at the top that a name is filed under. -/
def top (name : Text) : Text := (name.pathParts.headD []).upper

/-- Every name has a first part. -/
theorem pathParts_ne_nil (name : Text) : name.pathParts ≠ [] := by
  fun_cases pathParts name <;> simp_all

end Text

namespace Entries

variable {α : Type} {entries done layer : Entries} {named : List (Text × α)} {name x : Text}
  {value : Value} {p : Text → Bool}

/-- A name is put under its first part. -/
theorem assign_eq : entries.assign name value =
    entries.put name.top (((entries.lookup name.top).getD .none).overlay
      (value.atPath name.pathParts.tail)) := by
  unfold assign Text.top
  cases shape : name.pathParts with
  | nil => exact absurd shape name.pathParts_ne_nil
  | cons first rest => rfl

/-! ## Some names alone -/

/-- What has a name of some kind. -/
def keep (p : Text → Bool) (named : List (Text × α)) : List (Text × α) :=
  named.filter fun entry => p entry.1

theorem keep_cons {entry : Text × α} : keep p (entry :: named) =
    if p entry.1 then entry :: keep p named else keep p named := List.filter_cons

/-- Two conditions on names can be taken in either order. -/
theorem keep_comm (p q : Text → Bool) : keep q (keep p named) = keep p (keep q named) := by
  simp only [keep, List.filter_filter, Bool.and_comm]

/-- What is put under a name is kept if the name is, and is left out otherwise. -/
theorem keep_put : keep p (entries.put name value) =
    if p name then put name value (keep p entries) else keep p entries := by
  induction entries with
  | nil => exact keep_cons
  | cons entry rest ih =>
    obtain ⟨known, old⟩ := entry
    by_cases same : known = name
    · subst same
      simp only [put, if_true, keep_cons]
      split <;> simp [put]
    · simp only [put, same, if_false, keep_cons, ih]
      split <;> split <;> simp [put, same]

/-- A name that is kept stands for what it did. -/
theorem lookup_keep (kept : p name = true) : (keep p named).lookup name = named.lookup name := by
  induction named with
  | nil => rfl
  | cons entry rest ih =>
    obtain ⟨known, old⟩ := entry
    rw [keep_cons, List.lookup_cons]
    by_cases same : name = known
    · subst same
      simp [kept]
    · have other : (name == known) = false := beq_false_of_ne same
      split <;> simp [List.lookup_cons, other, ih]

/-- What is assigned to a name is kept if the name at the top is, and is left out otherwise. -/
theorem keep_assign : keep p (entries.assign name value) =
    if p name.top then assign (keep p entries) name value else keep p entries := by
  simp only [assign_eq, keep_put]
  split
  · next kept => rw [lookup_keep kept]
  · rfl

/-- By induction on a layer: the settings of some names come from the parts of the layers that have
these names. -/
theorem keep_assignAll : keep p (entries.assignAll layer) =
    assignAll (keep p entries) (keep (fun name => p name.top) layer) := by
  induction layer generalizing entries with
  | nil => rfl
  | cons entry rest ih =>
    obtain ⟨name, value⟩ := entry
    change keep p ((entries.assign name value).assignAll rest) = _
    rw [ih, keep_assign, keep_cons]
    split <;> rfl

/-- By induction on the entries: some names in lower case come from those that have this form. -/
theorem keep_lowerEntries : keep p (Value.lowerEntries entries done) =
    Value.lowerEntries (keep (fun name => p name.lower) entries) (keep p done) := by
  induction entries generalizing done with
  | nil => rfl
  | cons entry rest ih =>
    obtain ⟨name, value⟩ := entry
    rw [Value.lowerEntries, ih, keep_put, keep_cons]
    split <;> rfl

/-! ## All names -/

/-- The names of entries. -/
def names (entries : Entries) : List Text := entries.map Prod.fst

theorem mem_names_keep : x ∈ names (keep p entries) ↔ x ∈ names entries ∧ p x = true := by
  constructor
  · rintro listed
    obtain ⟨entry, kept, rfl⟩ := List.mem_map.1 listed
    obtain ⟨present, fits⟩ := List.mem_filter.1 kept
    exact ⟨List.mem_map_of_mem present, fits⟩
  · rintro ⟨listed, fits⟩
    obtain ⟨entry, present, rfl⟩ := List.mem_map.1 listed
    exact List.mem_map_of_mem (List.mem_filter.2 ⟨present, fits⟩)

theorem mem_names_put : x ∈ names (entries.put name value) ↔ x = name ∨ x ∈ names entries := by
  induction entries with
  | nil => simp [put, names]
  | cons entry rest ih =>
    obtain ⟨known, old⟩ := entry
    by_cases same : known = name
    · subst same
      simp [put, names]
    · simp only [names] at ih
      simp only [put, same, names, if_false, List.map_cons, List.mem_cons, ih]
      tauto

/-- The names of layers are the names at the top of what is assigned. -/
theorem mem_names_assignAll : x ∈ names (entries.assignAll layer) ↔
    x ∈ names entries ∨ ∃ name ∈ names layer, name.top = x := by
  induction layer generalizing entries with
  | nil => simp [assignAll, names]
  | cons entry rest ih =>
    obtain ⟨name, value⟩ := entry
    change x ∈ names ((entries.assign name value).assignAll rest) ↔ _
    rw [ih, assign_eq, mem_names_put]
    simp only [names, List.map_cons, List.exists_mem_cons_iff, eq_comm (a := x)]
    tauto

/-- The names in lower case are those that were there. -/
theorem mem_names_lowerEntries : x ∈ names (Value.lowerEntries entries done) ↔
    x ∈ names done ∨ ∃ name ∈ names entries, name.lower = x := by
  induction entries generalizing done with
  | nil => simp [Value.lowerEntries, names]
  | cons entry rest ih =>
    obtain ⟨name, value⟩ := entry
    rw [Value.lowerEntries, ih, mem_names_put]
    simp only [names, List.map_cons, List.exists_mem_cons_iff, eq_comm (a := x)]
    tauto

end Entries
end WideColumn
