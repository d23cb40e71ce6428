import WideColumn.Proofs.Lower
import WideColumn.Proofs.Settings.Layers
import WideColumn.Proofs.Settings.Template
import WideColumn.Proofs.Settings.Valid
import WideColumn.Settings.Load

/-!
# Names that are no sections

The file and the environment are merged before names that are no sections are judged, and the judge
knows only the names of the variables. A name of the file that no variable has too is refused, but
one that a variable of another program shares is dropped with the variable. Whether such variables
are there makes no difference beyond that, as long as no text of the settings refers to them.

How the two are merged is up to a library. All that is relied on is which names its result has
(`Merges`), and that what has one name does not depend on variables for other names (`AgreeBeside`).
-/
namespace WideColumn

/-! ## References that are replaced -/

/-- Whether a reference to a variable is replaced in a text, which is read from left to right. -/
inductive Text.MentionedIn (name : Text) : Text → Prop where
  /-- The text begins with it. -/
  | here {text after : Text} {reference : EnvReference}
    (found : EnvReference.parse? text = some (reference, after)) (named : reference.name = name) :
    MentionedIn name text
  /-- It comes after a reference at the beginning. -/
  | after {text after : Text} {reference : EnvReference}
    (found : EnvReference.parse? text = some (reference, after)) (later : MentionedIn name after) :
    MentionedIn name text
  /-- It comes after a code point where no reference begins. -/
  | next {c : CodePoint} {rest : Text} (plain : EnvReference.parse? (c :: rest) = none)
    (later : MentionedIn name rest) : MentionedIn name (c :: rest)

/-- Whether a reference to a variable is replaced in a text of a nested value. -/
def Text.MentionedBy (name : Text) (value : Value) : Prop :=
  ∃ place text, value.part? place = some (.text text) ∧ name.MentionedIn text

section

variable {first second : Environment}

/-- By induction along a text: it becomes the same in two environments that agree on the variables
it refers to. -/
theorem Text.expand_congr (text : Text)
    (agree : ∀ name : Text, name.MentionedIn text → first.lookup name = second.lookup name) :
    text.expand first = text.expand second := by
  induction text using Text.expand.induct with
  | case1 text reference after found _ ih =>
    have same : reference.resolve first = reference.resolve second := by
      unfold EnvReference.resolve
      rw [agree reference.name (.here found rfl)]
    rw [expand_of_parse? found, expand_of_parse? found, same,
      ih fun name later => agree name (.after found later)]
  | case2 => rw [expand_nil, expand_nil]
  | case3 c rest plain ih =>
    rw [expand_cons plain, expand_cons plain, ih fun name later => agree name (.next plain later)]

namespace Value

mutual

/-- By induction on a value: it becomes the same in two environments that agree on the variables it
refers to. -/
theorem expand_congr (value : Value)
    (agree : ∀ name : Text, name.MentionedBy value → first.lookup name = second.lookup name) :
    value.expand first = value.expand second := by
  cases value with
  | text content =>
    have inside (name : Text) (mentioned : name.MentionedIn content) :=
      agree name ⟨[], content, rfl, mentioned⟩
    rw [expand, expand, content.expand_congr inside]
  | list items =>
    have inside : ∀ item ∈ items, ∀ name : Text, name.MentionedBy item →
        first.lookup name = second.lookup name := by
      rintro item listed name ⟨place, text, here, mentioned⟩
      obtain ⟨position, bound, rfl⟩ := List.getElem_of_mem listed
      exact agree name ⟨position :: place, text, by simp [part?, bound, here], mentioned⟩
    rw [expand, expand, expandAll_congr items inside]
  | mapping entries =>
    have inside : ∀ entry ∈ entries, ∀ name : Text, name.MentionedBy entry.2 →
        first.lookup name = second.lookup name := by
      rintro entry listed name ⟨place, text, here, mentioned⟩
      obtain ⟨position, bound, rfl⟩ := List.getElem_of_mem listed
      exact agree name ⟨position :: place, text, by simp [part?, bound, here], mentioned⟩
    rw [expand, expand, expandEntries_congr entries inside]
  | none | bool | number | bytes | tuple => rfl

/-- Several values. -/
theorem expandAll_congr (items : List Value)
    (agree : ∀ item ∈ items, ∀ name : Text, name.MentionedBy item →
      first.lookup name = second.lookup name) :
    expandAll first items = expandAll second items := by
  cases items with
  | nil => rfl
  | cons item rest =>
    rw [expandAll, expandAll, expand_congr item (agree item List.mem_cons_self),
      expandAll_congr rest fun other listed => agree other (List.mem_cons_of_mem item listed)]

/-- The values of a mapping. -/
theorem expandEntries_congr (entries : List (Text × Value))
    (agree : ∀ entry ∈ entries, ∀ name : Text, name.MentionedBy entry.2 →
      first.lookup name = second.lookup name) :
    expandEntries first entries = expandEntries second entries := by
  cases entries with
  | nil => rfl
  | cons entry rest =>
    obtain ⟨key, item⟩ := entry
    rw [expandEntries, expandEntries, expand_congr item (agree (key, item) List.mem_cons_self),
      expandEntries_congr rest fun other listed =>
        agree other (List.mem_cons_of_mem (key, item) listed)]

end

end Value

end

/-! ## Unknown names -/

/-- What is checked after something else keeps its issues. -/
theorem Checked.seqLeft_flawed {α γ : Type} (a : Checked α) {unknown : List Issue} :
    ∃ issues, (a <* (.flawed unknown : Checked γ)) = .flawed issues ∧ unknown ⊆ issues := by
  cases a with
  | valid value => exact ⟨unknown, rfl, List.Subset.refl _⟩
  | flawed issues => exact ⟨issues ++ unknown, rfl, List.subset_append_right _ _⟩

namespace Entries

/-- Known names are not refused. -/
theorem only_of_known {entries : Entries} {known : List String}
    (all : ∀ name ∈ entries.names, name ∈ known.map Text.ofString) :
    entries.only known = .valid () := by
  dsimp only [only]
  split
  · rfl
  · next some_unknown =>
    refine absurd (List.filter_eq_nil_iff.2 fun entry listed => ?_) some_unknown
    simpa using all entry.1 (List.mem_map_of_mem listed)

/-- An unknown name is among the issues. -/
theorem only_flawed {entries : Entries} {known : List String} {name : Text}
    (listed : name ∈ entries.names) (stranger : name ∉ known.map Text.ofString) :
    ∃ unknown, entries.only known = .flawed unknown ∧ ⟨[name], .unknownName⟩ ∈ unknown := by
  obtain ⟨entry, present, rfl⟩ := List.mem_map.1 listed
  dsimp only [only]
  split
  · next none =>
    exact absurd (by simpa using stranger) (List.filter_eq_nil_iff.1 none entry present)
  · refine ⟨_, rfl, List.mem_map.2 ⟨entry, List.mem_filter.2 ⟨present, ?_⟩, rfl⟩⟩
    simpa using stranger

end Entries

namespace Settings

variable {document merged entries : Entries} {names : List Text} {environment : Environment}
  {name x : Text} {p : Text → Bool} {added : Text → Bool}

/-- Sections are the known names. -/
theorem isSection_iff : isSection name = true ↔ name ∈ sections.map Text.ofString := by
  simp [isSection, List.any_eq_true]

/-- A name that is no section is among the issues for which settings are refused. -/
theorem ofEntries_unknown (listed : name ∈ entries.names) (stranger : isSection name = false) :
    ∃ issues, ofEntries entries = .error (.invalidSettings title issues) ∧
      ⟨[name], .unknownName⟩ ∈ issues := by
  have outside : name ∉ sections.map Text.ofString := fun known => by
    simp [isSection_iff.2 known] at stranger
  obtain ⟨unknown, refused, among⟩ := Entries.only_flawed listed outside
  unfold ofEntries read
  rw [refused]
  obtain ⟨issues, flawed, all⟩ := Checked.seqLeft_flawed (γ := Unit) (_ : Checked Settings)
  exact ⟨issues, by rw [flawed]; rfl, all among⟩

/-- Of entries that all are sections, only what the sections stand for counts. -/
theorem ofEntries_congr {first second : Entries}
    (known : ∀ x ∈ first.names, isSection x = true)
    (known_too : ∀ x ∈ second.names, isSection x = true)
    (agree : ∀ x, isSection x = true → first.lookup x = second.lookup x) :
    ofEntries first = ofEntries second := by
  have part {α : Type} {section_ : String} (listed : section_ ∈ sections) (model : String)
      (read : Entries → Checked α) (fallback : α) :
      first.part section_ model read fallback = second.part section_ model read fallback := by
    rw [Entries.part, Entries.part, agree _ (isSection_iff.2 (List.mem_map_of_mem listed))]
  have only {entries : Entries} (known : ∀ x ∈ entries.names, isSection x = true) :
      entries.only sections = .valid () :=
    Entries.only_of_known fun x listed => isSection_iff.1 (known x listed)
  rw [ofEntries, ofEntries, read, read, only known, only known_too]
  rw [part (by decide), part (by decide), part (by decide), part (by decide), part (by decide)]

/-! ## Names of variables -/

/-- The name at the top that a variable has a part in, in capitals. -/
def settingKey? (variableName : Text) : Option Text :=
  (settingName? variableName).map fun name => (sectionPart name).upper

/-- Whether the section of a name is the same in lower case, be it put in capitals before or not. -/
def ReadAlike (name : Text) : Prop :=
  name ≠ [] ∧ (sectionPart name).upper.lower = (sectionPart name).lower

/-- Whether a variable holds what is no section, and is known for it. -/
def IsStray (variableName : Text) : Prop :=
  ∃ name, settingName? variableName = some name ∧ ReadAlike name ∧
    isSection (sectionPart name).lower = false

/-- The section of a name is part of it. -/
theorem sectionPart_subset (name : Text) : sectionPart name ⊆ name := by
  induction name using sectionPart.induct with
  | case1 => exact List.Subset.refl _
  | case2 c => exact List.Subset.refl _
  | case3 c d rest both => simp [sectionPart, both]
  | case4 c d rest apart ih =>
    rw [sectionPart, if_neg apart]
    exact List.cons_subset_cons c ih

/-- Names of ASCII are read alike. -/
theorem readAlike_of_ascii (nonempty : name ≠ []) (ascii : ∀ c ∈ name, c.val < 128) :
    ReadAlike name :=
  ⟨nonempty, Text.lower_upper_of_ascii fun c listed => ascii c (sectionPart_subset name listed)⟩

/-- Names that variables give to what is no section. -/
theorem mem_strayNames : x ∈ strayNames environment ↔ isSection x = false ∧
    ∃ held ∈ environment, ∃ name, settingName? held.1 = some name ∧ name ≠ [] ∧
      (sectionPart name).lower = x := by
  simp only [strayNames, List.mem_filter, List.mem_map, List.mem_filterMap]
  constructor
  · rintro ⟨⟨name, ⟨⟨held, listed, found⟩, nonempty⟩, rfl⟩, stranger⟩
    exact ⟨by simpa using stranger, held, listed, name, found, by simpa using nonempty, rfl⟩
  · rintro ⟨stranger, held, listed, name, found, nonempty, rfl⟩
    exact ⟨⟨name, ⟨⟨held, listed, found⟩, by simpa using nonempty⟩, rfl⟩, by simp [stranger]⟩

/-- The key of a stray variable is a stray name in lower case, and no section. -/
theorem IsStray.key {held : Text × Text} (stray : IsStray held.1) (listed : held ∈ environment)
    {key : Text} (found : settingKey? held.1 = some key) :
    isSection key.lower = false ∧ key.lower ∈ strayNames environment := by
  obtain ⟨name, behind, ⟨nonempty, alike⟩, stranger⟩ := stray
  simp only [settingKey?, behind, Option.map_some, Option.some.injEq] at found
  subst found
  rw [alike]
  exact ⟨stranger, mem_strayNames.2 ⟨stranger, held, listed, name, behind, nonempty, rfl⟩⟩

/-- The environment without variables of some names. -/
abbrev without (added : Text → Bool) (environment : Environment) : Environment :=
  Entries.keep (fun name => !added name) environment

/-! ## What is merged -/

/-- The names of a file and an environment once they are merged: those at the top of the file and
those that variables have a part in, in capitals. Names that steer the loading may be there or not.
-/
def Merges (names : List Text) (environment : Environment) (merged : Entries) : Prop :=
  ∀ key, isReserved key = false → (key ∈ merged.names ↔
    (∃ name ∈ names, name.upper = key) ∨ ∃ held ∈ environment, settingKey? held.1 = some key)

/-- What two environments that differ in some variables make of one file: the same, beside the names
that these variables have a part in. -/
def AgreeBeside (added : Text → Bool) (environment : Environment) (first second : Entries) : Prop :=
  ∀ x, (∀ held ∈ environment, added held.1 = true →
      ∀ key, settingKey? held.1 = some key → key.lower ≠ x) →
    Entries.keep (·.lower == x) first = Entries.keep (·.lower == x) second

/-- The names in lower case. -/
theorem mem_names_lowered : x ∈ (lowered merged).names ↔
    ∃ key ∈ merged.names, isReserved key = false ∧ key.lower = x := by
  have kept (key : Text) : key ∈ Entries.names (merged.filter fun entry => !isReserved entry.1) ↔
      key ∈ merged.names ∧ isReserved key = false :=
    (Entries.mem_names_keep (p := fun key => !isReserved key)).trans (by simp)
  simp only [lowered, Entries.mem_names_lowerEntries, kept, and_assoc]
  exact or_iff_right List.not_mem_nil

/-- What stands under some names in lower case comes from the names with that form. -/
theorem keep_lowered : Entries.keep p (lowered merged) =
    Value.lowerEntries (Entries.keep (fun key => !isReserved key)
      (Entries.keep (fun key => p key.lower) merged)) [] := by
  rw [lowered, Entries.keep_lowerEntries, Entries.keep_comm]
  rfl

/-- The merged settings without those that variables of other programs are known to hold. -/
def kept (merged : Entries) (environment : Environment) : Entries :=
  Entries.keep (fun name => !(strayNames environment).contains name) (lowered merged)

/-- What is kept is read once references are replaced. -/
theorem ofMerged_eq : (ofMerged merged environment).1 =
    ofEntries (Value.expandEntries environment (kept merged environment)) := rfl

/-- Names are not touched where references are replaced. -/
theorem names_expandEntries :
    Entries.names (Value.expandEntries environment entries) = entries.names := by
  rw [Value.expandEntries_eq_map, Entries.names, List.map_map]
  rfl

/-- What a name stands for, once references are replaced. -/
theorem lookup_expandEntries : (Value.expandEntries environment entries).lookup x =
    (entries.lookup x).map (Value.expand environment) := by
  rw [Value.expandEntries_eq_map]
  induction entries with
  | nil => rfl
  | cons entry rest ih =>
    rw [List.map_cons, List.lookup_cons, List.lookup_cons, ih]
    split <;> rfl

/-! ## Which names are refused -/

/-- Whether a name is refused: it is no section and steers nothing, the file or a variable gives it,
and no variable is known to give it to what is no section. -/
def Refused (names : List Text) (environment : Environment) (x : Text) : Prop :=
  isSection x = false ∧ x ∉ strayNames environment ∧ ∃ key, isReserved key = false ∧
    key.lower = x ∧
      ((∃ name ∈ names, name.upper = key) ∨ ∃ held ∈ environment, settingKey? held.1 = some key)

/-- The names that are refused are those that are kept and are no sections. -/
theorem Merges.refused_iff (merges : Merges names environment merged) :
    Refused names environment x ↔
      isSection x = false ∧ x ∈ (kept merged environment).names := by
  have stray : x ∈ (kept merged environment).names ↔
      x ∈ (lowered merged).names ∧ x ∉ strayNames environment := by
    simp [kept, Entries.mem_names_keep]
  rw [stray, mem_names_lowered]
  constructor
  · rintro ⟨stranger, own, key, free, rfl, given⟩
    exact ⟨stranger, ⟨key, (merges key free).2 given, free, rfl⟩, own⟩
  · rintro ⟨stranger, ⟨key, listed, free, rfl⟩, own⟩
    exact ⟨stranger, own, key, free, rfl, (merges key free).1 listed⟩

/-- A name that is refused is among the issues. -/
theorem Merges.refused (merges : Merges names environment merged)
    (refused : Refused names environment x) :
    ∃ issues, (ofMerged merged environment).1 = .error (.invalidSettings title issues) ∧
      ⟨[x], .unknownName⟩ ∈ issues := by
  obtain ⟨stranger, there⟩ := merges.refused_iff.1 refused
  have expanded : x ∈ Entries.names (Value.expandEntries environment (kept merged environment)) :=
    names_expandEntries.symm ▸ there
  exact ofEntries_unknown expanded stranger

/-- If no name is refused, the sections are what is kept. -/
theorem Merges.kept_eq (merges : Merges names environment merged)
    (none : ∀ x, ¬Refused names environment x) :
    kept merged environment = Entries.keep isSection (lowered merged) := by
  refine List.filter_congr fun entry listed => Bool.eq_iff_iff.2 ?_
  simp only [Bool.not_eq_true', ← Bool.not_eq_true, List.contains_iff_mem]
  constructor
  · intro own
    by_contra stranger
    refine none entry.1 (merges.refused_iff.2 ⟨by simpa using stranger, ?_⟩)
    exact List.mem_map_of_mem (List.mem_filter.2 ⟨listed, by simpa using own⟩)
  · intro known among
    rw [(mem_strayNames.1 among).1] at known
    cases known

/-- If no name is refused, the settings are those of the sections. -/
theorem Merges.ofMerged_eq (merges : Merges names environment merged)
    (none : ∀ x, ¬Refused names environment x) :
    (ofMerged merged environment).1 = ofEntries
      (Value.expandEntries environment (Entries.keep isSection (lowered merged))) := by
  rw [Settings.ofMerged_eq, merges.kept_eq none]

/-! ## Variables of other programs -/

/-- With stray variables no further name is refused. -/
theorem Refused.without (stray : ∀ held ∈ environment, added held.1 = true → IsStray held.1)
    (refused : Refused names environment x) : Refused names (without added environment) x := by
  obtain ⟨stranger, own, key, free, rfl, given⟩ := refused
  have strayNames_without : strayNames (Settings.without added environment) ⊆
      strayNames environment := by
    intro y stray
    obtain ⟨stranger, held, listed, name, found⟩ := mem_strayNames.1 stray
    exact mem_strayNames.2 ⟨stranger, held, (List.mem_filter.1 listed).1, name, found⟩
  refine ⟨stranger, fun among => own (strayNames_without among), key, free, rfl,
    given.imp_right ?_⟩
  rintro ⟨held, listed, found⟩
  refine ⟨held, List.mem_filter.2 ⟨listed, ?_⟩, found⟩
  by_contra isAdded
  exact own ((stray held listed (by simpa using isAdded)).key listed found).2

/-- Stray variables make no difference for what the sections stand for. -/
theorem AgreeBeside.lookup {base : Entries} (agree : AgreeBeside added environment merged base)
    (stray : ∀ held ∈ environment, added held.1 = true → IsStray held.1)
    (known : isSection x = true) : (lowered merged).lookup x = (lowered base).lookup x := by
  have same := agree x fun held listed isAdded key found named => by
    rw [← named, ((stray held listed isAdded).key listed found).1] at known
    cases known
  have here : (x == x) = true := beq_self_eq_true x
  calc (lowered merged).lookup x
    _ = (Entries.keep (· == x) (lowered merged)).lookup x :=
      (Entries.lookup_keep (p := (· == x)) here).symm
    _ = (Entries.keep (· == x) (lowered base)).lookup x := by rw [keep_lowered, same, keep_lowered]
    _ = (lowered base).lookup x := Entries.lookup_keep (p := (· == x)) here

/-- Variables that a value does not refer to make no difference where its references are replaced.
-/
theorem expand_without {value : Value}
    (silent : ∀ held ∈ environment, added held.1 = true → ¬held.1.MentionedBy value) :
    value.expand environment = value.expand (without added environment) := by
  refine value.expand_congr fun name mentioned => ?_
  cases isAdded : added name with
  | false => exact (Entries.lookup_keep (by simpa using isAdded)).symm
  | true =>
    have unset : ∀ held ∈ environment, name ≠ held.1 := by
      rintro held present rfl
      exact silent held present isAdded mentioned
    have unsetWithout : ∀ held ∈ without added environment, name ≠ held.1 :=
      fun held present => unset held (List.mem_filter.1 present).1
    rw [List.lookup_eq_none_iff.2 fun held present => bne_iff_ne.2 (unset held present),
      List.lookup_eq_none_iff.2 fun held present => bne_iff_ne.2 (unsetWithout held present)]

/-- Variables that hold no section and that no section refers to make no difference, if no name is
refused without them. -/
theorem ofMerged_without {base : Entries} (merges : Merges names environment merged)
    (merges_without : Merges names (without added environment) base)
    (agree : AgreeBeside added environment merged base)
    (stray : ∀ held ∈ environment, added held.1 = true → IsStray held.1)
    (silent : ∀ held ∈ environment, added held.1 = true →
      ∀ entry ∈ lowered base, isSection entry.1 = true → ¬held.1.MentionedBy entry.2)
    (none : ∀ x, ¬Refused names (without added environment) x) :
    (ofMerged merged environment).1 = (ofMerged base (without added environment)).1 := by
  rw [merges.ofMerged_eq fun x refused => none x (refused.without stray),
    merges_without.ofMerged_eq none]
  have sections (environment : Environment) (entries : Entries) :
      ∀ x ∈ Entries.names (Value.expandEntries environment (Entries.keep isSection entries)),
        isSection x = true := by
    intro x listed
    rw [names_expandEntries] at listed
    exact (Entries.mem_names_keep.1 listed).2
  refine ofEntries_congr (sections _ _) (sections _ _) fun x known => ?_
  rw [lookup_expandEntries, lookup_expandEntries, Entries.lookup_keep known,
    Entries.lookup_keep known, agree.lookup stray known]
  cases found : (lowered base).lookup x with
  | none => rfl
  | some value =>
    obtain ⟨before, after, shape, -⟩ := List.lookup_eq_some_iff.1 found
    have listed : (x, value) ∈ lowered base := shape ▸ List.mem_append_right _ List.mem_cons_self
    exact congrArg some
      (expand_without fun held present isAdded => silent held present isAdded _ listed known)

/-- Names that are no sections, in every settings file and every environment, in whatever way they
are merged. A name that the file or a variable gives is refused if it is no section, steers nothing
and is no stray name of a variable. If there is no such name, the settings are those of the sections
alone: a name of the file that is also a stray name of a variable is dropped. And take any variables
that hold no section, are read alike and are referred to in no section: settings that load without
them load with them, as the same settings, and if no name is refused without them, then the outcome
of loading is the same, errors included. -/
theorem strangers_refused_or_dropped (merges : Merges names environment merged) :
    (∀ x, Refused names environment x →
        ∃ issues, (ofMerged merged environment).1 = .error (.invalidSettings title issues) ∧
          ⟨[x], .unknownName⟩ ∈ issues) ∧
      ((∀ x, ¬Refused names environment x) →
        (ofMerged merged environment).1 = ofEntries
          (Value.expandEntries environment (Entries.keep isSection (lowered merged)))) ∧
      ∀ (added : Text → Bool) (base : Entries), Merges names (without added environment) base →
        AgreeBeside added environment merged base →
        (∀ held ∈ environment, added held.1 = true → IsStray held.1 ∧
          ∀ entry ∈ lowered base, isSection entry.1 = true → ¬held.1.MentionedBy entry.2) →
        (∀ settings, (ofMerged base (without added environment)).1 = .ok settings →
          (ofMerged merged environment).1 = .ok settings) ∧
        ((∀ x, ¬Refused names (without added environment) x) →
          (ofMerged merged environment).1 = (ofMerged base (without added environment)).1) := by
  refine ⟨fun x => merges.refused, merges.ofMerged_eq,
    fun added base merges_without agree apart => ?_⟩
  have same := ofMerged_without merges merges_without agree
    (fun held listed isAdded => (apart held listed isAdded).1)
    (fun held listed isAdded => (apart held listed isAdded).2)
  refine ⟨fun settings right => ?_, same⟩
  have none : ∀ x, ¬Refused names (without added environment) x := by
    intro x refused
    obtain ⟨issues, wrong, -⟩ := merges_without.refused refused
    rw [wrong] at right
    cases right
  rw [same none, right]

/-! ## Plain files and variables -/

/-- Without points, the section of a name is its first part. -/
theorem headD_pathParts (pointless : ∀ c ∈ name, c.val ≠ 46) :
    name.pathParts.headD [] = sectionPart name := by
  induction name using sectionPart.induct with
  | case1 => rfl
  | case2 c => simp [Text.pathParts, sectionPart, pointless c]
  | case3 c d rest both => simp [Text.pathParts, sectionPart, both]
  | case4 c d rest apart ih =>
    have later := ih fun e listed => pointless e (List.mem_cons_of_mem c listed)
    have here := pointless c List.mem_cons_self
    rw [Text.pathParts, if_neg apart, if_neg here, sectionPart, if_neg apart, ← later]
    cases shape : Text.pathParts (d :: rest) with
    | nil => exact absurd shape (Text.pathParts_ne_nil _)
    | cons first others => rfl

/-- A variable without points has a part in what its name is filed under. -/
theorem settingKey?_eq_top {variableName : Text} (pointless : ∀ c ∈ variableName, c.val ≠ 46)
    (found : settingName? variableName = some name) : settingKey? variableName = some name.top := by
  unfold settingName? at found
  split at found
  · cases found
    rw [settingKey?, settingName?, if_pos ‹_›, Option.map_some, Text.top, headD_pathParts]
    exact fun c listed => pointless c (List.drop_subset _ _ listed)
  · cases found

/-- The names that variables give. -/
theorem mem_names_variableLayer : x ∈ Entries.names (variableLayer environment) ↔
    ∃ held ∈ environment, settingName? held.1 = some x := by
  simp [variableLayer, Entries.names, List.mem_filterMap]

/-- A variable gives its setting, if it has the prefix. -/
theorem variableLayer_cons {held : Text × Text} : variableLayer (held :: environment) =
    match settingName? held.1 with
    | none => variableLayer environment
    | some name => (name, Scalar.ofVariable held.2) :: variableLayer environment := by
  simp only [variableLayer, List.filterMap_cons]
  cases settingName? held.1 <;> rfl

/-- By induction on the environment: variables that are left out make no difference for other names
than theirs. -/
theorem keep_variableLayer_without
    (apart : ∀ held ∈ environment, added held.1 = true →
      ∀ name, settingName? held.1 = some name → p name = false) :
    Entries.keep p (variableLayer environment) =
      Entries.keep p (variableLayer (without added environment)) := by
  induction environment with
  | nil => rfl
  | cons held rest ih =>
    have others := ih fun other listed => apart other (List.mem_cons_of_mem held listed)
    rw [without, Entries.keep_cons, variableLayer_cons]
    cases isAdded : added held.1 with
    | true =>
      cases found : settingName? held.1 with
      | none => simpa using others
      | some name =>
        have out := apart held List.mem_cons_self isAdded name found
        simpa [Entries.keep_cons, out] using others
    | false =>
      simp only [Bool.not_false, if_true, variableLayer_cons]
      cases found : settingName? held.1 with
      | none => exact others
      | some name => simp only [Entries.keep_cons, others]

/-- Files whose names are no paths, and variables without points, are merged by their names. -/
theorem merges_layered (plain : ∀ name ∈ document.names, name.top = name.upper)
    (pointless : ∀ held ∈ environment, ∀ c ∈ held.1, c.val ≠ 46) :
    Merges document.names environment (layered document environment) := by
  intro key _
  simp only [layered, Entries.mem_names_assignAll, mem_names_variableLayer]
  refine or_congr ?_ ?_
  · rw [or_iff_right (by exact List.not_mem_nil)]
    exact exists_congr fun name => and_congr_right fun listed => by rw [plain name listed]
  · constructor
    · rintro ⟨name, ⟨held, listed, found⟩, rfl⟩
      exact ⟨held, listed, settingKey?_eq_top (pointless held listed) found⟩
    · rintro ⟨held, listed, found⟩
      obtain ⟨name, behind, -⟩ := Option.map_eq_some_iff.1 found
      refine ⟨name, ⟨held, listed, behind⟩, ?_⟩
      exact Option.some.inj ((settingKey?_eq_top (pointless held listed) behind).symm.trans found)

/-- What plain files and variables give for a name does not depend on variables for other names. -/
theorem agreeBeside_layered (pointless : ∀ held ∈ environment, ∀ c ∈ held.1, c.val ≠ 46) :
    AgreeBeside added environment (layered document environment)
      (layered document (without added environment)) := by
  intro x apart
  have others : ∀ held ∈ environment, added held.1 = true →
      ∀ name, settingName? held.1 = some name → (name.top.lower == x) = false :=
    fun held listed isAdded name found => beq_false_of_ne
      (apart held listed isAdded _ (settingKey?_eq_top (pointless held listed) found))
  simp only [layered, Entries.keep_assignAll]
  rw [keep_variableLayer_without others]

/-! ## A role -/

/-- Settings with what steered their loading. -/
def withSteering (settings : Entries) : Entries :=
  ("LOAD_DOTENV", .bool false) :: ("ENVIRONMENTS", .bool false) ::
    ("SETTINGS_FILES", .list [.string "settings.yaml"]) :: settings

/-- A variable of another program. -/
def roleVariable : Text × Text := ("ASYNCTABLE_ROLE", "x")

/-- A variable for a section. -/
def retryVariable : Text × Text := ("ASYNCTABLE_RETRY__MAX_ATTEMPTS", "7")

/-- What is merged has names as it should if these are among the names given, and the other way
round. -/
theorem merges_of_subset
    (among : ∀ key ∈ merged.names, isReserved key = true ∨
      key ∈ names.map Text.upper ++ environment.filterMap (settingKey? ·.1))
    (all : ∀ key ∈ names.map Text.upper ++ environment.filterMap (settingKey? ·.1),
      key ∈ merged.names) : Merges names environment merged := by
  have given (key : Text) : key ∈ names.map Text.upper ++ environment.filterMap (settingKey? ·.1) ↔
      (∃ name ∈ names, name.upper = key) ∨ ∃ held ∈ environment, settingKey? held.1 = some key := by
    simp [List.mem_filterMap]
  refine fun key free => ⟨fun listed => ?_, fun named => all key ((given key).2 named)⟩
  rcases among key listed with reserved | named
  · rw [free] at reserved
    cases reserved
  · exact (given key).1 named

/-- Whether a value is a mapping with one number, so that it refers to nothing. -/
def isSingleNumber : Value → Bool
  | .mapping [(_, .number _)] => true
  | _ => false

/-- A number refers to nothing. -/
theorem not_mentionedBy_of_isSingleNumber {value : Value} (single : isSingleNumber value = true) :
    ¬name.MentionedBy value := by
  unfold isSingleNumber at single
  split at single
  · rintro ⟨_ | ⟨_ | position, _ | ⟨next, place⟩⟩, text, here, -⟩ <;> simp [Value.part?] at here
  · cases single

/-- The file `retry:` with a count of attempts, under a variable for the same. -/
def retryMerged : Entries := withSteering [("RETRY", .mapping [("max_attempts", .int 7)])]

/-- The same with a variable of another program. -/
def retryMergedWithRole : Entries :=
  withSteering [("RETRY", .mapping [("max_attempts", .int 7)]), ("ROLE", .string "x")]

/-- The file `role:`, under a variable for another section. -/
def roleMerged : Entries :=
  withSteering [("ROLE", .mapping [("a", .int 1)]), ("RETRY", .mapping [("MAX_ATTEMPTS", .int 7)])]

/-- A section by the name of a role is refused from the file, and dropped where only a variable
gives it: the settings are what they are without the variable, with the seven attempts of the other.
-/
theorem strangers_refused_or_dropped_ofRole :
    (∃ issues, (ofMerged roleMerged [retryVariable]).1 = .error (.invalidSettings title issues) ∧
        ⟨["role"], .unknownName⟩ ∈ issues) ∧
      (ofMerged retryMergedWithRole [roleVariable, retryVariable]).1 =
        (ofMerged retryMerged [retryVariable]).1 ∧
      (ofMerged retryMerged [retryVariable]).1.toOption.map (·.retry.maxAttempts) = some 7 := by
  refine ⟨?_, ?_, by decide +kernel⟩
  · have merges : Merges ["role"] [retryVariable] roleMerged :=
      merges_of_subset (by decide +kernel) (by decide +kernel)
    exact (strangers_refused_or_dropped merges).1 "role"
      ⟨by decide +kernel, by decide +kernel, "ROLE", by decide +kernel, by decide +kernel,
        .inl ⟨"role", by decide +kernel⟩⟩
  · have others : without (· == roleVariable.1) [roleVariable, retryVariable] =
        [retryVariable] := by decide +kernel
    have merges : Merges ["retry"] [roleVariable, retryVariable] retryMergedWithRole :=
      merges_of_subset (by decide +kernel) (by decide +kernel)
    have merges_without : Merges ["retry"] [retryVariable] retryMerged :=
      merges_of_subset (by decide +kernel) (by decide +kernel)
    have dropped := (strangers_refused_or_dropped merges).2.2 (· == roleVariable.1) retryMerged
    rw [others] at dropped
    have key : settingKey? roleVariable.1 = some ("ROLE" : Text) := by decide +kernel
    have stray : IsStray roleVariable.1 :=
      ⟨"ROLE", by decide +kernel, readAlike_of_ascii (by decide) (by decide), by decide +kernel⟩
    refine (dropped merges_without ?_ ?_).2 ?_
    · intro x apart
      have other := beq_false_of_ne
        (apart roleVariable List.mem_cons_self (beq_self_eq_true _) _ key)
      simp [Entries.keep, retryMergedWithRole, retryMerged, withSteering, List.filter_cons, other]
    · intro held _ isAdded
      have same : held.1 = roleVariable.1 := by simpa using isAdded
      have single : (lowered retryMerged).all (isSingleNumber ·.2) = true := by decide +kernel
      rw [same]
      exact ⟨stray, fun entry listed _ =>
        not_mentionedBy_of_isSingleNumber (List.all_eq_true.1 single entry listed)⟩
    · rintro x ⟨stranger, -, key, -, rfl, ⟨name, listed, rfl⟩ | ⟨held, listed, found⟩⟩
      · obtain rfl := List.mem_singleton.1 listed
        exact absurd stranger (by decide +kernel)
      · obtain rfl := List.mem_singleton.1 listed
        have retry : settingKey? retryVariable.1 = some ("RETRY" : Text) := by decide +kernel
        obtain rfl := Option.some.inj (retry.symm.trans found)
        exact absurd stranger (by decide +kernel)

/-- A file that refers to a variable of another program, with a fallback. -/
def referringMerged : Entries :=
  withSteering
    [("RETRY", .mapping [("max_attempts", .text "$\x7bASYNCTABLE_ATTEMPTS:-3\x7d")])]

/-- A section of the file that there is not is dropped, and the settings load, if a variable of
another program has its name. And a variable that holds no section changes the settings of a file
that refers to it. -/
theorem stranger_changes_settings :
    isSection "role" = false ∧
      Merges ["role"] [roleVariable] (withSteering [("ROLE", .string "x")]) ∧
      (ofMerged (withSteering [("ROLE", .string "x")]) [roleVariable]).1.toOption.isSome = true ∧
      isSection "attempts" = false ∧
      (ofMerged referringMerged []).1.toOption.map (·.retry.maxAttempts) = some 3 ∧
      (ofMerged (referringMerged ++ ([("ATTEMPTS", .int 5)] : Entries))
        [("ASYNCTABLE_ATTEMPTS", "5")]).1.toOption.map (·.retry.maxAttempts) = some 5 := by
  refine ⟨by decide +kernel, ?_, by decide +kernel⟩
  exact merges_of_subset (by decide +kernel) (by decide +kernel)

end Settings
end WideColumn
