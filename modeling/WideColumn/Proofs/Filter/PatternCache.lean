import WideColumn.Filter.Conversion
import WideColumn.Proofs.Except
import WideColumn.Proofs.Pattern.Reading

/-!
# Patterns that change under their cache

A regular-expression comparator keeps the last pattern that compiled, and the patch point writes its
reference behind its back. Before every comparison the cache is held against the reference, so what
it holds cannot be told from the outside: every comparison gives what a comparator built afresh over
the same bytes gives, whatever was compiled, matched, written or refused before.
-/
namespace WideColumn.Store

/-! ## Caches -/

/-- A cache is sound if what it holds was compiled from some bytes. -/
inductive PatternCache.Sound : PatternCache → Prop where
  /-- Nothing was compiled yet. -/
  | empty : Sound .empty
  /-- The pattern was compiled from some reference. -/
  | compiled {reference : Bytes} {pattern : Pattern.Compiled}
    (origin : Pattern.compile reference = .ok pattern) : Sound (.compiled pattern)

namespace Comparator

/-- A sound cache gives the same pattern, or the same fault, as no cache. -/
theorem refresh_of_sound {cache : PatternCache} (sound : cache.Sound) (reference : Bytes) :
    refresh reference cache = refresh reference .empty := by
  cases sound with
  | empty => rfl
  | @compiled origin pattern compiled =>
    have source : pattern.source = origin := Pattern.compile_source compiled
    by_cases current : origin = reference
    · subst current
      simp only [refresh, source, compiled, if_true]
    · simp only [refresh, source, if_neg current]

/-- What was compiled without a cache is a sound cache. -/
theorem sound_of_refresh {reference : Bytes} {pattern : Pattern.Compiled}
    (compiled : refresh reference .empty = .ok pattern) :
    (PatternCache.compiled pattern).Sound := by
  rw [refresh] at compiled
  cases outcome : Pattern.compile reference with
  | error fault =>
    rw [outcome] at compiled
    cases compiled
  | ok other =>
    rw [outcome] at compiled
    cases compiled
    exact .compiled outcome

/-- A regular expression over the given bytes that has never been used. -/
def unused (reference : Bytes) : Comparator := regex reference (.string "utf-8") .empty

/-- A regular expression compares by searching, and fails with the fault of its pattern. -/
theorem compareTo_unused (reference data : Bytes) : (unused reference).compareTo data =
    match Pattern.search reference data with
    | .ok found => .ok (ofMatch found)
    | .error fault => .error (.pattern fault) := by
  simp only [unused, compareTo, Pattern.Engine.search]
  cases Pattern.search reference data <;> rfl

/-- Without a use before, it compares by way of the cache as it does without one. -/
theorem compareCached_unused (reference data : Bytes) :
    ((unused reference).compareCached data).2 = (unused reference).compareTo data := by
  rw [compareTo_unused, Pattern.search, unused, compareCached, refresh]
  cases Pattern.compile reference <;> rfl

/-! ## Uses -/

/-- What may be done to a regular expression from the outside. -/
inductive Use where
  /-- Compare data. -/
  | compare (data : Bytes)
  /-- Put a charset on record. -/
  | record (charset : Value)
  /-- Write raw bytes by way of the patch point, for a filter of some kind. -/
  | write (raw : Value) (filterKind : Bytes)

/-- Whether a use puts a charset on record. -/
def Use.isRecord : Use → Bool
  | record _ => true
  | compare _ | write .. => false

/-- Write raw bytes over the reference by way of the patch point. -/
def overwrite (comparator : Comparator) (raw : Value) (filterKind : Bytes) :
    Except Error Patch.Target :=
  Patch.inject (.comparator comparator) raw filterKind PatchPoint.standard.owner
    PatchPoint.standard.field

/-- A comparator after a use; a write that fails leaves it as it was. -/
def afterUse (comparator : Comparator) : Use → Comparator
  | .compare data => (comparator.compareCached data).1
  | .record charset => comparator.setCharset charset
  | .write raw filterKind =>
    match comparator.overwrite raw filterKind with
    | .ok (.comparator written) => written
    | .ok (.other _) | .error _ => comparator

/-- A comparator after several uses. -/
def afterUses (comparator : Comparator) (uses : List Use) : Comparator :=
  uses.foldl afterUse comparator

/-- The reference after a use: the bytes that are written, if they are bytes. -/
def referenceAfter (reference : Bytes) : Use → Bytes
  | .write raw _ => raw.toBytes.toOption.getD reference
  | .compare _ | .record _ => reference

/-- A write replaces the reference of a regular expression and nothing else, or it fails because
there are no bytes in what it is given. -/
theorem overwrite_regex (reference : Bytes) (charset : Value) (cache : PatternCache) (raw : Value)
    (filterKind : Bytes) :
    (regex reference charset cache).overwrite raw filterKind =
      match raw.toBytes with
      | .ok data => .ok (.comparator (regex data charset cache))
      | .error fault =>
        .error (if Patch.isRefusal (.misuse fault)
          then .filterConversion filterKind .accessDenied (some (.misuse fault))
          else .misuse fault) := by
  rw [overwrite, Patch.inject]
  cases raw.toBytes <;> rfl

/-- A regular expression over some reference whose cache is sound. -/
inductive Coherent (reference : Bytes) : Comparator → Prop where
  /-- The charset may be any. -/
  | regex (charset : Value) {cache : PatternCache} (sound : cache.Sound) :
    Coherent reference (regex reference charset cache)

/-- Its reference is the reference. -/
theorem Coherent.value_eq {reference : Bytes} {comparator : Comparator}
    (coherent : comparator.Coherent reference) : comparator.value = reference := by
  cases coherent
  rfl

/-- It compares like an unused regular expression. -/
theorem Coherent.compares {reference : Bytes} {comparator : Comparator}
    (coherent : comparator.Coherent reference) (data : Bytes) :
    (comparator.compareCached data).2 = ((unused reference).compareCached data).2 := by
  obtain ⟨charset, sound⟩ := coherent
  simp only [unused, compareCached, refresh_of_sound sound]
  cases refresh reference .empty <;> rfl

/-- Every use keeps the cache sound, and changes the reference only by a write. -/
theorem Coherent.afterUse {reference : Bytes} {comparator : Comparator}
    (coherent : comparator.Coherent reference) (use : Use) :
    (comparator.afterUse use).Coherent (referenceAfter reference use) := by
  obtain ⟨charset, sound⟩ := coherent
  cases use with
  | compare data =>
    simp only [Comparator.afterUse, referenceAfter, compareCached, refresh_of_sound sound]
    cases compiled : refresh reference .empty with
    | ok pattern => exact .regex _ (sound_of_refresh compiled)
    | error error => exact .regex _ sound
  | record other => exact .regex other sound
  | write raw filterKind =>
    rw [Comparator.afterUse, referenceAfter, overwrite_regex]
    cases raw.toBytes with
    | ok data => exact .regex _ sound
    | error fault => exact .regex _ sound

/-- By induction on the uses: the cache stays sound, and the reference is what was written last. -/
theorem Coherent.afterUses {reference : Bytes} {comparator : Comparator}
    (coherent : comparator.Coherent reference) (uses : List Use) :
    (comparator.afterUses uses).Coherent (uses.foldl referenceAfter reference) := by
  induction uses generalizing reference comparator with
  | nil => exact coherent
  | cons use rest ih => exact ih (coherent.afterUse use)

/-- What is built from a text has never been used. -/
theorem unused_of_built {text : Value} {built : Comparator} (done : ofRegex text = .ok built) :
    built = unused built.value := by
  cases text with
  | text text =>
    obtain ⟨data, _, rfl⟩ := Except.map_eq_ok.1 done
    rfl
  | _ => cases done

/-! ## Coherence -/

/-- How a regular expression behaves after some uses, told from its reference alone. -/
structure ComparesAfresh (built : Comparator) (uses : List Use) : Prop where
  /-- Its reference is the one it was built with, or the bytes that were written last. -/
  reference : (built.afterUses uses).value = uses.foldl referenceAfter built.value
  /-- Every comparison gives what an unused regular expression over its reference gives, be it a
  result or a fault. -/
  compares (data : Bytes) : ((built.afterUses uses).compareCached data).2 =
    ((unused (built.afterUses uses).value).compareCached data).2
  /-- That is the search for the reference, or the fault of compiling it. -/
  searches (data : Bytes) : ((built.afterUses uses).compareCached data).2 =
    match Pattern.search (built.afterUses uses).value data with
    | .ok found => .ok (ofMatch found)
    | .error fault => .error (.pattern fault)
  /-- Any other comparator that is built from a text and has these bytes written over it is that
  unused one. -/
  afresh (text : Value) (filterKind : Bytes) {other : Comparator}
    (done : ofRegex text = .ok other) :
    other.overwrite (.raw (built.afterUses uses).value) filterKind =
      .ok (.comparator (unused (built.afterUses uses).value))
  /-- A charset on record changes no comparison. -/
  record (charset : Value) (data : Bytes) :
    (((built.afterUses uses).setCharset charset).compareCached data).2 =
      ((built.afterUses uses).compareCached data).2
  /-- Nor do all charsets put on record before. -/
  unrecorded (data : Bytes) : ((built.afterUses uses).compareCached data).2 =
    ((built.afterUses (uses.filter fun use => !use.isRecord)).compareCached data).2

/-- Putting charsets on record leaves the reference alone. -/
theorem referenceAfter_unrecorded (reference : Bytes) (uses : List Use) :
    (uses.filter fun use => !use.isRecord).foldl referenceAfter reference =
      uses.foldl referenceAfter reference := by
  induction uses generalizing reference with
  | nil => rfl
  | cons use rest ih =>
    cases use with
    | record charset => exact ih reference
    | compare data => exact ih reference
    | write raw filterKind => exact ih (referenceAfter reference (.write raw filterKind))

/-- Whatever a regular expression was used for, it compares as if it had been built afresh over the
bytes it holds. -/
theorem compares_afresh {text : Value} {built : Comparator} (done : ofRegex text = .ok built)
    (uses : List Use) : built.ComparesAfresh uses := by
  have coherent (uses : List Use) :
      (built.afterUses uses).Coherent (uses.foldl referenceAfter built.value) :=
    have start : built.Coherent built.value := unused_of_built done ▸ .regex _ .empty
    start.afterUses uses
  have value := (coherent uses).value_eq
  have compares (data : Bytes) : ((built.afterUses uses).compareCached data).2 =
      ((unused (built.afterUses uses).value).compareCached data).2 := by
    rw [value]
    exact (coherent uses).compares data
  refine ⟨value, compares, fun data => ?searches, fun text filterKind other done => ?afresh,
    fun charset data => ?record, fun data => ?unrecorded⟩
  case searches => rw [compares, compareCached_unused, compareTo_unused]
  case afresh =>
    rw [unused_of_built done, unused, overwrite_regex]
    rfl
  case record =>
    have recorded := (coherent uses).afterUse (.record charset)
    rw [(coherent uses).compares]
    exact recorded.compares data
  case unrecorded =>
    rw [(coherent uses).compares, (coherent _).compares, referenceAfter_unrecorded]

/-- The letter `a` matches itself. A parenthesis written over it does not compile, and the letter
written back matches again. -/
theorem compares_afresh_ofParenthesis :
    ofRegex (.text [.ofNat 97]) = .ok (unused [97]) ∧
      (unused [97]).ComparesAfresh
        [.compare [97], .write (.raw [40]) [], .compare [97], .record .none,
          .write (.raw [97]) []] ∧
      (((unused [97]).afterUses [.compare [97], .write (.raw [40]) []]).compareCached [97]).2 =
        .error (.pattern ⟨.unterminatedGroup, some 0, [40]⟩) ∧
      (((unused [97]).afterUses [.compare [97], .write (.raw [40]) [], .compare [97],
        .write (.raw [97]) []]).compareCached [97]).2 = .ok .eq := by
  have built : ofRegex (.text [.ofNat 97]) = .ok (unused [97]) := rfl
  refine ⟨built, compares_afresh built _, ?_, ?_⟩
  · rw [(compares_afresh built _).searches]
    rfl
  · rw [(compares_afresh built _).searches]
    rfl

end Comparator
end WideColumn.Store
