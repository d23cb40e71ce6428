import WideColumn.Store.Comparator

/-!
# Raw bytes in store comparators

The store's regular-expression comparator takes text only, yet it matches bytes. A pattern over
arbitrary bytes is therefore written over the reference of a finished comparator, by way of the
field that its class declares. When the field is missing or refuses the write, conversion fails; it
never falls back to the text, which would match other rows.
-/
namespace WideColumn.Patch

/-- The classes whose fields can be named. -/
inductive Owner where
  /-- The base of all store comparators, which declares the reference. -/
  | comparable
  /-- The comparator of whole values, which declares nothing. -/
  | binary
  /-- The regular-expression comparator, which declares charset and cache. -/
  | regex
  /-- A class without fields. -/
  | plain
  /-- A class whose reference is a property that cannot be written. -/
  | frozen
deriving DecidableEq

/-- The name of a class. -/
def Owner.name : Owner → String
  | comparable => "ByteArrayComparable"
  | binary => "BinaryComparator"
  | regex => "RegexStringComparator"
  | plain => "Plain"
  | frozen => "Frozen"

/-- What a class declares under a name. -/
inductive Declaration where
  /-- The reference bytes. -/
  | reference
  /-- The charset on record. -/
  | charset
  /-- The cache. -/
  | cache
  /-- A property that cannot be written. -/
  | property
deriving DecidableEq

/-- The writable or protected declaration of a class under a name. -/
def Owner.declares (owner : Owner) (field : Text) : Option Declaration :=
  match owner with
  | .comparable =>
    if field = Text.ofString "_value" then some .reference
    else if field = Text.ofString "value" then some .property
    else none
  | .regex =>
    if field = Text.ofString "_charset" then some .charset
    else if field = Text.ofString "_compiled" then some .cache
    else if field = Text.ofString "charset" then some .property
    else none
  | .frozen => if field = Text.ofString "_value" then some .property else none
  | .binary | .plain => none

/-- What the bytes are to be written into. -/
inductive Target where
  /-- A store comparator. -/
  | comparator (comparator : Store.Comparator)
  /-- Some other object, by the name of its class. -/
  | other (className : String)

/-- The class name of a target. -/
def Target.className : Target → String
  | comparator c => c.className
  | other name => name

/-- Write bytes into a declared field of a target. -/
def write (owner : Owner) (field : Text) (declaration : Declaration) (target : Target)
    (raw : Bytes) : Except Error Target :=
  let foreign : Except Error Target :=
    .error (.foreignSlot ((field.toString?).getD "") owner.name target.className)
  match declaration, target with
  | .property, _ =>
    .error (.access (.noSetter ((field.toString?).getD "") target.className))
  | .reference, .comparator (.binary _) => .ok (.comparator (.binary raw))
  | .reference, .comparator (.binaryPrefix _) => .ok (.comparator (.binaryPrefix raw))
  | .reference, .comparator (.substring _) => .ok (.comparator (.substring raw))
  | .reference, .comparator (.regex _ charset cache) =>
    .ok (.comparator (.regex raw charset cache))
  | .charset, .comparator (.regex value _ cache) =>
    .ok (.comparator (.regex value (.raw raw) cache))
  | .cache, .comparator (.regex value charset _) =>
    .ok (.comparator (.regex value charset (.overwritten raw)))
  | _, _ => foreign

/-- Whether a failed write counts as refused by the field, rather than as a bad value. -/
def isRefusal (error : Error) : Bool :=
  error.kind == .access || error.kind == .type

/-- Write the raw bytes of a filter over a field of a target. -/
def inject (target : Target) (raw : Value) (filterKind : Bytes) (owner : Owner) (field : Text) :
    Except Error Target :=
  match owner.declares field with
  | none =>
    .error (.filterConversion filterKind .missingField (some (.access (.noField owner.name field))))
  | some declaration =>
    let written :=
      match raw.toBytes with
      | .ok data => write owner field declaration target data
      | .error fault => .error (.misuse fault)
    match written with
    | .ok target => .ok target
    | .error error =>
      .error (if isRefusal error then .filterConversion filterKind .accessDenied (some error)
        else error)

end WideColumn.Patch
