import WideColumn.Charset.Registry

/-!
# Charset names

A name is looked up in its normal form: ASCII letters in lower case, and every run of characters
other than ASCII letters, digits and points as one underscore, none at either end. A normal form
with a point can only be an alias, in which the point counts as an underscore.
-/
namespace WideColumn.Charset

/-- Whether a code point stands for itself in a normal form. -/
def isNameLetter (c : CodePoint) : Bool :=
  (48 ≤ c.val && c.val ≤ 57) || (65 ≤ c.val && c.val ≤ 90) || (97 ≤ c.val && c.val ≤ 122) ||
    c.val == 46

/-- The lower-case character of an ASCII letter, digit or point. -/
def nameLetter (c : CodePoint) : Char := (Char.ofNat c.val).toLower

/-- The normal form of the rest of a name. `pending` says that a run of other characters lies
between it and what was written before. -/
def normalFrom (started pending : Bool) : Text → List Char
  | [] => []
  | c :: rest =>
    if isNameLetter c then
      if started && pending then '_' :: nameLetter c :: normalFrom true false rest
      else nameLetter c :: normalFrom true false rest
    else normalFrom started true rest

/-- The normal form of a name. -/
def normalName (name : Text) : String := String.ofList (normalFrom false false name)

/-- The key that an alias stands for, points counting as underscores if need be. -/
def alias? (normal : String) : Option String :=
  match aliases.lookup normal with
  | some key => some key
  | none => aliases.lookup (normal.map fun c => if c = '.' then '_' else c)

/-- The charset of a name in normal form. -/
def ofNormalName? (normal : String) : Option Charset :=
  match alias? normal with
  | some key => registry.lookup key
  | none => registry.lookup normal

/-- Why a name stands for no charset. -/
inductive NameFault where
  /-- The name holds a lone surrogate. -/
  | unencodable (fault : Fault)
  /-- The name holds a NUL. -/
  | embeddedNul
  /-- The name is not registered. -/
  | unknown
  /-- The name stands for a transformation that is no conversion between text and bytes. -/
  | notText
  /-- The charset refuses every conversion. -/
  | refused (fault : Fault)

/-- The charset of a name. -/
def ofName (name : Text) : Except NameFault Charset :=
  match utf8Writer.encode .strict name with
  | .error fault => .error (.unencodable fault)
  | .ok _ =>
    if name.any (·.val == 0) then .error .embeddedNul
    else
      match ofNormalName? (normalName name) with
      | none => .error .unknown
      | some charset =>
        match charset.codec with
        | .transform => .error .notText
        | .undefined => .error (.refused (.within .encoding charset.name .undefined))
        | _ => .ok charset

/-- The charset that requests use for text. -/
def utf8 : Charset := ⟨"utf-8", .utf8 false⟩

end WideColumn.Charset
