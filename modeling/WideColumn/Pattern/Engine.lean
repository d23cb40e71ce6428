import WideColumn.Error
import WideColumn.Pattern.Search

/-!
# Engines

Regular expressions are compiled and matched by an engine that is not part of the store. A
comparison only asks it whether a pattern matches somewhere in some data, and passes its errors on,
whatever they are. So filters do not depend on the engine, and what is proved of them holds for any.
The one that is here answers where no other is meant.
-/
namespace WideColumn.Pattern

/-- An engine for regular expressions. -/
class Engine where
  /-- Whether a pattern matches somewhere in the data, or the error of compiling or searching. -/
  search : Bytes → Bytes → Except Error Bool

/-- The engine that is here. -/
instance Engine.standard : Engine where
  search pattern data :=
    match Pattern.search pattern data with
    | .ok found => .ok found
    | .error fault => .error (.pattern fault)

end WideColumn.Pattern
