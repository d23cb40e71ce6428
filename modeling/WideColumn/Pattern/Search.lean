import WideColumn.Pattern.Matcher
import WideColumn.Pattern.Parser

/-!
# Searching

Whether a compiled pattern matches somewhere in a byte string. Reading and matching here have no
limits but those of the syntax: a pattern is never nested too deeply, and a search never runs out of
stack or memory. Nor does a search give up where the order of its backtracking would confuse it.
-/
namespace WideColumn.Pattern

/-- Whether a pattern matches somewhere in the data. -/
def Compiled.search (compiled : Compiled) (data : Bytes) : Bool :=
  searchFrom (machineAll compiled.flags compiled.items) [] data

/-- Compile a pattern and search the data with it. -/
def search (pattern data : Bytes) : Except Fault Bool :=
  (compile pattern).map fun compiled => compiled.search data

end WideColumn.Pattern
