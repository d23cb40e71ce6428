import WideColumn.Deferred.Basic

/-!
# The write buffer

Accepted writes wait in order of acceptance until a flush takes all of them at once, so that no
flush can see part of a batch.
-/
namespace WideColumn

/-- An accepted write that has not been handed to the pool. -/
structure BufferedWrite where
  /-- The write. -/
  request : Request
  /-- Where its outcome goes. -/
  deferred : DeferredId
  /-- When it was accepted. -/
  acceptedAt : Number

/-- Accepted writes in order of acceptance. -/
structure WriteBuffer where
  /-- The writes. -/
  entries : List BufferedWrite

namespace WriteBuffer

/-- No writes. -/
def empty : WriteBuffer := ⟨[]⟩

/-- How many writes there are. -/
def size (buffer : WriteBuffer) : Nat := buffer.entries.length

/-- Add a write. -/
def push (buffer : WriteBuffer) (write : BufferedWrite) : WriteBuffer :=
  ⟨buffer.entries ++ [write]⟩

/-- Take all writes out. -/
def swap (buffer : WriteBuffer) : List BufferedWrite × WriteBuffer := (buffer.entries, empty)

/-- When the oldest write was accepted. -/
def oldest? (buffer : WriteBuffer) : Option Number := buffer.entries.head?.map (·.acceptedAt)

/-- A write more makes the buffer one longer. -/
@[simp] theorem size_push (buffer : WriteBuffer) (write : BufferedWrite) :
    (buffer.push write).size = buffer.size + 1 := by
  simp [size, push]

end WriteBuffer
end WideColumn
