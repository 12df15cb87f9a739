import MimeDatabase.Number.Double

/-!
# Capacity

How much can be held at once. Room for bytes is made before they are read or written, and that fails
for sizes that no index reaches, that leave no room for the size itself, or that exceed the memory.
-/

namespace MimeDatabase

/-- Why there is no room. -/
inductive CapacityFault where
  /-- The size is no index. -/
  | noIndex
  /-- There is no room for the size itself. -/
  | tooLong
  /-- The memory is exceeded. -/
  | noMemory
  /-- The size is below zero, and not the one that stands for everything. -/
  | belowZero
  deriving DecidableEq, Repr

/-- The text of the fault. -/
def CapacityFault.message : CapacityFault → String
  | noIndex => "cannot fit 'int' into an index-sized integer"
  | tooLong => "byte string is too large"
  | noMemory => ""
  | belowZero => "read length must be non-negative or -1"

namespace Capacity

/-- The greatest index. -/
def maxIndex : Nat := powerOfTwo 63 - 1

/-- The bytes that are taken up beside those of a byte string. -/
def overhead : Nat := 33

/-- The bytes of the memory. -/
def memory : Nat := powerOfTwo 35

/-- Why there is no room for a number of bytes, if there is none. -/
def fault? (count : Nat) : Option CapacityFault :=
  if maxIndex < count then some .noIndex
  else if maxIndex < count + overhead then some .tooLong
  else if memory < count then some .noMemory
  else none

/-- Why a number of bytes cannot be read from a file, if they cannot. Minus one stands for all
bytes. -/
def readFault? : Int → Option CapacityFault
  | .ofNat count => fault? count
  | .negSucc n => if n = 0 then none else some .belowZero

end Capacity

end MimeDatabase
