import MimeDatabase.Magic.Entry

/-!
# Matching contents

When a content satisfies a signature, an entry and a rule. Multi-byte words stand in the content in
the byte order of the machine that wrote it, so on a little-endian machine value and mask are
compared with their words reversed.
-/

namespace MimeDatabase.Magic

/-- The order of the bytes of a word. -/
inductive ByteOrder where
  | little
  | big
  deriving DecidableEq, Repr

/-- Reverses every word of `size` bytes; a shorter rest is reversed too. -/
def swapWords (size : Nat) (bytes : List UInt8) : List UInt8 :=
  if _h : size = 0 ∨ bytes = [] then bytes
  else (bytes.take size).reverse ++ swapWords size (bytes.drop size)
termination_by bytes.length
decreasing_by
  have : 0 < bytes.length := List.length_pos_iff.2 (fun e => _h (Or.inr e))
  have : size ≠ 0 := fun e => _h (Or.inl e)
  simp
  omega

namespace Signature

/-- A byte string as it stands in contents of a byte order. -/
def stored (s : Signature) (order : ByteOrder) (bytes : List UInt8) : List UInt8 :=
  if 1 < s.wordSize ∧ order = .little then swapWords s.wordSize bytes else bytes

/-- The mask, all ones if there is none. -/
def fullMask (s : Signature) : List UInt8 :=
  s.mask.getD (List.replicate s.value.length 0xFF)

/-- What to compare, byte after byte: the bits that count and the value they must have. -/
def probe (s : Signature) (order : ByteOrder) : List (UInt8 × UInt8) :=
  (s.stored order s.fullMask).zipWith (fun m v => (m, v &&& m)) (s.stored order s.value)

/-- Whether data starts with what a probe asks for. -/
def fits : List (UInt8 × UInt8) → List UInt8 → Bool
  | [], _ => true
  | _ :: _, [] => false
  | (m, v) :: ps, b :: bs => b &&& m == v && fits ps bs

/-- Whether a probe fits at one of the first `count` positions of the data; the end of the data is
the last position. -/
def fitsWithin (probe : List (UInt8 × UInt8)) : Nat → List UInt8 → Bool
  | 0, _ => false
  | _ + 1, [] => fits probe []
  | count + 1, b :: bs => fits probe (b :: bs) || fitsWithin probe count bs

/-! ### Positions that count from the end -/

/-- The bytes from the position `back` before the end of the data on, as many as asked for. They
stop at the end of the data, and what would lie before its beginning is missing; if they reach the
very end, there are none. -/
def chunkBefore (data : List UInt8) (back count : Nat) : List UInt8 :=
  let stop := if count < back then data.length - (back - count) else count - back
  (data.take stop).drop (data.length - back)

/-- Whether a chunk is the value under the mask. Without a mask, the chunk has to be as long as the
value; with one, zeros stand for missing bytes before it. -/
def fitsChunk (s : Signature) (order : ByteOrder) (chunk : List UInt8) : Bool :=
  let stored := s.stored order chunk
  match s.mask with
  | none => stored == s.value
  | some mask =>
    let full := List.replicate (s.value.length - stored.length) 0 ++ stored
    full.zipWith (· &&& ·) mask == s.value.zipWith (· &&& ·) mask

/-- Whether the value is found at one of the `count` positions from `back` before the end on, as far
as they lie before the end and the value would not reach beyond it. -/
def isFoundBefore (s : Signature) (order : ByteOrder) (data : List UInt8) : Nat → Nat → Bool
  | 0, _ => false
  | _, 0 => false
  | count + 1, back + 1 =>
    (s.value.length ≤ data.length + (back + 1) &&
      s.fitsChunk order (chunkBefore data (back + 1) s.value.length)) ||
    s.isFoundBefore order data count back

/-! ### All positions -/

/-- Whether the value is found at one of `count` positions from `start` on. -/
def isFoundFrom (s : Signature) (order : ByteOrder) (data : List UInt8) (start count : Nat) :
    Bool :=
  start ≤ data.length && fitsWithin (s.probe order) count (data.drop start)

/-- Whether the value is found at one of the positions that the signature allows. -/
def isFound (s : Signature) (order : ByteOrder) (data : List UInt8) : Bool :=
  match s.start with
  | .ofNat start => s.isFoundFrom order data start s.range
  | .negSucc n =>
    s.isFoundBefore order data s.range (n + 1) ||
      s.isFoundFrom order data 0 (s.range - (n + 1))

end Signature

namespace Entry

mutual

/-- Whether data satisfies an entry: its signature is found and, if there are entries below, one of
them is satisfied. -/
def holds (order : ByteOrder) (data : List UInt8) : Entry → Bool
  | node s cs => s.isFound order data && (cs.isEmpty || anyHolds order data cs)

/-- Whether data satisfies one of some entries. -/
def anyHolds (order : ByteOrder) (data : List UInt8) : List Entry → Bool
  | [] => false
  | e :: es => e.holds order data || anyHolds order data es

end

end Entry

/-- Whether data satisfies one of the alternatives of a rule. -/
def Rule.holds (r : Rule) (order : ByteOrder) (data : List UInt8) : Bool :=
  Entry.anyHolds order data r.entries

end MimeDatabase.Magic
