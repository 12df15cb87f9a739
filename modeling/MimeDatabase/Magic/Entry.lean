import MimeDatabase.Grade

/-!
# Magic rules

A magic rule is a forest of comparisons with the leading bytes of a file. The roots are
alternatives, and the children of an entry are alternatives for a further condition.
-/

namespace MimeDatabase.Magic

/-- A comparison: the value is looked for at `range` consecutive positions from `start` on, under a
mask if there is one. Positions below zero count from the end of the data. Value and mask are made
of big-endian words of `wordSize` bytes. -/
structure Signature where
  start : Int
  range : Nat
  value : List UInt8
  mask : Option (List UInt8)
  wordSize : Nat
  deriving DecidableEq, Repr

/-- Why a signature makes no sense. -/
inductive SignatureFault where
  | maskLength
  | emptyRange
  deriving DecidableEq, Repr

/-- The text of a fault. -/
def SignatureFault.message : SignatureFault → String
  | maskLength => "mask and value must have the same length"
  | emptyRange => "range_length must be at least 1"

/-- The fault of a signature, if it has one: a mask of another length than the value, or a range
without positions. -/
def Signature.fault? (s : Signature) : Option SignatureFault :=
  if s.mask.any (·.length != s.value.length) then some .maskLength
  else if s.range = 0 then some .emptyRange
  else none

/-- What every signature of a magic file is: it starts at a position of the data, tries some
position, and its value and mask are non-empty, of the same length and made of whole words. -/
structure Signature.WellFormed (s : Signature) : Prop where
  start_nonneg : 0 ≤ s.start
  range_pos : 1 ≤ s.range
  value_pos : 1 ≤ s.value.length
  value_lt : s.value.length < 65536
  mask_length : ∀ m ∈ s.mask, m.length = s.value.length
  wordSize_mem : s.wordSize ∈ [1, 2, 4]
  wordSize_dvd : s.wordSize ∣ s.value.length

instance (s : Signature) : Decidable s.WellFormed :=
  decidable_of_iff (0 ≤ s.start ∧ 1 ≤ s.range ∧ 1 ≤ s.value.length ∧ s.value.length < 65536 ∧
      (∀ m ∈ s.mask, m.length = s.value.length) ∧ s.wordSize ∈ [1, 2, 4] ∧
      s.wordSize ∣ s.value.length)
    ⟨fun ⟨h₁, h₂, h₃, h₄, h₅, h₆, h₇⟩ => ⟨h₁, h₂, h₃, h₄, h₅, h₆, h₇⟩,
      fun ⟨h₁, h₂, h₃, h₄, h₅, h₆, h₇⟩ => ⟨h₁, h₂, h₃, h₄, h₅, h₆, h₇⟩⟩

/-- The number of leading bytes that the comparison may look at. -/
def Signature.extent (s : Signature) : Int := s.start + s.range + s.value.length

/-- A signature with the conditions that refine it. -/
inductive Entry where
  | node (signature : Signature) (children : List Entry)
  deriving Repr

instance : Inhabited Entry := ⟨.node ⟨0, 1, [], none, 1⟩ []⟩

namespace Entry

/-- The comparison of an entry. -/
def signature : Entry → Signature
  | node s _ => s

/-- The conditions below an entry. -/
def children : Entry → List Entry
  | node _ cs => cs

mutual

/-- The number of leading bytes that an entry and the entries below it may look at. -/
def extent : Entry → Int
  | node s cs => forestExtent s.extent cs

/-- The greatest extent of some entries, and `least` at least. -/
def forestExtent (least : Int) : List Entry → Int
  | [] => least
  | e :: es => max e.extent (forestExtent least es)

end

mutual

/-- The number of levels of a tree. -/
def height : Entry → Nat
  | node _ cs => forestHeight cs + 1

/-- The number of levels of a forest. -/
def forestHeight : List Entry → Nat
  | [] => 0
  | e :: es => max e.height (forestHeight es)

end

mutual

/-- The first fault in a tree; children come before their parent. -/
def fault? : Entry → Option SignatureFault
  | node s cs => (forestFault? cs).or s.fault?

/-- The first fault in a forest. -/
def forestFault? : List Entry → Option SignatureFault
  | [] => none
  | e :: es => e.fault?.or (forestFault? es)

end

mutual

/-- The signatures of a tree with their depths, parents before children. -/
def preorder (depth : Nat) : Entry → List (Nat × Signature)
  | node s cs => (depth, s) :: forestPreorder (depth + 1) cs

/-- The signatures of a forest with their depths, trees one after the other. -/
def forestPreorder (depth : Nat) : List Entry → List (Nat × Signature)
  | [] => []
  | e :: es => e.preorder depth ++ forestPreorder depth es

end

/-- The forest that lists of signatures with depths describe: what follows an entry at a greater
depth lies below it. -/
def ofPreorder : List (Nat × Signature) → List Entry
  | [] => []
  | (depth, s) :: rest =>
    node s (ofPreorder (rest.takeWhile (depth < ·.1))) ::
      ofPreorder (rest.dropWhile (depth < ·.1))
termination_by lines => lines.length
decreasing_by
  · have := (List.takeWhile_sublist (l := rest) (fun x => decide (depth < x.1))).length_le
    simp
    omega
  · have := (List.dropWhile_sublist (l := rest) (fun x => decide (depth < x.1))).length_le
    simp
    omega

end Entry

/-- All signatures of a type. -/
structure Rule where
  typeName : String
  priority : Nat
  entries : List Entry
  deriving Repr

/-- A rule whose priority is any number; it is brought into the range of priorities. -/
def Rule.make (typeName : String) (priority : Int) (entries : List Entry) : Rule :=
  ⟨typeName, clampGrade priority, entries⟩

/-- The number of leading bytes that a rule may look at. -/
def Rule.extent (r : Rule) : Int :=
  match r.entries with
  | [] => 0
  | e :: es => Entry.forestExtent e.extent es

/-- The number of levels of a rule. -/
def Rule.height (r : Rule) : Nat := Entry.forestHeight r.entries

end MimeDatabase.Magic
