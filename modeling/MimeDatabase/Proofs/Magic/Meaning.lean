import MimeDatabase.Proofs.Magic.Conditions
import MimeDatabase.Proofs.Magic.Lookup
import MimeDatabase.Proofs.Magic.Words

/-!
# The meaning of a magic rule

A content satisfies a rule if and only if some path through the entries of the rule, from a root
down to an entry without conditions, has only signatures that the content satisfies. A signature is
satisfied if its value stands at one of the positions that it allows, byte for byte in the bits of
its mask (`holds_iff_isPath`).

In a content of little-endian words, a byte of the value stands where the reversed word has it. It
does not matter whether the words of the value and the mask are reversed for that, as
`Signature.probe` does, or those of the content: reversing is its own inverse (`fits_probe_iff`).
The third way to compare, one big-endian number for all bytes of a window under one number for the
mask, is the same again (`standsAt_iff_windowNumber`).
-/

namespace MimeDatabase.Magic

/-! ## Signatures -/

namespace Signature

/-- A signature counts from the front, its mask is as long as its value, and both are made of whole
words. -/
structure IsSound (s : Signature) : Prop where
  start_nonneg : 0 ≤ s.start
  mask_length : ∀ m ∈ s.mask, m.length = s.value.length
  wordSize_dvd : s.wordSize ∣ s.value.length

instance (s : Signature) : Decidable s.IsSound :=
  decidable_of_iff (0 ≤ s.start ∧ (∀ m ∈ s.mask, m.length = s.value.length) ∧
      s.wordSize ∣ s.value.length)
    ⟨fun ⟨h₁, h₂, h₃⟩ => ⟨h₁, h₂, h₃⟩, fun ⟨h₁, h₂, h₃⟩ => ⟨h₁, h₂, h₃⟩⟩

/-- Where the byte that stands for byte `i` of the value is found, counted from the position of the
value. -/
def byteIndex (s : Signature) (order : ByteOrder) (i : Nat) : Nat :=
  match order with
  | .little => wordIndex s.wordSize i
  | .big => i

/-- The bits of byte `i` of the value that count: those of the mask, and all without a mask. -/
def maskByte (s : Signature) (i : Nat) : UInt8 :=
  match s.mask with
  | some mask => mask.getD i 0xFF
  | none => 0xFF

/-- The value stands at a position of the data: it does not reach beyond the end, and each of its
bytes agrees with the data in the bits that count. -/
def StandsAt (s : Signature) (order : ByteOrder) (data : List UInt8) (p : Nat) : Prop :=
  p + s.value.length ≤ data.length ∧
    ∀ i v, s.value[i]? = some v →
      ∃ b, data[p + s.byteIndex order i]? = some b ∧ b &&& s.maskByte i = v &&& s.maskByte i

/-- The value stands at one of the positions that the signature allows. -/
def IsSatisfied (s : Signature) (order : ByteOrder) (data : List UInt8) : Prop :=
  ∃ p : Nat, s.start ≤ p ∧ p < s.start + s.range ∧ s.StandsAt order data p

/-- The bytes at a position, as many as the value has, with their words reversed where the byte
order asks for it. -/
def window (s : Signature) (order : ByteOrder) (data : List UInt8) (p : Nat) : List UInt8 :=
  s.stored order ((data.drop p).take s.value.length)

variable {s : Signature} {order : ByteOrder} {data : List UInt8} {i p : Nat}

theorem byteIndex_lt (order : ByteOrder) (hs : s.IsSound) (hi : i < s.value.length) :
    s.byteIndex order i < s.value.length := by
  cases order with
  | little => exact wordIndex_lt hs.wordSize_dvd hi
  | big => exact hi

/-- To swap words twice is to leave them. -/
theorem byteIndex_byteIndex (order : ByteOrder) (hs : s.IsSound) (hi : i < s.value.length) :
    s.byteIndex order (s.byteIndex order i) = i := by
  cases order with
  | little => exact wordIndex_wordIndex hs.wordSize_dvd hi
  | big => rfl

theorem length_fullMask (hs : s.IsSound) : s.fullMask.length = s.value.length := by
  unfold fullMask
  cases hm : s.mask with
  | none => exact List.length_replicate
  | some mask => exact hs.mask_length mask hm

theorem getElem?_fullMask (hs : s.IsSound) (hi : i < s.value.length) :
    s.fullMask[i]? = some (s.maskByte i) := by
  unfold fullMask maskByte
  cases hm : s.mask with
  | none => exact List.getElem?_replicate_of_lt hi
  | some mask =>
    have hlt : i < mask.length := by rwa [hs.mask_length mask hm]
    show mask[i]? = some (mask.getD i 0xFF)
    rw [List.getD_eq_getElem?_getD, List.getElem?_eq_getElem hlt, Option.getD_some]

/-- Bytes that are whole words are stored so that each stands at its byte index. -/
theorem getElem?_stored {bytes : List UInt8} (hdvd : s.wordSize ∣ bytes.length)
    (hi : i < bytes.length) : (s.stored order bytes)[i]? = bytes[s.byteIndex order i]? := by
  unfold stored byteIndex
  cases order with
  | big => rw [if_neg (by simp)]
  | little =>
    by_cases hw : 1 < s.wordSize
    · rw [if_pos ⟨hw, rfl⟩]
      exact getElem?_swapWords hdvd hi
    · -- a word of a single byte is its own reverse
      have hone : s.wordSize = 1 := by
        have := Nat.pos_of_dvd_of_pos hdvd (Nat.zero_lt_of_lt hi)
        omega
      have hindex : wordIndex s.wordSize i = i := by
        unfold wordIndex
        rw [hone, Nat.div_one, Nat.mod_one]
        omega
      rw [if_neg (fun h => hw h.1), hindex]

/-! ### Where a value stands -/

/-- A probe fits if every byte of it, masked, is that of the data. -/
theorem fits_iff {probe : List (UInt8 × UInt8)} {bytes : List UInt8} :
    fits probe bytes = true ↔
      ∀ (i : Nat) (m v : UInt8), probe[i]? = some (m, v) →
        ∃ b, bytes[i]? = some b ∧ b &&& m = v := by
  induction probe generalizing bytes with
  | nil => simp [fits]
  | cons first probe ih =>
    obtain ⟨m, v⟩ := first
    cases bytes with
    | nil =>
      refine iff_of_false (by simp [fits]) fun h => ?_
      obtain ⟨b, hb, -⟩ := h 0 m v rfl
      cases hb
    | cons b bytes =>
      rw [fits, Bool.and_eq_true, beq_iff_eq, ih]
      constructor
      · rintro ⟨hfirst, hrest⟩ i m' v' hi
        cases i with
        | zero =>
          cases hi
          exact ⟨b, rfl, hfirst⟩
        | succ i => exact hrest i m' v' hi
      · intro h
        refine ⟨?_, fun i m' v' hi => h (i + 1) m' v' hi⟩
        obtain ⟨b', hb', heq⟩ := h 0 m v rfl
        cases hb'
        exact heq

/-- A probe fits within the first positions if and only if it fits at one of them. -/
theorem fitsWithin_iff {probe : List (UInt8 × UInt8)} {count : Nat} {bytes : List UInt8} :
    fitsWithin probe count bytes = true ↔
      ∃ k < count, k ≤ bytes.length ∧ fits probe (bytes.drop k) = true := by
  induction count generalizing bytes with
  | zero => simp [fitsWithin]
  | succ count ih =>
    cases bytes with
    | nil =>
      rw [fitsWithin]
      constructor
      · intro h
        exact ⟨0, Nat.succ_pos count, Nat.le_refl 0, h⟩
      · rintro ⟨k, -, -, h⟩
        rwa [List.drop_nil] at h
    | cons b bytes =>
      rw [fitsWithin, Bool.or_eq_true, ih]
      constructor
      · rintro (h | ⟨k, hk, hle, h⟩)
        · exact ⟨0, Nat.succ_pos count, Nat.zero_le _, h⟩
        · exact ⟨k + 1, Nat.succ_lt_succ hk, Nat.succ_le_succ hle, h⟩
      · rintro ⟨k, hk, hle, h⟩
        cases k with
        | zero => exact Or.inl h
        | succ k => exact Or.inr ⟨k, Nat.lt_of_succ_lt_succ hk, Nat.le_of_succ_le_succ hle, h⟩

/-- A probe asks for the bytes of the value at their byte indices. -/
theorem getElem?_probe (order : ByteOrder) (hs : s.IsSound) (hi : i < s.value.length) {v : UInt8}
    (hv : s.value[s.byteIndex order i]? = some v) :
    (s.probe order)[i]? = some (s.maskByte (s.byteIndex order i),
      v &&& s.maskByte (s.byteIndex order i)) := by
  have hmask : (s.stored order s.fullMask)[i]? = some (s.maskByte (s.byteIndex order i)) := by
    have hlength := length_fullMask hs
    rw [getElem?_stored (hlength ▸ hs.wordSize_dvd) (hlength ▸ hi),
      getElem?_fullMask hs (byteIndex_lt order hs hi)]
  unfold probe
  rw [List.getElem?_zipWith, hmask, getElem?_stored hs.wordSize_dvd hi, hv]

/-- The probe of a sound signature is as long as its value. -/
theorem length_probe (order : ByteOrder) (hs : s.IsSound) :
    (s.probe order).length = s.value.length := by
  rw [probe, List.length_zipWith, length_stored, length_stored, length_fullMask hs, Nat.min_self]

/-- The probe of a signature fits where its value stands. -/
theorem fits_probe_iff (hs : s.IsSound) (hp : p ≤ data.length) :
    fits (s.probe order) (data.drop p) = true ↔ s.StandsAt order data p := by
  rw [fits_iff]
  simp only [List.getElem?_drop]
  constructor
  · intro h
    -- each byte of the value is asked for at its byte index
    have hbyte : ∀ i v, s.value[i]? = some v →
        ∃ b, data[p + s.byteIndex order i]? = some b ∧ b &&& s.maskByte i = v &&& s.maskByte i := by
      intro i v hv
      have hi : i < s.value.length := (List.getElem?_eq_some_iff.mp hv).1
      have hself := byteIndex_byteIndex order hs hi
      have hprobe := getElem?_probe order hs (byteIndex_lt order hs hi) (hself.symm ▸ hv)
      rw [hself] at hprobe
      exact h _ _ _ hprobe
    refine ⟨?_, hbyte⟩
    cases hlength : s.value.length with
    | zero => exact hp
    | succ last =>
      -- the byte that is found at the last place lies within the data
      have hlast : last < s.value.length := by omega
      have hindex := byteIndex_lt order hs hlast
      obtain ⟨b, hb, -⟩ := hbyte _ _ (List.getElem?_eq_getElem hindex)
      rw [byteIndex_byteIndex order hs hlast] at hb
      have := (List.getElem?_eq_some_iff.mp hb).1
      omega
  · rintro ⟨-, hbyte⟩ i m v hprobe
    have hi : i < s.value.length := by
      rw [← length_probe order hs]
      exact (List.getElem?_eq_some_iff.mp hprobe).1
    have hv := List.getElem?_eq_getElem (byteIndex_lt order hs hi)
    rw [getElem?_probe order hs hi hv] at hprobe
    cases hprobe
    obtain ⟨b, hb, heq⟩ := hbyte _ _ hv
    rw [byteIndex_byteIndex order hs hi] at hb
    exact ⟨b, hb, heq⟩

/-- A value is found from a position on if its probe fits at one of so many positions of the
data. -/
theorem isFoundFrom_iff {start count : Nat} : s.isFoundFrom order data start count = true ↔
    ∃ p, start ≤ p ∧ p < start + count ∧ p ≤ data.length ∧
      fits (s.probe order) (data.drop p) = true := by
  rw [isFoundFrom, Bool.and_eq_true, decide_eq_true_eq, fitsWithin_iff]
  constructor
  · rintro ⟨hstart, k, hk, hle, h⟩
    rw [List.length_drop] at hle
    rw [List.drop_drop] at h
    exact ⟨start + k, by omega, by omega, by omega, h⟩
  · rintro ⟨p, hfirst, hlast, hle, h⟩
    obtain ⟨k, rfl⟩ := Nat.exists_eq_add_of_le hfirst
    refine ⟨by omega, k, by omega, by rw [List.length_drop]; omega, ?_⟩
    rwa [List.drop_drop]

/-- A signature is found in data that satisfies it. -/
theorem isFound_iff (hs : s.IsSound) : s.isFound order data = true ↔ s.IsSatisfied order data := by
  obtain ⟨start, hstart⟩ := Int.eq_ofNat_of_zero_le hs.start_nonneg
  have hfound : s.isFound order data = s.isFoundFrom order data start s.range := by
    unfold isFound
    rw [hstart]
  rw [hfound, isFoundFrom_iff, IsSatisfied, hstart]
  constructor
  · rintro ⟨p, hfirst, hlast, hle, h⟩
    exact ⟨p, by omega, by omega, (fits_probe_iff hs hle).mp h⟩
  · rintro ⟨p, hfirst, hlast, h⟩
    have hle : p ≤ data.length := Nat.le_trans (Nat.le_add_right p _) h.1
    exact ⟨p, by omega, by omega, hle, (fits_probe_iff hs hle).mpr h⟩

/-! ### Windows -/

section Window

variable (hend : p + s.value.length ≤ data.length)
include hend

theorem length_take_drop : ((data.drop p).take s.value.length).length = s.value.length := by
  rw [List.length_take, List.length_drop]
  omega

theorem length_window (order : ByteOrder) :
    (s.window order data p).length = s.value.length := by
  rw [window, length_stored, length_take_drop hend]

/-- A byte of a window is the byte of the data at its byte index. -/
theorem getElem?_window (hs : s.IsSound) (hi : i < s.value.length) :
    (s.window order data p)[i]? = data[p + s.byteIndex order i]? := by
  have hlength := length_take_drop hend
  rw [window, getElem?_stored (hlength.symm ▸ hs.wordSize_dvd) (hlength.symm ▸ hi),
    List.getElem?_take_of_lt (byteIndex_lt order hs hi), List.getElem?_drop]

end Window

/-- Two byte strings agree under a mask if and only if all of their bytes do. -/
theorem zipWith_and_eq_iff {as bs mask : List UInt8} (has : as.length = mask.length)
    (hbs : bs.length = mask.length) :
    as.zipWith (· &&& ·) mask = bs.zipWith (· &&& ·) mask ↔
      ∀ (i : Nat) (a b m : UInt8), as[i]? = some a → bs[i]? = some b → mask[i]? = some m →
        a &&& m = b &&& m := by
  constructor
  · intro h i a b m ha hb hm
    have hsame := congrArg (·[i]?) h
    simp only [List.getElem?_zipWith, ha, hb, hm, Option.some.injEq] at hsame
    exact hsame
  · intro h
    refine List.ext_getElem (by simp [has, hbs]) fun i hi hi' => ?_
    rw [List.length_zipWith] at hi
    rw [List.getElem_zipWith, List.getElem_zipWith]
    exact h i _ _ _ (List.getElem?_eq_getElem _) (List.getElem?_eq_getElem _)
      (List.getElem?_eq_getElem _)

/-- A value stands where the number of the window agrees with that of the value in the bits of the
mask. -/
theorem standsAt_iff_windowNumber (hs : s.IsSound) :
    s.StandsAt order data p ↔ p + s.value.length ≤ data.length ∧
      bigEndian (s.window order data p) &&& bigEndian s.fullMask =
        bigEndian s.value &&& bigEndian s.fullMask := by
  unfold StandsAt
  refine and_congr_right fun hend => ?_
  have hmask := length_fullMask hs
  have hwindow := length_window hend order
  have hnumbers : bigEndian (s.window order data p) &&& bigEndian s.fullMask =
        bigEndian s.value &&& bigEndian s.fullMask ↔
      (s.window order data p).zipWith (· &&& ·) s.fullMask =
        s.value.zipWith (· &&& ·) s.fullMask := by
    rw [bigEndian_and (by omega), bigEndian_and (by omega)]
    exact ⟨bigEndian_injective (by simp; omega), congrArg bigEndian⟩
  rw [hnumbers, zipWith_and_eq_iff (by omega) (by omega)]
  constructor
  · intro h i b v m hb hv hm
    have hi : i < s.value.length := (List.getElem?_eq_some_iff.mp hv).1
    obtain ⟨b', hb', heq⟩ := h i v hv
    rw [getElem?_window hend hs hi, hb'] at hb
    rw [getElem?_fullMask hs hi] at hm
    cases hb
    cases hm
    exact heq
  · intro h i v hv
    have hi : i < s.value.length := (List.getElem?_eq_some_iff.mp hv).1
    have hplace := byteIndex_lt order hs hi
    have hb := List.getElem?_eq_getElem (l := data) (i := p + s.byteIndex order i) (by omega)
    exact ⟨_, hb, h i _ v _ ((getElem?_window hend hs hi).trans hb) hv (getElem?_fullMask hs hi)⟩

end Signature

/-! ## Entries and rules -/

namespace Entry

/-- A path from an entry down to one without conditions, told by the signatures on it. -/
inductive IsPath : Entry → List Signature → Prop
  | leaf (s : Signature) : IsPath (node s []) [s]
  | step {s : Signature} {cs : List Entry} {c : Entry} {path : List Signature} (hc : c ∈ cs)
      (hpath : IsPath c path) : IsPath (node s cs) (s :: path)

/-- The signatures on a path are those of entries at and below the first one. -/
theorem IsPath.exists_subentry {e : Entry} {path : List Signature} (h : e.IsPath path)
    {s : Signature} (hs : s ∈ path) : ∃ f ∈ e.subentries, f.signature = s := by
  induction h with
  | leaf own =>
    exact ⟨_, self_mem_subentries _, (List.mem_singleton.mp hs).symm⟩
  | step hc _ ih =>
    rcases List.mem_cons.mp hs with rfl | hbelow
    · exact ⟨_, self_mem_subentries _, rfl⟩
    · obtain ⟨f, hf, hfs⟩ := ih hbelow
      exact ⟨f, mem_subentries_node_iff.mpr (Or.inr ⟨_, hc, hf⟩), hfs⟩

mutual

/-- An entry holds if and only if all signatures of a path below it are found. -/
theorem holds_iff_isFound (order : ByteOrder) (data : List UInt8) :
    ∀ e : Entry, e.holds order data = true ↔
      ∃ path, e.IsPath path ∧ ∀ s ∈ path, s.isFound order data = true
  | node s cs => by
    rw [holds, Bool.and_eq_true, Bool.or_eq_true, List.isEmpty_iff,
      anyHolds_iff_isFound order data cs]
    constructor
    · rintro ⟨hs, rfl | ⟨c, hc, path, hpath, hall⟩⟩
      · exact ⟨[s], .leaf s, fun s' hs' => List.mem_singleton.mp hs' ▸ hs⟩
      · exact ⟨s :: path, .step hc hpath, List.forall_mem_cons.mpr ⟨hs, hall⟩⟩
    · rintro ⟨path, hpath, hall⟩
      cases hpath with
      | leaf => exact ⟨hall s List.mem_cons_self, Or.inl rfl⟩
      | step hc hbelow =>
        rw [List.forall_mem_cons] at hall
        exact ⟨hall.1, Or.inr ⟨_, hc, _, hbelow, hall.2⟩⟩

/-- A forest holds if and only if some path from a root to a leaf is found. -/
theorem anyHolds_iff_isFound (order : ByteOrder) (data : List UInt8) :
    ∀ es : List Entry, anyHolds order data es = true ↔
      ∃ e ∈ es, ∃ path, e.IsPath path ∧ ∀ s ∈ path, s.isFound order data = true
  | [] => by simp [anyHolds]
  | e :: es => by
    rw [anyHolds, Bool.or_eq_true, holds_iff_isFound order data e,
      anyHolds_iff_isFound order data es, List.exists_mem_cons_iff]

end

end Entry

/-- **The meaning of a rule.** Data satisfies a rule if and only if all signatures on some path from
a root of the rule to a leaf are satisfied. What that means is told byte by byte, and it is the same
if the bytes of a window are compared as one number under the mask. -/
theorem holds_iff_isPath {r : Rule}
    (hr : ∀ e ∈ Entry.forestSubentries r.entries, e.signature.IsSound) (order : ByteOrder)
    (data : List UInt8) :
    (r.holds order data = true ↔
        ∃ e ∈ r.entries, ∃ path, e.IsPath path ∧ ∀ s ∈ path, s.IsSatisfied order data) ∧
      ∀ e ∈ Entry.forestSubentries r.entries, ∀ p,
        e.signature.StandsAt order data p ↔
          p + e.signature.value.length ≤ data.length ∧
            bigEndian (e.signature.window order data p) &&& bigEndian e.signature.fullMask =
              bigEndian e.signature.value &&& bigEndian e.signature.fullMask := by
  refine ⟨?_, fun e he p => Signature.standsAt_iff_windowNumber (hr e he)⟩
  rw [Rule.holds, Entry.anyHolds_iff_isFound]
  refine exists_congr fun e => and_congr_right fun he => exists_congr fun path =>
    and_congr_right fun hpath => forall₂_congr fun s hs => ?_
  obtain ⟨f, hf, rfl⟩ := hpath.exists_subentry hs
  exact Signature.isFound_iff (hr f (Entry.mem_forestSubentries_iff.mpr ⟨e, he, hf⟩))

/-- A rule with two alternatives. The second one looks for a word under a mask at two positions, and
has a condition. -/
def maskedWord : Rule :=
  ⟨"image/x-word", 50,
    [.node ⟨0, 1, [0x41], none, 1⟩ [],
      .node ⟨1, 2, [0x12, 0x34], some [0xFF, 0xF0], 2⟩ [.node ⟨4, 1, [0x42], none, 1⟩ []]]⟩

/-- In little-endian data, the word stands reversed, and the bits that do not count differ. -/
theorem holds_iff_isPath_maskedWord :
    let data : List UInt8 := [0x00, 0x00, 0x3F, 0x12, 0x42]
    (∀ e ∈ Entry.forestSubentries maskedWord.entries, e.signature.IsSound) ∧
      maskedWord.entries[1] ∈ Entry.forestSubentries maskedWord.entries ∧
      (∃ e ∈ maskedWord.entries, ∃ path, e.IsPath path ∧ ∀ s ∈ path, s.IsSatisfied .little data) ∧
      maskedWord.entries[1].signature.StandsAt .little data 2 := by
  intro data
  have hsound : ∀ e ∈ Entry.forestSubentries maskedWord.entries, e.signature.IsSound := by decide
  have hmem : maskedWord.entries[1] ∈ Entry.forestSubentries maskedWord.entries :=
    Entry.mem_forestSubentries_iff.mpr ⟨_, List.getElem_mem _, Entry.self_mem_subentries _⟩
  obtain ⟨hholds, hstands⟩ := holds_iff_isPath hsound .little data
  exact ⟨hsound, hmem, hholds.mp (by decide +kernel), (hstands _ hmem 2).mpr (by decide +kernel)⟩

end MimeDatabase.Magic
