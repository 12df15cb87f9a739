import MimeDatabase.Proofs.Detection.Evidence

/-!
# Reading only the front of a file

`Database.detectFile` reads `db.readSize` bytes of a file, the greatest extent of the magic rules,
and hands only these to `Database.detect`. The rules never look further, so what they decide is the
same for the whole content (`lookupData_front`). The shape of the content is another matter: it is
judged by the first `maxSniffBytes` bytes, and there may be more of them than the extent of the
rules asks for.

`IsMisjudged` is what goes wrong then: no rule decides, the front is all text, and a byte that is
not text follows before `maxSniffBytes`. The whole content is binary by its shape, its front is
text. It shows unless the name settles the type whatever the shape is (`LeavesOpen`).
`detectFile_eq_detect_iff` says that nothing else goes wrong, apart from a read that fails for want
of memory.
-/

namespace MimeDatabase

namespace Detection

/-! ## Shapes -/

/-- Text stays text when its end is cut off, as long as something is left of it. -/
theorem looksLikeText_of_prefix {front data : List UInt8} (hp : front <+: data) (hne : front ≠ [])
    (h : looksLikeText data = true) : looksLikeText front = true := by
  unfold looksLikeText at h ⊢
  rw [Bool.and_eq_true, List.all_eq_true] at h
  rw [Bool.and_eq_true, List.all_eq_true]
  refine ⟨?_, fun b hb => h.2 b (hp.subset hb)⟩
  rw [Bool.not_eq_true', List.isEmpty_eq_false_iff]
  exact hne

theorem not_looksLikeText_nil : looksLikeText [] = false := rfl

/-! ## Names that leave the shape to decide -/

/-- A name does not settle whether a content without a signature is text or binary: it matches no
glob, or it ties one of the two base types with another type that is better. -/
def LeavesOpen (glob : Option Glob.Match) : Prop :=
  ∀ m ∈ glob, ∃ t ∈ [MediaType.octetStream, MediaType.textPlain], t ∈ m.types ∧ m.best ≠ t

/-- Against a base type that only the shape points to, the name wins unless it is tied with it. -/
theorem reconcile_generic (m : Glob.Match) {t : MediaType} (ht : t.isGeneric = true) :
    reconcile (some m) (some t) = if t ∈ m.types then t else m.best := by
  rw [reconcile_some_some, ht]
  simp only [Bool.true_eq_false, or_false]

/-- The shape makes a difference exactly to the names that leave it open. -/
theorem reconcile_textPlain_eq_iff (glob : Option Glob.Match) :
    reconcile glob (some .textPlain) = reconcile glob (some .octetStream) ↔ ¬ LeavesOpen glob := by
  have hne : MediaType.textPlain ≠ MediaType.octetStream := by decide
  cases glob with
  | none =>
    constructor
    · intro h
      exact absurd h hne
    · intro h
      exact absurd (fun m hm => by cases hm) h
  | some m =>
    rw [reconcile_generic m rfl, reconcile_generic m rfl]
    have hopen : LeavesOpen (some m) ↔
        (.octetStream ∈ m.types ∧ m.best ≠ .octetStream) ∨
          (.textPlain ∈ m.types ∧ m.best ≠ .textPlain) := by
      simp [LeavesOpen]
    rw [hopen, not_or, Decidable.not_and_not_right, Decidable.not_and_not_right]
    by_cases htext : MediaType.textPlain ∈ m.types <;>
      by_cases hoctet : MediaType.octetStream ∈ m.types
    · -- both are tied with the best, which cannot be both of them
      rw [if_pos htext, if_pos hoctet]
      exact ⟨fun h => absurd h hne, fun h => (h.2 htext).symm.trans (h.1 hoctet)⟩
    · rw [if_pos htext, if_neg hoctet]
      exact ⟨fun h => ⟨fun hm => absurd hm hoctet, fun _ => h.symm⟩, fun h => (h.2 htext).symm⟩
    · rw [if_neg htext, if_pos hoctet]
      exact ⟨fun h => ⟨fun _ => h, fun hm => absurd hm htext⟩, fun h => h.1 hoctet⟩
    · rw [if_neg htext, if_neg hoctet]
      exact ⟨fun _ => ⟨fun hm => absurd hm hoctet, fun hm => absurd hm htext⟩, fun _ => rfl⟩

end Detection

namespace Database

open Detection (LeavesOpen looksLikeText shapeType)

/-! ## The front of a content -/

theorem front_prefix (db : Database) (content : List UInt8) : db.front content <+: content := by
  unfold front
  split
  · exact List.take_prefix _ _
  · exact List.prefix_rfl

/-- Something is read of every file that is not empty. -/
theorem front_eq_nil_iff (db : Database) (hlimit : 0 < db.settings.maxSniffBytes)
    (content : List UInt8) : db.front content = [] ↔ content = [] := by
  unfold front
  split
  · next count hsize =>
    -- without an extent, as many bytes are read as the shape is judged by
    have hcount : count ≠ 0 := by
      intro hzero
      rw [hzero, readSize] at hsize
      split at hsize
      · exact absurd (Int.ofNat.inj hsize) (Nat.ne_of_gt hlimit)
      · next hext => exact hext hsize
    rw [List.take_eq_nil_iff]
    exact or_iff_right hcount
  · rfl

/-- The rules see the same bytes of the front and of the whole content. -/
theorem leading_front (db : Database) (content : List UInt8) :
    Magic.Matcher.leading db.maxExtent (db.front content) =
      Magic.Matcher.leading db.maxExtent content := by
  by_cases hzero : db.maxExtent = 0
  · rw [hzero]
    show (db.front content).take 0 = content.take 0
    rw [List.take_zero, List.take_zero]
  · unfold front readSize
    rw [if_neg hzero]
    -- below zero the whole content is read
    cases db.maxExtent with
    | ofNat n =>
      show (content.take n).take n = content.take n
      rw [List.take_take, Nat.min_self]
    | negSucc n => rfl

/-- The rule that decides about the front decides about the whole content. -/
theorem lookupData_front (db : Database) (hlimit : 0 < db.settings.maxSniffBytes)
    (order : Magic.ByteOrder) (content : List UInt8) :
    db.lookupData order (db.front content) = db.lookupData order content := by
  show db.magic.lookup order (db.front content) = db.magic.lookup order content
  have hlead : Magic.Matcher.leading db.magic.maxExtent (db.front content) =
      Magic.Matcher.leading db.magic.maxExtent content := db.leading_front content
  unfold Magic.Matcher.lookup
  rw [hlead]
  by_cases hc : content = []
  · rw [hc, (db.front_eq_nil_iff hlimit []).mpr rfl]
  · have hf : db.front content ≠ [] := fun h => hc ((db.front_eq_nil_iff hlimit content).mp h)
    rw [if_neg (by rwa [List.isEmpty_iff]), if_neg (by rwa [List.isEmpty_iff])]

/-! ## Contents whose front looks different -/

/-- No rule decides about the content, and by its shape it is binary while its front is text. -/
def IsMisjudged (db : Database) (order : Magic.ByteOrder) (content : List UInt8) : Prop :=
  db.lookupData order content = none ∧ looksLikeText (db.front content) = true ∧
    looksLikeText (content.take db.settings.maxSniffBytes) = false

instance (db : Database) (order : Magic.ByteOrder) (content : List UInt8) :
    Decidable (db.IsMisjudged order content) :=
  inferInstanceAs (Decidable (_ ∧ _ ∧ _))

/-- Beyond the bytes by which the shape is judged, the front says no more than the content. -/
theorem take_front_eq (db : Database) {content : List UInt8}
    (h : db.settings.maxSniffBytes ≤ (db.front content).length) :
    (db.front content).take db.settings.maxSniffBytes =
      content.take db.settings.maxSniffBytes := by
  obtain ⟨rest, hrest⟩ := db.front_prefix content
  rw [← hrest, List.take_append_of_le_length h]
  rw [hrest]

/-- Text with a front that is cut off is text, so the front can only be taken for text wrongly. -/
theorem looksLikeText_take_front (db : Database) (hlimit : 0 < db.settings.maxSniffBytes)
    {content : List UInt8}
    (h : looksLikeText (content.take db.settings.maxSniffBytes) = true) :
    looksLikeText ((db.front content).take db.settings.maxSniffBytes) = true := by
  have hp : (db.front content).take db.settings.maxSniffBytes <+:
      content.take db.settings.maxSniffBytes :=
    List.prefix_take_iff.mpr ⟨(List.take_prefix _ _).trans (db.front_prefix content),
      List.length_take_le _ _⟩
  apply Detection.looksLikeText_of_prefix hp _ h
  intro hnil
  rcases List.take_eq_nil_iff.mp hnil with hzero | hfront
  · exact Nat.ne_of_gt hlimit hzero
  · rw [(db.front_eq_nil_iff hlimit content).mp hfront, List.take_nil,
      Detection.not_looksLikeText_nil] at h
    exact Bool.false_ne_true h

/-- What the content says when no rule decides about it. -/
theorem contentEvidence_of_lookupData_eq_none (db : Database) {order : Magic.ByteOrder}
    {content : List UInt8} (h : db.lookupData order content = none) :
    db.contentEvidence order (some content) =
      some (shapeType (content.take db.settings.maxSniffBytes)) := by
  have h' : db.magic.lookup order content = none := h
  simp only [contentEvidence, Option.map_some, h']

/-- A misjudged content is taken for text by its front and for binary by itself. -/
theorem IsMisjudged.contentEvidence {db : Database} {order : Magic.ByteOrder}
    {content : List UInt8} (h : db.IsMisjudged order content)
    (hlimit : 0 < db.settings.maxSniffBytes) :
    db.contentEvidence order (some (db.front content)) = some .textPlain ∧
      db.contentEvidence order (some content) = some .octetStream := by
  obtain ⟨hnone, hfront, hwhole⟩ := h
  have hnone' : db.lookupData order (db.front content) = none := by
    rw [db.lookupData_front hlimit]
    exact hnone
  have hne : db.front content ≠ [] := by
    intro hnil
    rw [hnil] at hfront
    exact Bool.false_ne_true hfront
  have htake : looksLikeText ((db.front content).take db.settings.maxSniffBytes) = true := by
    apply Detection.looksLikeText_of_prefix (List.take_prefix _ _) _ hfront
    intro hnil
    rcases List.take_eq_nil_iff.mp hnil with hzero | hnil
    · exact Nat.ne_of_gt hlimit hzero
    · exact hne hnil
  rw [db.contentEvidence_of_lookupData_eq_none hnone',
    db.contentEvidence_of_lookupData_eq_none hnone, shapeType, shapeType, if_pos htake, hwhole]
  exact ⟨rfl, rfl⟩

/-- About any other content the front says what the content says. -/
theorem contentEvidence_front (db : Database) (hlimit : 0 < db.settings.maxSniffBytes)
    {order : Magic.ByteOrder} {content : List UInt8} (h : ¬ db.IsMisjudged order content) :
    db.contentEvidence order (some (db.front content)) =
      db.contentEvidence order (some content) := by
  have hlook := db.lookupData_front hlimit order content
  cases hfound : db.lookupData order content with
  | some found =>
    have hfront : db.magic.lookup order (db.front content) = some found := hlook.trans hfound
    have hwhole : db.magic.lookup order content = some found := hfound
    simp only [contentEvidence, Option.map_some, hfront, hwhole]
  | none =>
    rw [db.contentEvidence_of_lookupData_eq_none hfound,
      db.contentEvidence_of_lookupData_eq_none (hlook.trans hfound)]
    -- a front that is long enough shows all that the shape is judged by
    by_cases hlong : db.settings.maxSniffBytes ≤ (db.front content).length
    · rw [db.take_front_eq hlong]
    · rw [List.take_of_length_le (Nat.le_of_not_le hlong), shapeType, shapeType]
      cases hwhole : looksLikeText (content.take db.settings.maxSniffBytes) with
      | true =>
        have hfront := db.looksLikeText_take_front hlimit hwhole
        rw [List.take_of_length_le (Nat.le_of_not_le hlong)] at hfront
        rw [hfront]
      | false =>
        have hfront : looksLikeText (db.front content) = false := by
          rw [← Bool.not_eq_true]
          intro htext
          exact h ⟨hfound, htext, hwhole⟩
        rw [hfront]

/-! ## Detection from the front -/

/-- The front of a content gives the same type as the content, unless it is misjudged and the name
does not settle the type. -/
theorem detect_front_eq_iff (db : Database) (hlimit : 0 < db.settings.maxSniffBytes)
    (file : Option String) (order : Magic.ByteOrder) (content : List UInt8) :
    db.detect file (some (db.front content)) order = db.detect file (some content) order ↔
      ¬ (db.IsMisjudged order content ∧ LeavesOpen (db.nameEvidence file)) := by
  unfold detect
  by_cases h : db.IsMisjudged order content
  · obtain ⟨hfront, hwhole⟩ := h.contentEvidence hlimit
    rw [hfront, hwhole, Detection.reconcile_textPlain_eq_iff, not_and]
    exact ⟨fun hclosed _ => hclosed, fun hclosed => hclosed h⟩
  · rw [db.contentEvidence_front hlimit h]
    exact ⟨fun _ hboth => h hboth.1, fun _ => rfl⟩

/-- What the detection of a file answers, once the file is open. -/
theorem detectFile_of_read (db : Database) {files : FileTree} {path : Path} {content : List UInt8}
    (hread : files.read path = .ok content) :
    db.detectFile files path = match Capacity.readFault? db.readSize with
      | some fault => .error (.noRoom fault)
      | none => .ok (db.detect (some path.name) (some (db.front content)) .little) := by
  unfold detectFile readFront
  rw [hread]
  cases Capacity.readFault? db.readSize with
  | some fault => rfl
  | none => rfl

/-- Reading only the front of a file never changes which rule decides. It changes the type that is
detected exactly when there is no room for the front, or when no rule decides, the front is all
text, binary bytes follow it, and the name does not settle the type. -/
theorem detectFile_eq_detect_iff (db : Database) (hlimit : 0 < db.settings.maxSniffBytes)
    (files : FileTree) (path : Path) (content : List UInt8)
    (hread : files.read path = .ok content) :
    (∀ order, db.lookupData order (db.front content) = db.lookupData order content) ∧
      (db.detectFile files path = .ok (db.detect (some path.name) (some content) .little) ↔
        Capacity.readFault? db.readSize = none ∧
          ¬ (db.IsMisjudged .little content ∧ LeavesOpen (db.nameEvidence (some path.name)))) := by
  refine ⟨fun order => db.lookupData_front hlimit order content, ?_⟩
  rw [db.detectFile_of_read hread]
  cases Capacity.readFault? db.readSize with
  | some fault =>
    constructor
    · intro h
      cases h
    · intro h
      cases h.1
  | none =>
    rw [← db.detect_front_eq_iff hlimit]
    constructor
    · intro h
      exact ⟨rfl, Except.ok.inj h⟩
    · intro h
      exact congrArg Except.ok h.2

/-- A database whose only rule looks at two bytes. -/
def shortSighted : Database :=
  build [{ RecordSet.empty "short" with
    magic := [⟨"image/x-short", 50, [.node ⟨0, 1, [0xFF], none, 1⟩ []]⟩] }] .default

/-- A file of two letters and a null byte, in the root directory. -/
def nullBehindText : FileTree := ⟨[(["notes"], .file [0x61, 0x62, 0x00])], []⟩

/-- The null byte is not read, so the file is taken for text. -/
theorem detectFile_ne_detect_nullBehindText :
    0 < shortSighted.settings.maxSniffBytes ∧
      nullBehindText.read ⟨"", ["notes"]⟩ = .ok [0x61, 0x62, 0x00] ∧
      shortSighted.detectFile nullBehindText ⟨"", ["notes"]⟩ ≠
        .ok (shortSighted.detect (some "notes") (some [0x61, 0x62, 0x00]) .little) := by
  have hlimit : 0 < shortSighted.settings.maxSniffBytes := by decide
  have hread : nullBehindText.read ⟨"", ["notes"]⟩ = .ok [0x61, 0x62, 0x00] := rfl
  have hnone : shortSighted.nameEvidence (some "notes") = none := by decide +kernel
  refine ⟨hlimit, hread, fun h => ?_⟩
  apply ((detectFile_eq_detect_iff _ hlimit _ _ _ hread).2.mp h).2
  refine ⟨by decide +kernel, ?_⟩
  show LeavesOpen (shortSighted.nameEvidence (some "notes"))
  rw [hnone]
  intro m hm
  cases hm

end Database

end MimeDatabase
