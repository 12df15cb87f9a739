import MimeDatabase.Proofs.Database.Roots

/-!
# Which evidence decides

A file name and a content are each evidence of a type, and either may be missing. `WeighsEvidence`
says what is detected from both in terms of what each of them says alone. Without a match of the
name the content decides. Against a match it decides if its signature names more than a base type,
or in favour of a type that is tied; otherwise the best match does. That is so for every database,
file name, content and byte order (`detect_weighsEvidence`).

A missing content is not an empty one. Alone, both are of the binary type; but an empty content is
evidence and settles a tie in which that type stands, and a missing one leaves it to the best match
(`detect_tied_of_missing_content`).
-/

namespace MimeDatabase

namespace Detection

/-- A content stands against a name that is tied with it, or if it says more than a base type. -/
theorem reconcile_some_some (m : Glob.Match) (t : MediaType) :
    reconcile (some m) (some t) = if t ∈ m.types ∨ t.isGeneric = false then t else m.best := by
  show (if m.types.contains t then t else if t.isGeneric then m.best else t) = _
  by_cases hmem : t ∈ m.types
  · rw [if_pos (List.contains_iff_mem.mpr hmem), if_pos (Or.inl hmem)]
  · rw [if_neg (mt List.contains_iff_mem.mp hmem)]
    cases hgeneric : t.isGeneric with
    | true => rw [if_pos rfl, if_neg (by simp [hmem])]
    | false => rw [if_neg Bool.false_ne_true, if_pos (Or.inr rfl)]

/-- The shape of data is one of the two base types. -/
theorem shapeType_mem_base (data : List UInt8) :
    shapeType data ∈ [MediaType.octetStream, MediaType.textPlain] := by
  unfold shapeType
  split
  · exact List.mem_cons_of_mem _ List.mem_cons_self
  · exact List.mem_cons_self

end Detection

namespace Database

open Detection (reconcile reconcile_some_some shapeType shapeType_mem_base)

/-- The rule that decides about a content; none does where the content is missing. -/
def ruleOf (db : Database) (order : Magic.ByteOrder) (content : Option (List UInt8)) :
    Option Magic.Match :=
  content.bind (db.lookupData order)

/-- The base type that the shape of a content points to, as far as it is looked at. Nothing is seen
of a content that is missing. -/
def shapeOf (db : Database) (content : Option (List UInt8)) : MediaType :=
  shapeType ((content.getD []).take db.settings.maxSniffBytes)

/-- What is detected, in terms of what is detected without the name and of what the name matches. -/
structure WeighsEvidence (db : Database) (file : Option String) (content : Option (List UInt8))
    (order : Magic.ByteOrder) : Prop where
  /-- Alone, a content is of the type of its rule, or of the type that its shape points to. -/
  alone : db.detect none content order =
    match db.ruleOf order content with
    | some found => found.type
    | none => db.shapeOf content
  unnamed : db.nameEvidence file = none →
    db.detect file content order = db.detect none content order
  /-- Against a name that matches, a content stands if it is there at all, and is tied with the name
  or is of no base type. -/
  named : ∀ m, db.nameEvidence file = some m → db.detect file content order =
    if content.isSome = true ∧ (db.detect none content order ∈ m.types ∨
        db.detect none content order ∉ [MediaType.octetStream, MediaType.textPlain])
      then db.detect none content order else m.best
  /-- No name overrides a signature of a specific type. -/
  specific : ∀ found, db.ruleOf order content = some found →
    found.type ∉ [MediaType.octetStream, MediaType.textPlain] →
    db.detect file content order = found.type
  /-- Apart from such a signature, a tie is settled in favour of a tied type. -/
  tied : ∀ m, db.nameEvidence file = some m → db.detect file content order ∈ m.types ∨
    ∃ found, db.ruleOf order content = some found ∧
      found.type ∉ [MediaType.octetStream, MediaType.textPlain] ∧
      db.detect file content order = found.type
  /-- No type is detected that neither a rule, nor the name, nor the shape supports. -/
  supported :
    (∃ found, db.ruleOf order content = some found ∧ db.detect file content order = found.type) ∨
    (∃ m, db.nameEvidence file = some m ∧ db.detect file content order ∈ m.types) ∨
    (db.ruleOf order content = none ∧ db.detect file content order = db.shapeOf content)

variable {db : Database} {file : Option String} {content : Option (List UInt8)}
  {order : Magic.ByteOrder}

/-- The type of a content alone. Nothing is said about a missing one, so it is binary. -/
theorem detect_none_eq (db : Database) (content : Option (List UInt8)) (order : Magic.ByteOrder) :
    db.detect none content order =
      match db.ruleOf order content with
      | some found => found.type
      | none => db.shapeOf content := by
  cases content with
  | none =>
    show MediaType.octetStream = shapeType (List.take _ [])
    rw [List.take_nil]
    rfl
  | some data =>
    show (match db.lookupData order data with
      | some found => found.type
      | none => shapeType (data.take db.settings.maxSniffBytes)) = _
    rw [ruleOf, Option.bind_some]
    cases db.lookupData order data with
    | some found => rfl
    | none => rfl

/-- Given content, the name is weighed against what the content alone is detected as. -/
theorem detect_some_content (db : Database) (file : Option String) (data : List UInt8)
    (order : Magic.ByteOrder) : db.detect file (some data) order =
      reconcile (db.nameEvidence file) (some (db.detect none (some data) order)) :=
  rfl

/-- A name that says nothing makes no difference. -/
theorem detect_of_nameEvidence_eq_none (h : db.nameEvidence file = none) :
    db.detect file content order = db.detect none content order := by
  rw [detect, detect, h]
  rfl

/-- Without a rule the shape of a content is all that is known of it, and that points to a base
type. -/
theorem exists_ruleOf_of_notMem_base
    (h : db.detect none content order ∉ [MediaType.octetStream, MediaType.textPlain]) :
    ∃ found, db.ruleOf order content = some found ∧ db.detect none content order = found.type := by
  rw [detect_none_eq] at h ⊢
  cases hrule : db.ruleOf order content with
  | some found => exact ⟨found, rfl, rfl⟩
  | none =>
    rw [hrule] at h
    exact absurd (shapeType_mem_base _) h

/-- Where the number of a type tells whether it is a base type, a name is weighed against a content
by the types. -/
theorem detect_of_nameEvidence_eq_some {m : Glob.Match} (h : db.nameEvidence file = some m)
    (hbase : (db.detect none content order).isGeneric = true ↔
      db.detect none content order ∈ [MediaType.octetStream, MediaType.textPlain]) :
    db.detect file content order =
      if content.isSome = true ∧ (db.detect none content order ∈ m.types ∨
          db.detect none content order ∉ [MediaType.octetStream, MediaType.textPlain])
        then db.detect none content order else m.best := by
  cases content with
  | none =>
    rw [if_neg fun hc => Bool.false_ne_true hc.1, detect, h]
    rfl
  | some data =>
    rw [detect_some_content, h, reconcile_some_some]
    simp only [Option.isSome_some, true_and, ← hbase, Bool.not_eq_true]

/-- Among the types that contents alone are detected as, the base types are told by numbers. -/
theorem isGeneric_detect_none_iff (sets : List RecordSet) (settings : DatabaseSettings)
    (content : Option (List UInt8)) (order : Magic.ByteOrder) :
    ((build sets settings).detect none content order).isGeneric = true ↔
      (build sets settings).detect none content order ∈
        [MediaType.octetStream, MediaType.textPlain] := by
  have hroot : (build sets settings).registry.Holds .octetStream := Registry.holds_octetStream _
  have htext : (build sets settings).registry.Holds .textPlain := Registry.holds_textPlain _
  refine Registry.Holds.isGeneric_iff ?_ hroot htext
  rcases isRecorded_or_base_detect sets settings none content order with hrecord | hbase | hbase
  · exact hrecord.holds
  · exact hbase.symm ▸ hroot
  · exact hbase.symm ▸ htext

/-- What is said of single cases follows from what is detected with a name and without. -/
theorem WeighsEvidence.of_named
    (hnamed : ∀ m, db.nameEvidence file = some m → db.detect file content order =
      if content.isSome = true ∧ (db.detect none content order ∈ m.types ∨
          db.detect none content order ∉ [MediaType.octetStream, MediaType.textPlain])
        then db.detect none content order else m.best) :
    db.WeighsEvidence file content order := by
  have halone := db.detect_none_eq content order
  have hunnamed : db.nameEvidence file = none →
      db.detect file content order = db.detect none content order :=
    detect_of_nameEvidence_eq_none
  have htied : ∀ m, db.nameEvidence file = some m → db.detect file content order ∈ m.types ∨
      ∃ found, db.ruleOf order content = some found ∧
        found.type ∉ [MediaType.octetStream, MediaType.textPlain] ∧
        db.detect file content order = found.type := by
    intro m hm
    rw [hnamed m hm]
    split
    next hstands =>
      refine hstands.2.imp_right fun hnot => ?_
      obtain ⟨found, hrule, heq⟩ := exists_ruleOf_of_notMem_base hnot
      exact ⟨found, hrule, heq ▸ hnot, heq⟩
    next => exact Or.inl List.mem_cons_self
  refine ⟨halone, hunnamed, hnamed, fun found hrule hnot => ?_, htied, ?_⟩
  · have hfound : db.detect none content order = found.type := by
      rw [halone, hrule]
    have hgiven : content.isSome = true := by
      obtain ⟨data, rfl, -⟩ := Option.bind_eq_some_iff.mp hrule
      rfl
    cases hname : db.nameEvidence file with
    | none => rw [hunnamed hname, hfound]
    | some m => rw [hnamed m hname, hfound, if_pos ⟨hgiven, Or.inr hnot⟩]
  · cases hname : db.nameEvidence file with
    | some m =>
      rcases htied m hname with hmem | ⟨found, hrule, -, heq⟩
      · exact Or.inr (Or.inl ⟨m, rfl, hmem⟩)
      · exact Or.inl ⟨found, hrule, heq⟩
    | none =>
      rw [hunnamed hname, halone]
      cases db.ruleOf order content with
      | some found => exact Or.inl ⟨found, rfl, rfl⟩
      | none => exact Or.inr (Or.inr ⟨rfl, rfl⟩)

/-- **Detection follows the evidence**, for every database, whatever was interned since it was
built, and for every name, content and byte order. -/
theorem detect_weighsEvidence (sets : List RecordSet) (settings : DatabaseSettings)
    (calls : List Call) (file : Option String) (content : Option (List UInt8))
    (order : Magic.ByteOrder) :
    ((build sets settings).after calls).WeighsEvidence file content order := by
  have hbase := isGeneric_detect_none_iff sets settings content order
  -- calls leave alone what detection looks at
  rw [after_eq]
  exact .of_named fun m hm => detect_of_nameEvidence_eq_some hm hbase

/-- A source that ties the binary type with another one, which it names first. -/
def tiedSource : RecordSet :=
  { RecordSet.empty "tied" with
    globs := [⟨"image/x-a", "*.x", 50, false⟩, ⟨"application/octet-stream", "*.x", 50, false⟩] }

/-- Without a content the type that is detected from a tie is the best one, although the binary
type, which stands for a missing content, is among the tied ones. -/
theorem detect_tied_of_missing_content :
    let db := build [tiedSource] .default
    ∃ m, db.nameEvidence (some "a.x") = some m ∧ db.detect none none .little ∈ m.types ∧
      db.detect (some "a.x") none .little ≠ db.detect none none .little := by
  intro db
  have hcandidates : db.globs.candidates "a.x" = db.globs.collect "a.x".toList :=
    List.mergeSort_of_pairwise (by decide +kernel)
  have hname : db.nameEvidence (some "a.x") =
      some ⟨⟨some 2, "image/x-a"⟩, [.octetStream], 50, "*.x"⟩ := by
    show Glob.Index.tied (db.globs.candidates "a.x") = _
    rw [hcandidates]
    decide +kernel
  refine ⟨_, hname, by decide, ?_⟩
  rw [detect, hname]
  decide

end Database

end MimeDatabase
