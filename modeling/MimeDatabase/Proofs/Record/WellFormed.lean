import MimeDatabase.Proofs.Magic.Height
import MimeDatabase.Proofs.Magic.WellFormed
import MimeDatabase.Record.RecordSet

/-!
# Record sets are well formed

Whatever texts and magic bytes a source has, every record that they hold is well formed
(`wellFormed_ofTexts`): its type names are valid and in normal form, its grades are in range, its
patterns and icons are not empty, and its signatures make sense at every depth of their rules. Each
line that holds a record yields it, and each other one a reported fault. There is one way in which a
text is refused as a whole: the match lines of a section are nested deeper than there is room for.

Most of this is what the readers of single lines check. That an icon has a name is not: the reader
only sees to it that something stands behind the colon. It stands at the end of a line that was
trimmed, so it is not just white space (`Icon.wellFormed_of_read`).
-/

namespace MimeDatabase

namespace Record

/-! ## Records -/

/-- A glob with a type, a weight that is a grade, and a pattern. -/
structure Glob.WellFormed (g : Glob) : Prop where
  typeName : TypeName.WellFormed g.typeName
  weight_le : g.weight ≤ maxGrade
  pattern_ne_empty : g.pattern ≠ ""

/-- An alias of a type. -/
structure Alias.WellFormed (a : Alias) : Prop where
  name : TypeName.WellFormed a.name
  typeName : TypeName.WellFormed a.typeName

/-- A type with a parent. -/
structure Subclass.WellFormed (s : Subclass) : Prop where
  typeName : TypeName.WellFormed s.typeName
  parent : TypeName.WellFormed s.parent

/-- A type with an icon. -/
structure Icon.WellFormed (i : Icon) : Prop where
  typeName : TypeName.WellFormed i.typeName
  icon_ne_empty : i.icon ≠ ""

/-- A type name that is read is well formed. -/
theorem wellFormed_of_readType {text : List Char} {name : String}
    (h : readType text = .ok name) : TypeName.WellFormed name := by
  unfold readType at h
  dsimp only at h
  split at h
  · next hvalid =>
    cases h
    exact ⟨hvalid, TypeName.normalize_normalize _⟩
  · cases h

theorem ofList_ne_empty {cs : List Char} (h : cs ≠ []) : String.ofList cs ≠ "" := by
  intro heq
  have hlist := congrArg String.toList heq
  rw [String.toList_ofList] at hlist
  exact h hlist

/-- A weighted glob that is read is well formed. -/
theorem Glob.wellFormed_of_readWeighted {line : String} {g : Glob}
    (h : readWeightedGlob line = .ok g) : g.WellFormed := by
  unfold readWeightedGlob at h
  split at h
  · split at h
    · cases h
    · split at h
      · cases h
      · next hpattern =>
        split at h
        · cases h
        · next name hname =>
          cases h
          rw [List.isEmpty_iff] at hpattern
          exact ⟨wellFormed_of_readType hname, clampGrade_le _, ofList_ne_empty hpattern⟩
  · cases h

theorem Glob.wellFormed_of_read {line : String} {g : Glob} (h : readGlob line = .ok g) :
    g.WellFormed := by
  unfold readGlob at h
  split at h
  · split at h
    · cases h
    · next hpattern =>
      split at h
      · cases h
      · next name hname =>
        cases h
        rw [List.isEmpty_iff] at hpattern
        have hweight : defaultWeight ≤ maxGrade := by decide
        exact ⟨wellFormed_of_readType hname, hweight, ofList_ne_empty hpattern⟩
  · cases h

/-- Both names of a pair are well formed. -/
theorem wellFormed_of_readTypePair {form : Form} {line : String} {pair : String × String}
    (h : readTypePair form line = .ok pair) :
    TypeName.WellFormed pair.1 ∧ TypeName.WellFormed pair.2 := by
  unfold readTypePair at h
  split at h
  · split at h
    · next hfirst hsecond =>
      cases h
      exact ⟨wellFormed_of_readType hfirst, wellFormed_of_readType hsecond⟩
    · cases h
    · cases h
  · cases h

theorem Alias.wellFormed_of_read {line : String} {a : Alias} (h : readAlias line = .ok a) :
    a.WellFormed := by
  unfold readAlias at h
  cases hpair : readTypePair .otherName line with
  | error fault =>
    rw [hpair] at h
    cases h
  | ok pair =>
    rw [hpair] at h
    cases h
    obtain ⟨hname, htype⟩ := wellFormed_of_readTypePair hpair
    exact ⟨hname, htype⟩

theorem Subclass.wellFormed_of_read {line : String} {s : Subclass}
    (h : readSubclass line = .ok s) : s.WellFormed := by
  unfold readSubclass at h
  cases hpair : readTypePair .subclass line with
  | error fault =>
    rw [hpair] at h
    cases h
  | ok pair =>
    rw [hpair] at h
    cases h
    obtain ⟨hname, hparent⟩ := wellFormed_of_readTypePair hpair
    exact ⟨hname, hparent⟩

/-- What stands behind the colon of a trimmed line ends with a character that is not white space. -/
theorem Icon.wellFormed_of_read {cs : List Char} {i : Icon} (htrimmed : Text.IsTrimmed cs)
    (h : readIcon (String.ofList cs) = .ok i) : i.WellFormed := by
  unfold readIcon at h
  rw [String.toList_ofList] at h
  split at h
  · next typeText icon hcut =>
    split at h
    · cases h
    · next hne =>
      split at h
      · cases h
      · next name hname =>
        cases h
        rw [Bool.or_eq_true, not_or, List.isEmpty_iff, List.isEmpty_iff] at hne
        refine ⟨wellFormed_of_readType hname, ofList_ne_empty ?_⟩
        obtain ⟨last, hlast⟩ := List.getLast?_isSome.mpr hne.2 |> Option.isSome_iff_exists.mp
        have hend : cs.getLast? = some last := by
          rcases Text.eq_of_splitBy hcut with ⟨hnone, -⟩ | ⟨sep, rest, rfl, hrest⟩
          · cases hnone
          · rcases Text.eq_of_splitBy hrest with ⟨-, rfl⟩ | ⟨_, _, -, hmore⟩
            · rw [List.getLast?_append, List.getLast?_cons, hlast]
              rfl
            · exact absurd hmore (Text.splitBy_ne_nil _ _)
        exact Text.trim_ne_nil (List.mem_of_mem_getLast? hlast) (htrimmed.2 last hend)
  · cases h

/-! ## Record files -/

/-- The record lines of a text are lines of it, trimmed. -/
theorem exists_raw_of_mem_recordLines {number : Nat} {raws : List (List Char)}
    {l : Nat × String} (h : l ∈ recordLines number raws) :
    ∃ raw, l.2 = String.ofList (Text.trim raw) := by
  induction raws generalizing number with
  | nil => exact absurd h List.not_mem_nil
  | cons raw raws ih =>
    rw [recordLines] at h
    split at h
    · exact ih h
    · rcases List.mem_cons.mp h with rfl | hrest
      · exact ⟨raw, rfl⟩
      · exact ih hrest

variable {α : Type} {read : String → Except Fault α}

/-- A record of a text was read from a trimmed line. -/
theorem exists_line_of_mem_readText {text : String} {a : α} (h : a ∈ (readText read text).items) :
    ∃ cs, Text.IsTrimmed cs ∧ read (String.ofList cs) = .ok a := by
  obtain ⟨r, hr, ha⟩ := List.mem_filterMap.mp h
  obtain ⟨l, hl, rfl⟩ := List.mem_map.mp hr
  obtain ⟨raw, hraw⟩ := exists_raw_of_mem_recordLines hl
  refine ⟨Text.trim raw, Text.isTrimmed_trim raw, ?_⟩
  rw [← hraw]
  dsimp only at ha
  cases hread : read l.2 with
  | error fault =>
    rw [hread] at ha
    cases ha
  | ok b =>
    rw [hread] at ha
    cases ha
    rfl

/-- The lines of a text that hold a record or ought to. -/
def recordCount (text : String) : Nat := (recordLines 1 (Text.lines text.toList)).length

/-- Each of these lines yields a record or a fault. -/
theorem length_readText (read : String → Except Fault α) (text : String) :
    (readText read text).items.length + (readText read text).faults.length = recordCount text := by
  unfold readText readNumbered recordCount
  dsimp only
  induction recordLines 1 (Text.lines text.toList) with
  | nil => rfl
  | cons l ls ih =>
    rw [List.map_cons]
    cases hread : read l.2 with
    | error fault =>
      simp only [List.filterMap_cons, Except.toOption, List.length_cons] at ih ⊢
      omega
    | ok a =>
      simp only [List.filterMap_cons, Except.toOption, List.length_cons] at ih ⊢
      omega

end Record

namespace RecordSet

variable {α : Type} {read : String → Except Record.Fault α}

/-- Whether every record of a set is well formed. -/
structure WellFormed (s : RecordSet) : Prop where
  globs : ∀ g ∈ s.globs, g.WellFormed
  magic : ∀ r ∈ s.magic, r.WellFormed
  subclasses : ∀ c ∈ s.subclasses, c.WellFormed
  aliases : ∀ a ∈ s.aliases, a.WellFormed
  icons : ∀ i ∈ s.icons, i.WellFormed
  genericIcons : ∀ i ∈ s.genericIcons, i.WellFormed

/-- Each record of a file is read from a trimmed line. -/
theorem exists_line_of_mem_readFile {text : Option String} {a : α}
    (h : a ∈ (readFile read text).items) :
    ∃ cs, Text.IsTrimmed cs ∧ read (String.ofList cs) = .ok a := by
  cases text with
  | none => exact absurd h List.not_mem_nil
  | some text => exact Record.exists_line_of_mem_readText h

/-- Each record line of a file is read as a record or reported. -/
theorem length_readFile (read : String → Except Record.Fault α) (text : Option String) :
    (readFile read text).items.length + (readFile read text).faults.length =
      (text.map Record.recordCount).getD 0 := by
  cases text with
  | none => rfl
  | some text => exact Record.length_readText read text

/-- The globs of a source are well formed, whichever file they are from. -/
theorem wellFormed_of_mem_readGlobs {t : SourceTexts} {g : Record.Glob}
    (h : g ∈ (readGlobs t).1.items) : g.WellFormed := by
  unfold readGlobs at h
  split at h
  · obtain ⟨cs, -, hread⟩ := Record.exists_line_of_mem_readText h
    exact Record.Glob.wellFormed_of_readWeighted hread
  · obtain ⟨cs, -, hread⟩ := exists_line_of_mem_readFile h
    exact Record.Glob.wellFormed_of_read hread

/-- The rules of a source make sense. -/
theorem wellFormed_of_mem_magic {t : SourceTexts} {r : Magic.Rule} (hr : r ∈ (inTexts t).magic) :
    r.WellFormed := by
  have hr' : r ∈ (t.magic.map Magic.readRules).getD [] := hr
  cases hdata : t.magic with
  | none =>
    rw [hdata] at hr'
    exact absurd hr' List.not_mem_nil
  | some data =>
    rw [hdata] at hr'
    exact Magic.wellFormed_of_mem_readRules hr'

/-- The lines of all record files of a source that hold a record or ought to; of the two glob files
only one is read. -/
def lineCount (t : SourceTexts) : Nat :=
  ((t.weightedGlobs.or t.globs).map Record.recordCount).getD 0 +
    (t.subclasses.map Record.recordCount).getD 0 + (t.aliases.map Record.recordCount).getD 0 +
    (t.icons.map Record.recordCount).getD 0 + (t.genericIcons.map Record.recordCount).getD 0

theorem length_readGlobs (t : SourceTexts) :
    (readGlobs t).1.items.length + (readGlobs t).1.faults.length =
      ((t.weightedGlobs.or t.globs).map Record.recordCount).getD 0 := by
  unfold readGlobs
  cases t.weightedGlobs with
  | none => exact length_readFile _ t.globs
  | some text => exact Record.length_readText _ text

/-! ## Room for the entries -/

variable {limit : Nat} {t : SourceTexts}

/-- Reading is given up exactly if the lines of the magic file are nested deeper than there is room
for. -/
theorem ofTexts_eq_error_iff {fault : Magic.BuildFault} :
    ofTexts limit t = .error fault ↔ ∃ data ∈ t.magic, Magic.NestsBeyond limit data := by
  unfold ofTexts
  cases t.magic with
  | none => exact iff_of_false (by rintro ⟨⟩) (by rintro ⟨_, ⟨⟩, -⟩)
  | some data =>
    have hbeyond : Magic.readRulesWithin limit data = .error fault ↔ Magic.NestsBeyond limit data :=
      Magic.readRulesWithin_eq_error_iff
    simp only [Option.mem_def, Option.some.injEq, exists_eq_left']
    rw [← hbeyond]
    cases Magic.readRulesWithin limit data with
    | error cause => simp [Except.map]
    | ok rules => exact iff_of_false (by rintro ⟨⟩) (by rintro ⟨⟩)

/-- Otherwise all that the texts hold is there. -/
theorem ofTexts_of_room (h : ∀ data ∈ t.magic, ¬ Magic.NestsBeyond limit data) :
    ofTexts limit t = .ok (inTexts t) := by
  unfold ofTexts
  cases hdata : t.magic with
  | none => rfl
  | some data =>
    dsimp only
    rw [Magic.readRulesWithin_of_not_nestsBeyond (h data hdata)]
    rfl

/-- What is returned is always all that the texts hold. -/
theorem ofTexts_eq_ok_iff {set : RecordSet} : ofTexts limit t = .ok set ↔
    (∀ data ∈ t.magic, ¬ Magic.NestsBeyond limit data) ∧ set = inTexts t := by
  constructor
  · intro h
    have hroom : ∀ data ∈ t.magic, ¬ Magic.NestsBeyond limit data := by
      intro data hdata hnested
      have herror : ofTexts limit t = .error .tooDeep :=
        ofTexts_eq_error_iff.mpr ⟨data, hdata, hnested⟩
      rw [herror] at h
      cases h
    rw [ofTexts_of_room hroom] at h
    exact ⟨hroom, (Except.ok.inj h).symm⟩
  · rintro ⟨hroom, rfl⟩
    exact ofTexts_of_room hroom

/-- The records that texts hold are well formed. -/
theorem wellFormed_inTexts (t : SourceTexts) : (inTexts t).WellFormed where
  globs _ hg := wellFormed_of_mem_readGlobs hg
  magic _ hr := wellFormed_of_mem_magic hr
  subclasses c hc := by
    obtain ⟨cs, -, hread⟩ := exists_line_of_mem_readFile hc
    exact Record.Subclass.wellFormed_of_read hread
  aliases a ha := by
    obtain ⟨cs, -, hread⟩ := exists_line_of_mem_readFile ha
    exact Record.Alias.wellFormed_of_read hread
  icons i hi := by
    obtain ⟨cs, htrimmed, hread⟩ := exists_line_of_mem_readFile hi
    exact Record.Icon.wellFormed_of_read htrimmed hread
  genericIcons i hi := by
    obtain ⟨cs, htrimmed, hread⟩ := exists_line_of_mem_readFile hi
    exact Record.Icon.wellFormed_of_read htrimmed hread

/-- Every record line is a record or an error, and so is every rule and every report of the magic
file. -/
theorem count_inTexts (t : SourceTexts) :
    (inTexts t).count + (inTexts t).errors.length =
      lineCount t + ((t.magic.map Magic.readRules).getD []).length +
        ((t.magic.map Magic.readReports).getD []).length := by
  have hglobs := length_readGlobs t
  have hsubclasses := length_readFile Record.readSubclass t.subclasses
  have haliases := length_readFile Record.readAlias t.aliases
  have hicons := length_readFile Record.readIcon t.icons
  have hgeneric := length_readFile Record.readIcon t.genericIcons
  simp only [inTexts, count, lineErrors, magicErrors, List.length_append, List.length_map,
    lineCount]
  omega

/-- **Every record set is well formed**, whatever its texts and its magic bytes are. Reading fails
exactly if a kept line of the magic file stands at an indent for which there is no room, and else
returns all that the texts hold. The checks that are made when signatures are put together into
rules find nothing to refuse. No line is passed over: there are as many records and errors as there
are record lines, rules and reports about the magic bytes. -/
theorem wellFormed_ofTexts (limit : Nat) (t : SourceTexts) :
    (∀ fault, ofTexts limit t = .error fault ↔ ∃ data ∈ t.magic, Magic.NestsBeyond limit data) ∧
      (∀ set, ofTexts limit t = .ok set ↔
        (∀ data ∈ t.magic, ¬ Magic.NestsBeyond limit data) ∧ set = inTexts t) ∧
      (inTexts t).WellFormed ∧
      (∀ r ∈ (inTexts t).magic, Magic.Entry.forestFault? r.entries = none) ∧
      (inTexts t).count + (inTexts t).errors.length =
        lineCount t + ((t.magic.map Magic.readRules).getD []).length +
          ((t.magic.map Magic.readReports).getD []).length := by
  refine ⟨fun _ => ofTexts_eq_error_iff, fun _ => ofTexts_eq_ok_iff, wellFormed_inTexts t,
    fun r hr => ?_, count_inTexts t⟩
  exact Magic.Entry.forestFault?_eq_none r.entries (wellFormed_of_mem_magic hr).signatures

/-- A source with a section in which each line is a condition of the line before it. -/
def nestedTexts : SourceTexts where
  source := "nested"
  weightedGlobs := none
  globs := none
  magic := some (Magic.fileHeader ++ "[50:a/b]\n>0=".toList.map Magic.byteOf ++ [0, 1] ++
    "A\n1>1=".toList.map Magic.byteOf ++ [0, 1] ++ "B\n2>2=".toList.map Magic.byteOf ++ [0, 1] ++
    "C\n".toList.map Magic.byteOf)
  subclasses := none
  aliases := none
  icons := none
  genericIcons := none

/-- Three levels are read if there is room for three, and they are lost if there is room for two. -/
theorem wellFormed_ofTexts_nestedTexts :
    (∃ data ∈ nestedTexts.magic, Magic.NestsBeyond 2 data) ∧
      ofTexts 2 nestedTexts = .error .tooDeep ∧
      (∀ data ∈ nestedTexts.magic, ¬ Magic.NestsBeyond 3 data) ∧
      ofTexts 3 nestedTexts = .ok (inTexts nestedTexts) := by
  have hdeep : ∃ data ∈ nestedTexts.magic, Magic.NestsBeyond 2 data :=
    ⟨_, rfl, Magic.exists_lt_height_iff.mp (by decide +kernel)⟩
  have hroom : ∀ data ∈ nestedTexts.magic, ¬ Magic.NestsBeyond 3 data := by
    intro data hdata
    obtain rfl := Option.some.inj hdata
    exact mt Magic.exists_lt_height_iff.mpr (by decide +kernel)
  exact ⟨hdeep, ((wellFormed_ofTexts 2 nestedTexts).1 _).mpr hdeep, hroom,
    ((wellFormed_ofTexts 3 nestedTexts).2.1 _).mpr ⟨hroom, rfl⟩⟩

end RecordSet

end MimeDatabase
