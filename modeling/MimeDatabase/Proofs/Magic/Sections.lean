import Mathlib.Data.List.Sort
import MimeDatabase.Proofs.Magic.Outline

/-!
# Sections follow their outline

No match line is lost, attached elsewhere or reported twice: a section yields the entries of its
outline and the reports of its outline (`readDocument_eq_outline`). `judgeAll_eq` carries the
verdict on one line over to all lines of a section. The entries are then built from the kept lines
and their depths alone; `ofPreorder_lineAt` shows by induction on the kept lines of a `Segment` that
this puts every line below the one that the outline names.
-/

namespace MimeDatabase.Magic

namespace Outline

/-! ## All lines of a section -/

/-- Every line gets the verdict of the outline. The lines judged so far are `before`. -/
theorem judgeAll_eq_of_tracks {all : List (Located Reading)} :
    ∀ (ls before : List (Located Reading)) (p : Progress), all = before ++ ls →
      Tracks (all.map (·.item)) before.length p →
      judgeAll p ls = (ls.zipIdx before.length).map fun x =>
        ⟨x.1.offset, verdict (all.map (·.item)) x.2 x.1.item⟩ := by
  intro ls
  induction ls with
  | nil => intro before p _ _; rfl
  | cons l ls ih =>
    intro before p hall htracks
    have hl : (all.map (·.item))[before.length]? = some l.item := by
      rw [hall]
      simp
    obtain ⟨hverdict, hnext⟩ := judge_tracks htracks hl
    -- the line just judged joins those before the rest
    have hrest := ih (before ++ [l]) (judge p l.item).2 (by rw [hall]; simp)
      (by rw [List.length_append]; exact hnext)
    rw [List.length_append, List.length_singleton] at hrest
    rw [judgeAll, hverdict, hrest, List.zipIdx_cons, List.map_cons]

/-- Each line is judged as the outline of all lines has it. -/
theorem judgeAll_eq (all : List (Located Reading)) :
    judgeAll ⟨0, none⟩ all = all.zipIdx.map fun x =>
      ⟨x.1.offset, verdict (all.map (·.item)) x.2 x.1.item⟩ :=
  judgeAll_eq_of_tracks all [] ⟨0, none⟩ rfl (tracks_start _)

/-- A kept line with its depth. -/
def lineAt (lines : List Reading) (i : Nat) : Nat × Signature :=
  (indentAt lines i, signatureAt lines i)

/-- A line with its number holds what the section holds at that number. -/
theorem getElem?_of_mem_zipIdx {all : List (Located Reading)} {x : Located Reading × Nat}
    (h : x ∈ all.zipIdx) : (all.map (·.item))[x.2]? = some x.1.item := by
  obtain ⟨l, i⟩ := x
  rw [List.mem_zipIdx_iff_getElem?] at h
  rw [List.getElem?_map, h]
  rfl

/-- What a line contributes to the entries: its depth and its signature, if it is kept. -/
def keptLine (v : Verdict) : Option (Nat × Signature) :=
  match v with
  | .kept indent s => some (indent, s)
  | _ => none

/-- What a line contributes to the reports. -/
def reportOf (offset : Nat) (v : Verdict) : Option (Located Fault) :=
  match v with
  | .reported fault => some ⟨offset, fault⟩
  | _ => none

/-- Of a kept line the verdict keeps its indent and its signature, and of others nothing. -/
theorem keptLine_verdict {lines : List Reading} {i : Nat} {r : Reading} (hr : lines[i]? = some r) :
    keptLine (verdict lines i r) = if isKept lines i then some (lineAt lines i) else none := by
  cases hk : isKept lines i with
  | true =>
    obtain ⟨indent, s, hi⟩ := exists_entry_of_isKept hk
    rw [hi] at hr
    rw [← Option.some.inj hr, verdict_kept hk, lineAt, indentAt_eq hi, signatureAt, hi]
    rfl
  | false =>
    cases hb : isBelowSkipped lines i with
    | true => rw [verdict_dropped hb]; rfl
    | false => rw [verdict_reported hb hk]; rfl

/-- A line is reported unless it is kept or stands below a skipped one. -/
theorem reportOf_verdict {lines : List Reading} {i offset : Nat} {r : Reading}
    (hr : lines[i]? = some r) :
    reportOf offset (verdict lines i r) =
      if isKept lines i || isBelowSkipped lines i then none
      else some ⟨offset, faultAt lines i r⟩ := by
  cases hk : isKept lines i with
  | true =>
    obtain ⟨indent, s, hi⟩ := exists_entry_of_isKept hk
    rw [hi] at hr
    rw [← Option.some.inj hr, verdict_kept hk]
    rfl
  | false =>
    cases hb : isBelowSkipped lines i with
    | true => rw [verdict_dropped hb]; rfl
    | false => rw [verdict_reported hb hk]; rfl

/-- The lines that are kept are those of the outline. -/
theorem keptLines_judgeAll (all : List (Located Reading)) :
    keptLines (judgeAll ⟨0, none⟩ all) =
      (keptNumbers (all.map (·.item))).map (lineAt (all.map (·.item))) := by
  have hlines : ∀ x ∈ all.zipIdx,
      keptLine (verdict (all.map (·.item)) x.2 x.1.item) =
        if isKept (all.map (·.item)) x.2 then some (lineAt (all.map (·.item)) x.2) else none :=
    fun x hx => keptLine_verdict (getElem?_of_mem_zipIdx hx)
  have hfilter : ∀ is : List Nat,
      (is.filterMap fun i =>
        if isKept (all.map (·.item)) i then some (lineAt (all.map (·.item)) i) else none) =
      (is.filter (isKept (all.map (·.item)))).map (lineAt (all.map (·.item))) := by
    intro is
    induction is with
    | nil => rfl
    | cons i is ih =>
      rw [List.filterMap_cons, List.filter_cons, ih]
      cases isKept (all.map (·.item)) i <;> rfl
  -- the numbers alone are left once the lines have been looked up
  have hnumbers : all.zipIdx.map Prod.snd = List.range all.length := by
    rw [List.zipIdx_map_snd, List.range_eq_range']
  calc keptLines (judgeAll ⟨0, none⟩ all)
      = all.zipIdx.filterMap fun x => keptLine (verdict (all.map (·.item)) x.2 x.1.item) := by
        rw [judgeAll_eq, keptLines, List.filterMap_map]
        rfl
    _ = all.zipIdx.filterMap fun x =>
          if isKept (all.map (·.item)) x.2 then some (lineAt (all.map (·.item)) x.2) else none :=
        List.filterMap_congr hlines
    _ = (all.zipIdx.map Prod.snd).filterMap fun i =>
          if isKept (all.map (·.item)) i then some (lineAt (all.map (·.item)) i) else none := by
        rw [List.filterMap_map]
        rfl
    _ = _ := by rw [hnumbers, hfilter, keptNumbers, List.length_map]

/-- The lines that are reported are those of the outline. -/
theorem reportedLines_judgeAll (all : List (Located Reading)) :
    reportedLines (judgeAll ⟨0, none⟩ all) = reports all := by
  rw [judgeAll_eq, reportedLines, List.filterMap_map]
  exact List.filterMap_congr fun x hx => reportOf_verdict (getElem?_of_mem_zipIdx hx)

/-! ## The entries of a section -/

/-- The kept numbers are those of the kept lines. -/
theorem mem_keptNumbers {lines : List Reading} {i : Nat} :
    i ∈ keptNumbers lines ↔ isKept lines i = true := by
  rw [keptNumbers, List.mem_filter, List.mem_range]
  refine ⟨And.right, fun h => ⟨?_, h⟩⟩
  obtain ⟨indent, s, hi⟩ := exists_entry_of_isKept h
  exact (List.getElem?_eq_some_iff.mp hi).1

theorem sorted_keptNumbers (lines : List Reading) : (keptNumbers lines).Pairwise (· < ·) :=
  List.Pairwise.filter _ List.pairwise_lt_range

/-- A run of kept lines at least `d` deep that is closed: what a deeper line lies below is in the
run, and so is every kept line below a line of the run. -/
structure Segment (lines : List Reading) (d : Nat) (ps : List Nat) : Prop where
  sorted : ps.Pairwise (· < ·)
  kept : ∀ j ∈ ps, isKept lines j = true
  deep : ∀ j ∈ ps, d ≤ indentAt lines j
  parent_mem : ∀ j ∈ ps, d < indentAt lines j → ∃ q ∈ ps, parent? lines j = some q
  child_mem : ∀ j q, isKept lines j = true → q ∈ ps → parent? lines j = some q → j ∈ ps

/-- All kept lines together are a segment. -/
theorem segment_keptNumbers (lines : List Reading) : Segment lines 0 (keptNumbers lines) where
  sorted := sorted_keptNumbers lines
  kept _ hj := mem_keptNumbers.mp hj
  deep _ _ := Nat.zero_le _
  parent_mem j hj hpos := by
    have hk := mem_keptNumbers.mp hj
    cases hp : parent? lines j with
    | none => exact absurd (indentAt_of_isKept hk hp) (by omega)
    | some q => exact ⟨q, mem_keptNumbers.mpr (isKept_parent hk hp).1, rfl⟩
  child_mem _ _ hj _ _ := mem_keptNumbers.mpr hj

section Segment

variable {lines : List Reading} {d i : Nat} {rest inner outer : List Nat}

/-- The first line of a segment stands at its least depth. -/
theorem Segment.indentAt_head (h : Segment lines d (i :: rest)) : indentAt lines i = d := by
  rcases Nat.lt_or_ge d (indentAt lines i) with hlt | hge
  · obtain ⟨q, hq, hp⟩ := h.parent_mem i List.mem_cons_self hlt
    have hqi := parent?_lt hp
    rcases List.mem_cons.mp hq with rfl | hq
    · exact absurd hqi (Nat.lt_irrefl q)
    · have hiq := (List.pairwise_cons.mp h.sorted).1 q hq
      omega
  · exact Nat.le_antisymm hge (h.deep i List.mem_cons_self)

/-- No line between a line and what it lies below is less deep than the line. -/
theorem indentAt_between {j q c : Nat} (hp : parent? lines j = some q) (hqc : q < c) (hcj : c < j) :
    indentAt lines j ≤ indentAt lines c :=
  (lastBelow_eq_some hp).2.2 c hqc hcj

/-! ### The first line of a segment, what lies below it, and the rest

Behind its first line `i`, a segment is cut where a line is no deeper than `i` for the first time,
into `inner` and `outer`. -/

/-- The lines inside come after the one that they are below. -/
theorem Segment.lt_inner (h : Segment lines d (i :: (inner ++ outer))) {j : Nat} (hj : j ∈ inner) :
    i < j :=
  (List.pairwise_cons.mp h.sorted).1 j (List.mem_append_left outer hj)

/-- The lines outside come after the one that they are not below. -/
theorem Segment.lt_outer (h : Segment lines d (i :: (inner ++ outer))) {j : Nat} (hj : j ∈ outer) :
    i < j :=
  (List.pairwise_cons.mp h.sorted).1 j (List.mem_append_right inner hj)

/-- The lines inside come before those outside. -/
theorem Segment.inner_lt_outer (h : Segment lines d (i :: (inner ++ outer))) {j k : Nat}
    (hj : j ∈ inner) (hk : k ∈ outer) : j < k :=
  (List.pairwise_append.mp (List.pairwise_cons.mp h.sorted).2).2.2 j hj k hk

theorem mem_cut_iff {j : Nat} : j ∈ i :: (inner ++ outer) ↔ j = i ∨ j ∈ inner ∨ j ∈ outer := by
  rw [List.mem_cons, List.mem_append]

/-- What a line behind the cut lies below is behind the cut. A line deeper than `d` there has the
first line behind the cut before it, so it cannot lie below anything that comes before that one. -/
theorem Segment.parent_outer (h : Segment lines d (i :: (inner ++ outer)))
    (hout : ∀ c ∈ outer.head?, indentAt lines c ≤ d) {j q : Nat} (hj : j ∈ outer)
    (hdj : d < indentAt lines j) (hp : parent? lines j = some q) : q ≠ i ∧ q ∉ inner := by
  have houter := (List.pairwise_append.mp (List.pairwise_cons.mp h.sorted).2).2.1
  cases houter' : outer with
  | nil =>
    rw [houter'] at hj
    exact absurd hj List.not_mem_nil
  | cons c more =>
    have hc : c ∈ outer := by
      rw [houter']
      exact List.mem_cons_self
    have hcd : indentAt lines c ≤ d := hout c (by rw [houter']; rfl)
    have hcj : c < j := by
      rw [houter'] at hj houter
      rcases List.mem_cons.mp hj with rfl | hj
      · omega
      · exact (List.pairwise_cons.mp houter).1 j hj
    have hno : ¬ q < c := by
      intro hqc
      have := indentAt_between hp hqc hcj
      omega
    exact ⟨fun hqi => hno (hqi ▸ h.lt_outer hc), fun hq => hno (h.inner_lt_outer hq hc)⟩

/-- What a line before the cut lies below is before the cut. -/
theorem Segment.parent_inner (h : Segment lines d (i :: (inner ++ outer))) {j q : Nat}
    (hj : j ∈ inner) (hp : parent? lines j = some q) : q ∉ outer := by
  intro hq
  have := parent?_lt hp
  have := h.inner_lt_outer hj hq
  omega

/-- Only lines deeper than `d` come before the cut. -/
theorem lt_of_mem_takeWhile {j : Nat}
    (hj : j ∈ rest.takeWhile fun j => decide (d < indentAt lines j)) : d < indentAt lines j :=
  of_decide_eq_true (List.all_eq_true.mp List.all_takeWhile j hj)

/-- The first line behind the cut is no deeper than `d`. -/
theorem le_of_mem_head?_dropWhile {c : Nat}
    (hc : c ∈ (rest.dropWhile fun j => decide (d < indentAt lines j)).head?) :
    indentAt lines c ≤ d := by
  have hnot := List.head?_dropWhile_not (fun j => decide (d < indentAt lines j)) rest
  rw [hc] at hnot
  exact Nat.not_lt.mp (of_decide_eq_false hnot)

/-- What lies below the first line is a segment one step deeper. -/
theorem Segment.before_cut (h : Segment lines d (i :: (inner ++ outer)))
    (hin : ∀ j ∈ inner, d < indentAt lines j)
    (hout : ∀ c ∈ outer.head?, indentAt lines c ≤ d) : Segment lines (d + 1) inner where
  sorted := (List.pairwise_append.mp (List.pairwise_cons.mp h.sorted).2).1
  kept j hj := h.kept j (mem_cut_iff.mpr (.inr (.inl hj)))
  deep := hin
  parent_mem := by
    intro j hj hdj
    have hj' : j ∈ i :: (inner ++ outer) := mem_cut_iff.mpr (.inr (.inl hj))
    obtain ⟨q, hq, hp⟩ := h.parent_mem j hj' (Nat.lt_of_succ_lt hdj)
    have hqd := (isKept_parent (h.kept j hj') hp).2
    have hid := h.indentAt_head
    rcases mem_cut_iff.mp hq with rfl | hq | hq
    · omega
    · exact ⟨q, hq, hp⟩
    · exact absurd hq (h.parent_inner hj hp)
  child_mem := by
    intro j q hk hq hp
    have hqd := (isKept_parent hk hp).2
    have hdq := hin q hq
    rcases mem_cut_iff.mp (h.child_mem j q hk (mem_cut_iff.mpr (.inr (.inl hq))) hp) with
      rfl | hj | hj
    · have := h.lt_inner hq
      have := parent?_lt hp
      omega
    · exact hj
    · exact absurd hq (h.parent_outer hout hj (by omega) hp).2

/-- The rest is a segment of the same depth. -/
theorem Segment.behind_cut (h : Segment lines d (i :: (inner ++ outer)))
    (hout : ∀ c ∈ outer.head?, indentAt lines c ≤ d) : Segment lines d outer where
  sorted := (List.pairwise_append.mp (List.pairwise_cons.mp h.sorted).2).2.1
  kept j hj := h.kept j (mem_cut_iff.mpr (.inr (.inr hj)))
  deep j hj := h.deep j (mem_cut_iff.mpr (.inr (.inr hj)))
  parent_mem := by
    intro j hj hdj
    obtain ⟨q, hq, hp⟩ := h.parent_mem j (mem_cut_iff.mpr (.inr (.inr hj))) hdj
    obtain ⟨hqi, hqin⟩ := h.parent_outer hout hj hdj hp
    rcases mem_cut_iff.mp hq with hq | hq | hq
    · exact absurd hq hqi
    · exact absurd hq hqin
    · exact ⟨q, hq, hp⟩
  child_mem := by
    intro j q hk hq hp
    have hqj := parent?_lt hp
    rcases mem_cut_iff.mp (h.child_mem j q hk (mem_cut_iff.mpr (.inr (.inr hq))) hp) with
      rfl | hj | hj
    · have := h.lt_outer hq
      omega
    · have := h.inner_lt_outer hj hq
      omega
    · exact hj

/-- The least deep lines before the cut are the children of the first line. -/
theorem Segment.filter_inner (h : Segment lines d (i :: (inner ++ outer)))
    (hin : ∀ j ∈ inner, d < indentAt lines j)
    (hout : ∀ c ∈ outer.head?, indentAt lines c ≤ d) :
    inner.filter (fun j => indentAt lines j == d + 1) = children lines i := by
  have hsorted := (List.pairwise_append.mp (List.pairwise_cons.mp h.sorted).2).1
  have hid := h.indentAt_head
  refine List.Pairwise.eq_of_mem_iff (hsorted.filter _) ((sorted_keptNumbers lines).filter _) ?_
  intro j
  rw [List.mem_filter, children, List.mem_filter, mem_keptNumbers, beq_iff_eq, beq_iff_eq]
  constructor
  · rintro ⟨hj, hdj⟩
    have hj' : j ∈ i :: (inner ++ outer) := mem_cut_iff.mpr (.inr (.inl hj))
    obtain ⟨q, hq, hp⟩ := h.parent_mem j hj' (hin j hj)
    have hqd := (isKept_parent (h.kept j hj') hp).2
    refine ⟨h.kept j hj', ?_⟩
    rcases mem_cut_iff.mp hq with rfl | hq | hq
    · exact hp
    · have := hin q hq
      omega
    · exact absurd hq (h.parent_inner hj hp)
  · rintro ⟨hk, hp⟩
    have hij := (isKept_parent hk hp).2
    have hlast := parent?_lt hp
    rcases mem_cut_iff.mp (h.child_mem j i hk List.mem_cons_self hp) with rfl | hj | hj
    · omega
    · exact ⟨hj, by omega⟩
    · exact absurd rfl (h.parent_outer hout hj (by omega) hp).1

end Segment

/-- An entry of the outline with the entries below it. -/
theorem entryAt_eq (lines : List Reading) (i : Nat) :
    entryAt lines i = .node (signatureAt lines i) ((children lines i).map (entryAt lines)) := by
  rw [entryAt]
  exact congrArg (Entry.node (signatureAt lines i)) (List.attach_map_val ..)

/-- The kept lines of a segment, read as a list of depths, are the entries of the outline for the
lines of its least depth. -/
theorem ofPreorder_lineAt {lines : List Reading} :
    ∀ (ps : List Nat) (d : Nat), Segment lines d ps →
      Entry.ofPreorder (ps.map (lineAt lines)) =
        (ps.filter fun j => indentAt lines j == d).map (entryAt lines)
  | [], d, _ => by rw [List.map_nil, Entry.ofPreorder, List.filter_nil, List.map_nil]
  | i :: rest, d, h => by
    have hid := h.indentAt_head
    -- the reader cuts where the depth is no greater than that of the first line, which is `d`
    have hcut : rest = rest.takeWhile (fun j => decide (d < indentAt lines j)) ++
        rest.dropWhile (fun j => decide (d < indentAt lines j)) :=
      List.takeWhile_append_dropWhile.symm
    generalize hinner : rest.takeWhile (fun j => decide (d < indentAt lines j)) = inner at hcut
    generalize houter : rest.dropWhile (fun j => decide (d < indentAt lines j)) = outer at hcut
    have hin : ∀ j ∈ inner, d < indentAt lines j := fun j hj =>
      lt_of_mem_takeWhile (hinner.symm ▸ hj)
    have hout : ∀ c ∈ outer.head?, indentAt lines c ≤ d := fun c hc =>
      le_of_mem_head?_dropWhile (houter.symm ▸ hc)
    have hlt : inner.length < (i :: rest).length ∧ outer.length < (i :: rest).length := by
      rw [hcut, List.length_cons, List.length_append]
      omega
    rw [hcut] at h
    have htake : (rest.map (lineAt lines)).takeWhile (fun x => decide (indentAt lines i < x.1)) =
        inner.map (lineAt lines) := by
      rw [hid, ← hinner, List.takeWhile_map]
      rfl
    have hdrop : (rest.map (lineAt lines)).dropWhile (fun x => decide (indentAt lines i < x.1)) =
        outer.map (lineAt lines) := by
      rw [hid, ← houter, List.dropWhile_map]
      rfl
    have hfilter : (inner.filter fun j => indentAt lines j == d) = [] := by
      refine List.filter_eq_nil_iff.mpr fun j hj => ?_
      have := hin j hj
      rw [beq_iff_eq]
      omega
    calc Entry.ofPreorder ((i :: rest).map (lineAt lines))
        = .node (signatureAt lines i) (Entry.ofPreorder (inner.map (lineAt lines))) ::
            Entry.ofPreorder (outer.map (lineAt lines)) := by
          rw [List.map_cons, show lineAt lines i = (indentAt lines i, signatureAt lines i) from rfl,
            Entry.ofPreorder, htake, hdrop]
      _ = entryAt lines i :: (outer.filter fun j => indentAt lines j == d).map (entryAt lines) := by
          rw [ofPreorder_lineAt inner (d + 1) (h.before_cut hin hout),
            ofPreorder_lineAt outer d (h.behind_cut hout), h.filter_inner hin hout, ← entryAt_eq]
      _ = ((i :: rest).filter fun j => indentAt lines j == d).map (entryAt lines) := by
          rw [List.filter_cons, if_pos (beq_iff_eq.mpr hid), hcut, List.filter_append, hfilter,
            List.nil_append, List.map_cons]
termination_by ps => ps.length
decreasing_by
  · exact hlt.1
  · exact hlt.2

/-- The entries of the kept lines are those of the outline. -/
theorem ofPreorder_keptLines (all : List (Located Reading)) :
    Entry.ofPreorder (keptLines (judgeAll ⟨0, none⟩ all)) = forest (all.map (·.item)) := by
  rw [keptLines_judgeAll, ofPreorder_lineAt _ 0 (segment_keptNumbers _)]
  rfl

end Outline

/-! ## Sections and files -/

/-- The rule of a section is the one that its text outlines. -/
theorem Section.read_rule (s : Section) : s.read.rule = s.outlinedRule := by
  unfold Section.read Section.outlinedRule
  cases s.header with
  | none => rfl
  | some header =>
    simp only [Option.map_some]
    cases hh : readHeader header.item with
    | error fault => rfl
    | ok found =>
      obtain ⟨priority, name⟩ := found
      simp only [Outline.ofPreorder_keptLines]
      split <;> rfl

/-- What is reported about a section is what its text outlines. -/
theorem Section.read_reports (s : Section) : s.read.reports = s.outlinedReports := by
  unfold Section.read Section.outlinedReports
  cases s.header with
  | none => rfl
  | some header =>
    simp only
    cases hh : readHeader header.item with
    | error fault => rfl
    | ok found =>
      obtain ⟨priority, name⟩ := found
      simp only [Outline.reportedLines_judgeAll]
      split <;> rfl

/-- **A file yields what its outline says**: of each section with an accepted header the entries of
the kept lines, each below the line that the outline names, and one report for each line that is
neither kept nor below a line that is skipped; of each section with another header no rule and one
report. -/
theorem readDocument_eq_outline (data : List UInt8) :
    readRules data = (documentSections data).filterMap Section.outlinedRule ∧
      readReports data =
        if fileHeader.isPrefixOf data then (documentSections data).flatMap Section.outlinedReports
        else [⟨0, .noFileHeader⟩] := by
  unfold readRules readReports readSections documentSections
  split
  next =>
    rw [Option.getD_some, List.filterMap_map]
    refine ⟨List.filterMap_congr fun s _ => s.read_rule, ?_⟩
    simp only [List.flatMap_map, Section.read_reports]
  next => exact ⟨rfl, rfl⟩

end MimeDatabase.Magic
