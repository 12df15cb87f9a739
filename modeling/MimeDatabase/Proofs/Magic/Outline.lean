import MimeDatabase.Magic.Outline

/-!
# Judging lines one by one follows the outline

The reader of a section remembers two numbers, the depth at which a further line can be attached and
the depth of the line that was last skipped. The outline says which line lies below which by looking
back at all earlier lines (`parent?_eq_some_iff`), and which lines are kept (`isKept_eq_true_iff`).
`Tracks` is the invariant that ties them together: for every indent that the next line may have, the
two numbers tell whether the line that it would lie below is kept, and at which depth. One line
preserves it (`judge_tracks`), so every line of a section gets the verdict of the outline
(`judgeAll_eq`).
-/

namespace MimeDatabase.Magic

namespace Outline

section Parents

variable {lines : List Reading} {indent n p i : Nat}

/-- The line found has a smaller indent, and no line after it has. -/
theorem lastBelow_eq_some (h : lastBelow lines indent n = some p) :
    p < n ∧ indentAt lines p < indent ∧ ∀ j, p < j → j < n → indent ≤ indentAt lines j := by
  induction n with
  | zero => exact absurd h (by simp [lastBelow])
  | succ n ih =>
    rw [lastBelow] at h
    split at h
    next hlt =>
      rw [← Option.some.inj h]
      exact ⟨Nat.lt_succ_self n, hlt, fun j hj hjn => absurd hjn (by omega)⟩
    next hge =>
      obtain ⟨hpn, hp, hbetween⟩ := ih h
      refine ⟨by omega, hp, fun j hj hjn => ?_⟩
      rcases Nat.lt_or_ge j n with hlt | hjge
      · exact hbetween j hj hlt
      · rw [Nat.le_antisymm (Nat.le_of_lt_succ hjn) hjge]
        exact Nat.not_lt.mp hge

/-- If no earlier line has a smaller indent, all have at least this one. -/
theorem lastBelow_eq_none (h : lastBelow lines indent n = none) :
    ∀ j, j < n → indent ≤ indentAt lines j := by
  induction n with
  | zero => exact fun j hj => absurd hj (Nat.not_lt_zero j)
  | succ n ih =>
    rw [lastBelow] at h
    split at h
    next => exact absurd h (by simp)
    next hge =>
      intro j hj
      rcases Nat.lt_or_ge j n with hlt | hjge
      · exact ih h j hlt
      · rw [Nat.le_antisymm (Nat.le_of_lt_succ hj) hjge]
        exact Nat.not_lt.mp hge

/-- What a line lies below, said of the text: the earlier line of smaller indent after which, up to
the line itself, no other one comes. -/
theorem parent?_eq_some_iff : parent? lines i = some p ↔
    p < i ∧ indentAt lines p < indentAt lines i ∧
      ∀ j, p < j → j < i → indentAt lines i ≤ indentAt lines j := by
  constructor
  · exact lastBelow_eq_some
  · rintro ⟨hpi, hp, hbetween⟩
    cases hq : parent? lines i with
    | none =>
      have := lastBelow_eq_none hq p hpi
      omega
    | some q =>
      obtain ⟨hqi, hq, hbetween'⟩ := lastBelow_eq_some hq
      -- neither of two such lines comes after the other one
      rcases Nat.lt_trichotomy p q with hlt | heq | hgt
      · have := hbetween q hlt hqi
        omega
      · rw [heq]
      · have := hbetween' p hgt hpi
        omega

theorem lastBelow_zero (lines : List Reading) (n : Nat) : lastBelow lines 0 n = none := by
  induction n with
  | zero => rfl
  | succ n ih => rw [lastBelow, if_neg (Nat.not_lt_zero _), ih]

theorem indentAt_eq {r : Reading} (h : lines[i]? = some r) : indentAt lines i = r.indent := by
  rw [indentAt, h]
  rfl

theorem parent?_eq {r : Reading} (h : lines[i]? = some r) :
    parent? lines i = lastBelow lines r.indent i := by
  rw [parent?, indentAt_eq h]

/-! ## When a line is kept -/

/-- A line with a fault is not kept. -/
theorem isKept_fault {fault : LineFault} {indent? : Option Nat}
    (h : lines[i]? = some (.fault fault indent?)) : isKept lines i = false := by
  rw [isKept, h]

/-- An entry at the left margin is kept. -/
theorem isKept_margin {s : Signature} (h : lines[i]? = some (.entry 0 s)) :
    isKept lines i = true := by
  rw [isKept, h]
  rfl

/-- An entry that lies below no line is kept at the left margin only. -/
theorem isKept_orphan {s : Signature} (h : lines[i]? = some (.entry indent s))
    (hp : parent? lines i = none) : isKept lines i = (indent == 0) := by
  rw [isKept, h]
  simp only
  split
  next => exact Bool.or_false _
  next q hq => exact absurd (hp.symm.trans hq) (by simp)

/-- An entry that lies below a line is kept if that line is kept and one step less deep. -/
theorem isKept_below {s : Signature} (h : lines[i]? = some (.entry indent s))
    (hp : parent? lines i = some p) :
    isKept lines i = (indentAt lines p + 1 == indent && isKept lines p) := by
  -- at the left margin it would lie below nothing
  have hpos : indent ≠ 0 := by
    intro hzero
    rw [parent?_eq h, hzero, Reading.indent, lastBelow_zero] at hp
    exact absurd hp (by simp)
  rw [isKept, h]
  simp only
  split
  next hq => exact absurd (hp.symm.trans hq) (by simp)
  next q hq =>
    rw [Option.some.inj (hq.symm.trans hp), beq_eq_false_iff_ne.mpr hpos, Bool.false_or]

/-- A line that is kept is an entry. -/
theorem exists_entry_of_isKept (h : isKept lines i = true) :
    ∃ indent s, lines[i]? = some (.entry indent s) := by
  cases hr : lines[i]? with
  | none =>
    rw [isKept, hr] at h
    exact absurd h Bool.false_ne_true
  | some r =>
    cases r with
    | fault fault indent? =>
      rw [isKept_fault hr] at h
      exact absurd h Bool.false_ne_true
    | entry indent s => exact ⟨indent, s, rfl⟩

/-- What a kept line lies below is kept and one step less deep. -/
theorem isKept_parent (h : isKept lines i = true) (hp : parent? lines i = some p) :
    isKept lines p = true ∧ indentAt lines p + 1 = indentAt lines i := by
  obtain ⟨indent, s, hr⟩ := exists_entry_of_isKept h
  rw [isKept_below hr hp, Bool.and_eq_true, beq_iff_eq] at h
  rw [indentAt_eq hr]
  exact ⟨h.2, h.1⟩

/-- A kept line that lies below no line stands at the left margin. -/
theorem indentAt_of_isKept (h : isKept lines i = true) (hp : parent? lines i = none) :
    indentAt lines i = 0 := by
  obtain ⟨indent, s, hr⟩ := exists_entry_of_isKept h
  rw [isKept_orphan hr hp, beq_iff_eq] at h
  rw [indentAt_eq hr]
  exact h

/-- A line is kept exactly if it is an entry and stands at the left margin or one step below a line
that is kept. -/
theorem isKept_eq_true_iff : isKept lines i = true ↔
    ∃ s, lines[i]? = some (.entry (indentAt lines i) s) ∧
      (indentAt lines i = 0 ∨ ∃ p, parent? lines i = some p ∧ isKept lines p = true ∧
        indentAt lines p + 1 = indentAt lines i) := by
  constructor
  · intro h
    obtain ⟨indent, s, hr⟩ := exists_entry_of_isKept h
    refine ⟨s, by rw [indentAt_eq hr]; exact hr, ?_⟩
    cases hp : parent? lines i with
    | none => exact Or.inl (indentAt_of_isKept h hp)
    | some p => exact Or.inr ⟨p, rfl, isKept_parent h hp⟩
  · rintro ⟨s, hr, hzero | ⟨p, hp, hkept, hindent⟩⟩
    · rw [hzero] at hr
      exact isKept_margin hr
    · rw [isKept_below hr hp, hkept, hindent, beq_self_eq_true, Bool.and_self]

/-- A line that is kept does not lie below a line that is not. -/
theorem isBelowSkipped_of_isKept (h : isKept lines i = true) : isBelowSkipped lines i = false := by
  unfold isBelowSkipped
  cases hp : parent? lines i with
  | none => rfl
  | some p =>
    rw [Option.any_some, (isKept_parent h hp).1]
    rfl

end Parents

/-! ## The invariant -/

/-- What the progress after the first `n` lines tells about a further line of indent `d`: whether
the line that it would lie below is kept, and at which depth; and if there is no such line, that
nothing can be attached and nothing is being skipped. -/
structure Tracks (lines : List Reading) (n : Nat) (p : Progress) : Prop where
  bare : ∀ d, 0 < d → lastBelow lines d n = none → p.skips (some d) = false ∧ p.depth = 0
  below : ∀ d q, lastBelow lines d n = some q →
    p.skips (some d) = !isKept lines q ∧ (isKept lines q = true → indentAt lines q + 1 = min d p.depth)

/-- Before the first line there is nothing to skip and no parent. -/
theorem tracks_start (lines : List Reading) : Tracks lines 0 ⟨0, none⟩ :=
  ⟨fun _ _ _ => ⟨rfl, rfl⟩, fun _ _ h => absurd h (by simp [lastBelow])⟩

/-- A line is skipped if it stands deeper than the line that skipping began with. -/
theorem skips_iff {p : Progress} {d : Nat} :
    p.skips (some d) = true ↔ ∃ k, p.skipping = some k ∧ k < d := by
  unfold Progress.skips
  cases p.skipping with
  | none => simp
  | some k => simp

/-- What lies below something that is skipped is skipped. -/
theorem skips_of_le {p : Progress} {d i : Nat} (h : p.skips (some d) = true) (hle : d ≤ i) :
    p.skips (some i) = true := by
  obtain ⟨k, hk, hlt⟩ := skips_iff.mp h
  exact skips_iff.mpr ⟨k, hk, Nat.lt_of_lt_of_le hlt hle⟩

/-- What is not skipped lies below nothing that is skipped. -/
theorem skips_eq_false_of_le {p : Progress} {d i : Nat} (h : p.skips (some i) = false)
    (hle : d ≤ i) : p.skips (some d) = false := by
  rw [← Bool.not_eq_true] at h ⊢
  exact fun hs => h (skips_of_le hs hle)

theorem skips_zero (p : Progress) : p.skips (some 0) = false := by
  rw [← Bool.not_eq_true, skips_iff]
  rintro ⟨k, -, hk⟩
  exact absurd hk (Nat.not_lt_zero k)

section Tracks

variable {lines : List Reading} {n : Nat} {p : Progress}

/-- To know the progress after one more line it is enough to know what changes for the lines that
would lie below it, since all others lie below the same line as before. -/
theorem Tracks.next {p' : Progress} (h : Tracks lines n p)
    (hnear : ∀ d, indentAt lines n < d → p'.skips (some d) = !isKept lines n ∧
      (isKept lines n = true → indentAt lines n + 1 = min d p'.depth))
    (hfar : ∀ d, d ≤ indentAt lines n → p'.skips (some d) = p.skips (some d) ∧
      (0 < d → p.skips (some d) = false → min d p'.depth = min d p.depth)) :
    Tracks lines (n + 1) p' := by
  constructor
  · intro d hd hnone
    rw [lastBelow] at hnone
    split at hnone
    next => exact absurd hnone (by simp)
    next hge =>
      -- the new line is no candidate, so the answer is that for the lines before it
      have hle := Nat.not_lt.mp hge
      obtain ⟨hskips, hdepth⟩ := h.bare d hd hnone
      obtain ⟨hskips', hmin⟩ := hfar d hle
      rw [hskips', hskips]
      have := hmin hd hskips
      refine ⟨rfl, ?_⟩
      rw [hdepth] at this
      omega
  · intro d q hsome
    rw [lastBelow] at hsome
    split at hsome
    next hlt =>
      rw [← Option.some.inj hsome]
      exact hnear d hlt
    next hge =>
      obtain ⟨hskips', hmin⟩ := hfar d (Nat.not_lt.mp hge)
      obtain ⟨hskips, hdepth⟩ := h.below d q hsome
      have hd : 0 < d := Nat.lt_of_le_of_lt (Nat.zero_le _) (lastBelow_eq_some hsome).2.1
      rw [hskips']
      refine ⟨hskips, fun hq => ?_⟩
      rw [hmin hd (by rw [hskips, hq]; rfl)]
      exact hdepth hq

/-- The progress tells whether the next line lies below a line that is not kept. -/
theorem Tracks.isBelowSkipped_eq (h : Tracks lines n p) :
    isBelowSkipped lines n = p.skips (some (indentAt lines n)) := by
  unfold isBelowSkipped
  cases hp : parent? lines n with
  | none =>
    rcases Nat.eq_zero_or_pos (indentAt lines n) with hzero | hpos
    · rw [hzero, skips_zero]
      rfl
    · rw [(h.bare _ hpos hp).1]
      rfl
  | some q =>
    rw [(h.below _ q hp).1]
    rfl

/-- If the next line is an entry that is not skipped, the progress tells whether it is kept, and if
not, how deep it could have been. -/
theorem Tracks.isKept_iff (h : Tracks lines n p) {indent : Nat} {s : Signature}
    (hr : lines[n]? = some (.entry indent s)) (hskips : p.skips (some indent) = false) :
    (isKept lines n = true ↔ indent ≤ p.depth) ∧ (p.depth < indent → depthAt lines n = p.depth) := by
  unfold depthAt
  cases hp : parent? lines n with
  | none =>
    rw [isKept_orphan hr hp, beq_iff_eq]
    rw [parent?_eq hr] at hp
    rcases Nat.eq_zero_or_pos indent with hzero | hpos
    · exact ⟨by omega, by omega⟩
    · have hdepth := (h.bare indent hpos hp).2
      rw [hdepth]
      exact ⟨by omega, fun _ => rfl⟩
  | some q =>
    rw [isKept_below hr hp]
    rw [parent?_eq hr] at hp
    obtain ⟨hq, hdepth⟩ := h.below indent q hp
    rw [hskips, Bool.false_eq, Bool.not_eq_false'] at hq
    have hmin := hdepth hq
    rw [hq, Bool.and_true, beq_iff_eq, hmin]
    refine ⟨by omega, fun hlt => ?_⟩
    show indentAt lines q + 1 = p.depth
    omega

/-- A line that is skipped with an earlier one changes nothing. -/
theorem Tracks.drop (h : Tracks lines n p) (hkept : isKept lines n = false)
    (hskips : p.skips (some (indentAt lines n)) = true) : Tracks lines (n + 1) p := by
  apply h.next
  · intro d hd
    rw [hkept]
    exact ⟨skips_of_le hskips (Nat.le_of_lt hd), fun hk => absurd hk Bool.false_ne_true⟩
  · exact fun d _ => ⟨rfl, fun _ _ => rfl⟩

/-- After a line that is reported, the lines below it are skipped. -/
theorem Tracks.skip (h : Tracks lines n p) (hkept : isKept lines n = false)
    (hskips : p.skips (some (indentAt lines n)) = false) :
    Tracks lines (n + 1) { p with skipping := some (indentAt lines n) } := by
  apply h.next
  · intro d hd
    rw [hkept]
    exact ⟨skips_iff.mpr ⟨_, rfl, hd⟩, fun hk => absurd hk Bool.false_ne_true⟩
  · intro d hd
    have hold := skips_eq_false_of_le hskips hd
    refine ⟨?_, fun _ _ => rfl⟩
    rw [hold, ← Bool.not_eq_true, skips_iff]
    rintro ⟨k, hk, hkd⟩
    rw [← Option.some.inj hk] at hkd
    exact absurd hkd (Nat.not_lt.mpr hd)

/-- After a line that is kept, lines can be attached one step deeper, and nothing is skipped. -/
theorem Tracks.attach (h : Tracks lines n p) (hkept : isKept lines n = true)
    (hskips : p.skips (some (indentAt lines n)) = false) (hdepth : indentAt lines n ≤ p.depth) :
    Tracks lines (n + 1) ⟨indentAt lines n + 1, none⟩ := by
  apply h.next
  · intro d hd
    rw [hkept]
    refine ⟨rfl, fun _ => ?_⟩
    show indentAt lines n + 1 = min d (indentAt lines n + 1)
    omega
  · intro d hd
    have hold := skips_eq_false_of_le hskips hd
    refine ⟨hold.symm ▸ rfl, fun _ _ => ?_⟩
    show min d (indentAt lines n + 1) = min d p.depth
    omega

end Tracks

/-- The verdict of the outline about a line. -/
def verdict (lines : List Reading) (i : Nat) (r : Reading) : Verdict :=
  if isBelowSkipped lines i then .dropped
  else if isKept lines i then
    match r with
    | .entry indent s => .kept indent s
    | .fault fault _ => .reported (.line fault)
  else .reported (faultAt lines i r)

section Verdict

variable {lines : List Reading} {i : Nat} {r : Reading}

/-- A kept line is kept with its indent and its signature. -/
theorem verdict_kept {indent : Nat} {s : Signature} (h : isKept lines i = true) :
    verdict lines i (.entry indent s) = .kept indent s := by
  rw [verdict, isBelowSkipped_of_isKept h, h]
  rfl

theorem verdict_dropped (h : isBelowSkipped lines i = true) : verdict lines i r = .dropped := by
  unfold verdict
  rw [h, if_pos rfl]

/-- A line that is neither kept nor below a skipped one is reported with its fault. -/
theorem verdict_reported (hb : isBelowSkipped lines i = false) (hk : isKept lines i = false) :
    verdict lines i r = .reported (faultAt lines i r) := by
  unfold verdict
  rw [hb, hk]
  rfl

end Verdict

/-! ## One line -/

section Judge

variable {lines : List Reading} {n : Nat} {p : Progress}

/-- A line that cannot be used is dropped below something skipped, and reported elsewhere. -/
theorem judge_fault_tracks (h : Tracks lines n p) {fault : LineFault} {indent? : Option Nat}
    (hr : lines[n]? = some (.fault fault indent?)) :
    (judge p (.fault fault indent?)).1 = verdict lines n (.fault fault indent?) ∧
      Tracks lines (n + 1) (judge p (.fault fault indent?)).2 := by
  have hkept : isKept lines n = false := isKept_fault hr
  have hbelow := h.isBelowSkipped_eq
  have hindent : indentAt lines n = indent?.getD 0 := indentAt_eq hr
  rw [judge, ← hindent]
  split
  next hs =>
    have hs' : p.skips (some (indentAt lines n)) = true := by
      cases indent? with
      | none => exact absurd hs (by simp [Progress.skips])
      | some i =>
        rw [hindent]
        exact hs
    rw [verdict_dropped (hbelow.trans hs')]
    exact ⟨rfl, h.drop hkept hs'⟩
  next hs =>
    have hs' : p.skips (some (indentAt lines n)) = false := by
      rw [hindent]
      cases indent? with
      | none => exact skips_zero p
      | some i => exact Bool.not_eq_true _ ▸ hs
    rw [verdict_reported (hbelow.trans hs') hkept]
    exact ⟨rfl, h.skip hkept hs'⟩

/-- An entry is dropped below something skipped; elsewhere it is kept if it can be attached at its
depth, and reported if not. -/
theorem judge_entry_tracks (h : Tracks lines n p) {indent : Nat} {s : Signature}
    (hr : lines[n]? = some (.entry indent s)) :
    (judge p (.entry indent s)).1 = verdict lines n (.entry indent s) ∧
      Tracks lines (n + 1) (judge p (.entry indent s)).2 := by
  have hbelow := h.isBelowSkipped_eq
  have hindent : indentAt lines n = indent := indentAt_eq hr
  rw [judge, ← hindent]
  split
  next hs =>
    -- a kept line lies below nothing that is skipped
    have hkept : isKept lines n = false := by
      rw [← Bool.not_eq_true]
      intro hk
      rw [isBelowSkipped_of_isKept hk, hs] at hbelow
      exact Bool.false_ne_true hbelow
    rw [verdict_dropped (hbelow.trans hs)]
    exact ⟨rfl, h.drop hkept hs⟩
  next hs =>
    have hs' : p.skips (some (indentAt lines n)) = false := Bool.not_eq_true _ ▸ hs
    obtain ⟨hiff, hdepth⟩ := h.isKept_iff (hindent ▸ hr) hs'
    split
    next hlt =>
      have hkept : isKept lines n = false := by
        rw [← Bool.not_eq_true, hiff]
        exact Nat.not_le.mpr hlt
      rw [verdict_reported (hbelow.trans hs') hkept, faultAt, hdepth hlt]
      exact ⟨rfl, h.skip hkept hs'⟩
    next hge =>
      have hkept : isKept lines n = true := hiff.mpr (Nat.not_lt.mp hge)
      rw [verdict_kept hkept]
      exact ⟨rfl, h.attach hkept hs' (Nat.not_lt.mp hge)⟩

/-- One line is judged as the outline says, and the invariant holds after it. -/
theorem judge_tracks (h : Tracks lines n p) {r : Reading} (hr : lines[n]? = some r) :
    (judge p r).1 = verdict lines n r ∧ Tracks lines (n + 1) (judge p r).2 := by
  cases r with
  | fault fault indent? => exact judge_fault_tracks h hr
  | entry indent s => exact judge_entry_tracks h hr

end Judge

end Outline

end MimeDatabase.Magic
