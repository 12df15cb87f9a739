import MimeDatabase.Proofs.Text.Decomposition

/-!
# Composed form

A text in composed form is its own composed form (`compose_compose`). Composing a text does not
change what it decomposes into (`decompose_compose`), and what is composed depends on nothing else.

Composing takes a mark out of its place and lets the starter absorb it. The decomposition of the new
starter then has the mark in front of those that were passed over. These are of smaller classes, so
the mark is put back behind them when the marks are brought into order (`orderMarks_pull`).
`composeFrom` keeps the marks that it has passed over (`Passed`).

A text is composed piece by piece where the second piece starts afresh (`compose_append`): with a
character that is no mark and that joins no character before it.
-/

namespace MimeDatabase.Text

/-! ## The order of marks -/

/-- Puts a character in front of a text: a starter at the start, a mark in its place. -/
def place (c : Char) (cs : List Char) : List Char :=
  if classOf c = 0 then c :: cs else insertMark c cs

theorem orderMarks_cons (c : Char) (cs : List Char) :
    orderMarks (c :: cs) = place c (orderMarks cs) := rfl

/-- Texts whose marks are ordered alike are so after any beginning. -/
theorem orderMarks_append_congr {cs ds : List Char} (h : orderMarks cs = orderMarks ds)
    (front : List Char) : orderMarks (front ++ cs) = orderMarks (front ++ ds) := by
  induction front with
  | nil => exact h
  | cons c front ih => rw [List.cons_append, List.cons_append, orderMarks_cons, orderMarks_cons, ih]

/-- To insert a mark adds it and nothing else. -/
theorem insertMark_perm (c : Char) (cs : List Char) : (insertMark c cs).Perm (c :: cs) := by
  induction cs with
  | nil => exact List.Perm.refl _
  | cons d ds ih =>
    rw [insertMark]
    split
    next => exact List.Perm.refl _
    next => exact (ih.cons d).trans (List.Perm.swap c d ds)

/-- No character is lost when marks are brought into order. -/
theorem orderMarks_perm (cs : List Char) : (orderMarks cs).Perm cs := by
  induction cs with
  | nil => exact List.Perm.refl _
  | cons c cs ih =>
    rw [orderMarks_cons, place]
    split
    next => exact ih.cons c
    next => exact (insertMark_perm c _).trans (ih.cons c)

/-- Marks of different classes may be inserted one before the other or the other way round. -/
theorem insertMark_comm {c d : Char} (hd : classOf d ≠ 0) (hlt : classOf d < classOf c)
    (cs : List Char) : insertMark d (insertMark c cs) = insertMark c (insertMark d cs) := by
  induction cs with
  | nil => grind [insertMark]
  | cons e es ih => grind [insertMark]

/-- A mark may be written before marks of smaller classes as well as behind them. -/
theorem orderMarks_pull {c : Char} {marks : List Char}
    (h : ∀ m ∈ marks, classOf m ≠ 0 ∧ classOf m < classOf c) (cs : List Char) :
    orderMarks (marks ++ c :: cs) = orderMarks (c :: (marks ++ cs)) := by
  induction marks with
  | nil => rfl
  | cons m marks ih =>
    rw [List.forall_mem_cons] at h
    obtain ⟨hm, hlt⟩ := h.1
    have hc : classOf c ≠ 0 := Nat.ne_of_gt (Nat.zero_lt_of_lt hlt)
    have hcomm (ds : List Char) : place m (place c ds) = place c (place m ds) := by
      simp only [place, if_neg hm, if_neg hc, insertMark_comm hm hlt]
    rw [List.cons_append, List.cons_append, orderMarks_cons, ih h.2, orderMarks_cons,
      orderMarks_cons, orderMarks_cons, hcomm]

/-- A text whose marks are in order: each is behind a starter or a mark of no greater class. -/
def InOrder (cs : List Char) : Prop :=
  cs.IsChain fun a b => classOf b = 0 ∨ classOf a ≤ classOf b

/-- Marks that are in order are left alone. -/
theorem orderMarks_eq_self {cs : List Char} (h : InOrder cs) : orderMarks cs = cs := by
  induction cs with
  | nil => rfl
  | cons c cs ih =>
    obtain ⟨hnext, hrest⟩ := List.isChain_cons.mp h
    rw [orderMarks_cons, ih hrest, place]
    split
    next => rfl
    next =>
      cases cs with
      | nil => rfl
      | cons d ds =>
        rw [insertMark, if_pos]
        simpa using hnext d rfl

theorem head?_insertMark (c : Char) (cs : List Char) :
    (insertMark c cs).head? = some c ∨ (insertMark c cs).head? = cs.head? := by
  cases cs with
  | nil => exact Or.inl rfl
  | cons d ds =>
    rw [insertMark]
    split
    next => exact Or.inl rfl
    next => exact Or.inr rfl

/-- A mark is inserted where the order has it. -/
theorem inOrder_insertMark (c : Char) {cs : List Char} (h : InOrder cs) :
    InOrder (insertMark c cs) := by
  induction cs with
  | nil => exact List.isChain_singleton c
  | cons d ds ih =>
    obtain ⟨hnext, hrest⟩ := List.isChain_cons.mp h
    rw [insertMark]
    split
    next hstop =>
      rw [Bool.or_eq_true, decide_eq_true_eq, decide_eq_true_eq] at hstop
      exact List.isChain_cons_cons.mpr ⟨hstop, h⟩
    next hpass =>
      rw [Bool.or_eq_true, not_or, decide_eq_true_eq, decide_eq_true_eq] at hpass
      refine List.isChain_cons.mpr ⟨fun e he => ?_, ih hrest⟩
      rcases head?_insertMark c ds with hhead | hhead
      · rw [hhead] at he
        obtain rfl := Option.some.inj he
        exact Or.inr (Nat.le_of_not_le hpass.2)
      · exact hnext e (hhead ▸ he)

/-- Ordered marks are in order. -/
theorem inOrder_orderMarks (cs : List Char) : InOrder (orderMarks cs) := by
  induction cs with
  | nil => exact List.isChain_nil
  | cons c cs ih =>
    rw [orderMarks_cons, place]
    split
    next hstarter =>
      refine List.isChain_cons.mpr ⟨fun d _ => Or.inr ?_, ih⟩
      rw [hstarter]
      exact Nat.zero_le _
    next => exact inOrder_insertMark c ih

/-- A starter divides a text: no mark is moved past it. -/
theorem orderMarks_append_cons {c : Char} (hc : classOf c = 0) (front cs : List Char) :
    orderMarks (front ++ c :: cs) = orderMarks front ++ orderMarks (c :: cs) := by
  have hcons : orderMarks (c :: cs) = c :: orderMarks cs := by
    rw [orderMarks_cons, place, if_pos hc]
  induction front with
  | nil => rfl
  | cons d front ih =>
    have hinsert (ds : List Char) :
        insertMark d (ds ++ c :: orderMarks cs) = insertMark d ds ++ c :: orderMarks cs := by
      induction ds with
      | nil => simp [insertMark, hc]
      | cons e es ih =>
        rw [List.cons_append, insertMark, insertMark, ih]
        split
        next => rfl
        next => rfl
    rw [List.cons_append, orderMarks_cons, orderMarks_cons, ih, hcons, place, place]
    split
    next => rfl
    next => exact hinsert _

/-! ## Decomposition and composition of texts -/

/-- The decomposition of a text, with its marks in order. -/
def decompose (cs : List Char) : List Char := orderMarks (cs.flatMap decomposeChar)

/-- Composes a decomposed text. -/
def recompose : List Char → List Char
  | [] => []
  | c :: rest => composeFrom c [] 0 rest

theorem compose_eq (cs : List Char) : compose cs = recompose (decompose cs) := rfl

/-- What a character is composed to with the starter, if neither a starter nor a mark of its own
class stands between them. -/
def joined? (starter : Char) (marks : List Char) (lastClass : Nat) (c : Char) : Option Char :=
  if marks.isEmpty || lastClass < classOf c then composePair starter c else none

/-- A character is joined with a starter if nothing stands between that blocks it. -/
theorem joined?_eq_some {starter c w : Char} {marks : List Char} {lastClass : Nat}
    (h : joined? starter marks lastClass c = some w) :
    (marks ≠ [] → lastClass < classOf c) ∧ composePair starter c = some w := by
  unfold joined? at h
  split at h
  next hfree =>
    rw [Bool.or_eq_true, List.isEmpty_iff, decide_eq_true_eq] at hfree
    exact ⟨hfree.resolve_left, h⟩
  next => exact absurd h (Option.some_ne_none w).symm

theorem composeFrom_cons (starter : Char) (marks : List Char) (lastClass : Nat) (c : Char)
    (cs : List Char) :
    composeFrom starter marks lastClass (c :: cs) =
      match joined? starter marks lastClass c with
      | some w => composeFrom w marks lastClass cs
      | none =>
        if classOf c = 0 then starter :: marks.reverse ++ composeFrom c [] 0 cs
        else composeFrom starter (c :: marks) (classOf c) cs := by
  rw [composeFrom]
  rfl

/-- The parts of a text are the parts of its characters. -/
theorem mem_decompose {cs : List Char} {p : Char} :
    p ∈ decompose cs ↔ ∃ c ∈ cs, p ∈ decomposeChar c :=
  (orderMarks_perm _).mem_iff.trans List.mem_flatMap

/-- Nothing in a decomposed text can be decomposed. -/
theorem decomposeChar_of_mem_decompose {cs : List Char} {p : Char} (hp : p ∈ decompose cs) :
    decomposeChar p = [p] := by
  obtain ⟨c, -, hc⟩ := mem_decompose.mp hp
  exact decomposeChar_of_mem hc

/-- A text of characters without a decomposition is its own decomposition. -/
theorem flatMap_decomposeChar_of_forall {cs : List Char} (h : ∀ c ∈ cs, decomposeChar c = [c]) :
    cs.flatMap decomposeChar = cs := by
  rw [List.flatMap_congr h, List.flatMap_singleton']

/-- What is known of the marks that were passed over while a starter is composed, last first: none
can be decomposed, all have classes up to that of the last of them, and the mark that comes next has
no smaller class. -/
structure Passed (marks : List Char) (lastClass : Nat) (cs : List Char) : Prop where
  decomposed : ∀ c ∈ marks ++ cs, decomposeChar c = [c]
  bounded : ∀ m ∈ marks, classOf m ≠ 0 ∧ classOf m ≤ lastClass
  next : marks ≠ [] → ∀ c ∈ cs.head?, classOf c = 0 ∨ lastClass ≤ classOf c
  rest : InOrder cs

namespace Passed

variable {marks cs : List Char} {lastClass : Nat} {c : Char}

theorem start (hdecomposed : ∀ c ∈ cs, decomposeChar c = [c]) (hrest : InOrder cs) :
    Passed [] 0 cs :=
  ⟨hdecomposed, fun _ hm => absurd hm List.not_mem_nil, fun hne => absurd rfl hne, hrest⟩

/-- A mark is composed with the starter. -/
theorem absorb (h : Passed marks lastClass (c :: cs)) (hlt : marks ≠ [] → lastClass < classOf c) :
    Passed marks lastClass cs := by
  obtain ⟨hnext, hrest⟩ := List.isChain_cons.mp h.rest
  refine ⟨fun d hd => h.decomposed d ?_, h.bounded, fun hne d hd => ?_, hrest⟩
  · rw [List.mem_append] at hd ⊢
    exact hd.imp_right (List.mem_cons_of_mem c)
  · rcases hnext d hd with hstarter | hle
    · exact Or.inl hstarter
    · exact Or.inr (Nat.le_of_lt (Nat.lt_of_lt_of_le (hlt hne) hle))

/-- A mark is passed over. -/
theorem push (h : Passed marks lastClass (c :: cs)) (hc : classOf c ≠ 0) :
    Passed (c :: marks) (classOf c) cs := by
  obtain ⟨hnext, hrest⟩ := List.isChain_cons.mp h.rest
  refine ⟨fun d hd => h.decomposed d (List.perm_middle.mem_iff.mpr hd), fun m hm => ?_,
    fun _ => hnext, hrest⟩
  rcases List.mem_cons.mp hm with rfl | hm
  · exact ⟨hc, Nat.le_refl _⟩
  · obtain ⟨hne, hle⟩ := h.bounded m hm
    have hlast := (h.next (List.ne_nil_of_mem hm) c rfl).resolve_left hc
    exact ⟨hne, Nat.le_trans hle hlast⟩

/-- A new starter is reached. -/
theorem restart (h : Passed marks lastClass (c :: cs)) : Passed [] 0 cs :=
  start (fun d hd => h.decomposed d (List.mem_append_right _ (List.mem_cons_of_mem c hd)))
    (List.isChain_cons.mp h.rest).2

end Passed

/-- Composing changes nothing of what a text decomposes into. -/
theorem orderMarks_flatMap_composeFrom {starter : Char} {marks cs : List Char} {lastClass : Nat}
    (h : Passed marks lastClass cs) :
    orderMarks ((composeFrom starter marks lastClass cs).flatMap decomposeChar) =
      orderMarks (decomposeChar starter ++ (marks.reverse ++ cs)) := by
  have hmarks {marks cs : List Char} {lastClass : Nat} (h : Passed marks lastClass cs) :
      marks.reverse.flatMap decomposeChar = marks.reverse :=
    flatMap_decomposeChar_of_forall fun c hc =>
      h.decomposed c (List.mem_append_left _ (List.mem_reverse.mp hc))
  fun_induction composeFrom starter marks lastClass cs with
  | case1 starter marks lastClass => rw [List.flatMap_cons, hmarks h, List.append_nil]
  | case2 starter marks lastClass c cs k whole w hw ih =>
    obtain ⟨hlt, hpair⟩ := joined?_eq_some (show joined? starter marks lastClass c = some w from hw)
    rw [ih (h.absorb hlt), decomposeChar_composePair hpair, List.append_assoc]
    refine orderMarks_append_congr (orderMarks_pull (fun m hm => ?_) cs).symm _
    rw [List.mem_reverse] at hm
    obtain ⟨hne, hle⟩ := h.bounded m hm
    exact ⟨hne, Nat.lt_of_le_of_lt hle (hlt (List.ne_nil_of_mem hm))⟩
  | case3 starter marks lastClass c cs k whole hw hk ih =>
    have hc : decomposeChar c = [c] :=
      h.decomposed c (List.mem_append_right _ List.mem_cons_self)
    rw [List.flatMap_append, List.flatMap_cons, hmarks h, ← List.append_assoc]
    refine orderMarks_append_congr ?_ _
    rw [ih h.restart, hc]
    rfl
  | case4 starter marks lastClass c cs k whole hw hk ih =>
    rw [ih (h.push hk), List.reverse_cons, List.append_assoc]
    rfl

/-- A composed text decomposes into what the text does. -/
theorem decompose_compose (cs : List Char) : decompose (compose cs) = decompose cs := by
  have hself : orderMarks (decompose cs) = decompose cs :=
    orderMarks_eq_self (inOrder_orderMarks _)
  have hdecomposed : ∀ c ∈ decompose cs, decomposeChar c = [c] :=
    fun c hc => decomposeChar_of_mem_decompose hc
  rw [compose_eq, decompose]
  cases hcs : decompose cs with
  | nil => rfl
  | cons c rest =>
    rw [hcs] at hself hdecomposed
    rw [List.forall_mem_cons] at hdecomposed
    have hrest : InOrder rest := by
      have hall : InOrder (c :: rest) := hcs ▸ inOrder_orderMarks _
      exact (List.isChain_cons.mp hall).2
    rw [recompose, orderMarks_flatMap_composeFrom (Passed.start hdecomposed.2 hrest),
      hdecomposed.1]
    exact hself

/-- **A composed text is its own composed form.** -/
theorem compose_compose (cs : List Char) : compose (compose cs) = compose cs := by
  rw [compose_eq, decompose_compose, ← compose_eq]

/-! ## What a composed text holds -/

/-- A separator is in a composed text only if it is in the text. -/
theorem mem_of_separator_mem_compose {sep : Char} (h : IsSeparator sep) {cs : List Char}
    (hmem : sep ∈ compose cs) : sep ∈ cs := by
  have hdecompose : sep ∈ decompose (compose cs) :=
    mem_decompose.mpr ⟨sep, hmem, by rw [h.decomposeChar_eq_self]; exact List.mem_cons_self⟩
  rw [decompose_compose, mem_decompose] at hdecompose
  obtain ⟨c, hc, hpart⟩ := hdecompose
  rwa [h.eq_of_mem hpart]

/-- Only the empty text is composed to nothing. -/
theorem compose_eq_nil_iff {cs : List Char} : compose cs = [] ↔ cs = [] := by
  constructor
  · intro hnil
    have hdecompose : decompose cs = [] := by rw [← decompose_compose, hnil]; rfl
    cases cs with
    | nil => rfl
    | cons c cs =>
      obtain ⟨p, hp⟩ := List.exists_mem_of_ne_nil _ (decomposeChar_ne_nil c)
      have hmem : p ∈ decompose (c :: cs) := mem_decompose.mpr ⟨c, List.mem_cons_self, hp⟩
      rw [hdecompose] at hmem
      exact absurd hmem List.not_mem_nil
  · rintro rfl
    rfl

/-! ## Texts that start afresh -/

/-- A text whose first character has nothing to do with what is written before it: what it
decomposes into starts with a character that is no mark and joins none. -/
def StartsAfresh (cs : List Char) : Prop :=
  ∀ c ∈ (cs.flatMap decomposeChar).head?, classOf c = 0 ∧ joins c = false

instance (cs : List Char) : Decidable (StartsAfresh cs) :=
  inferInstanceAs (Decidable (∀ c ∈ (cs.flatMap decomposeChar).head?, _))

/-- What starts afresh is composed on its own. -/
theorem composeFrom_append_cons {c : Char} (hc : classOf c = 0) (hjoins : joins c = false)
    (starter : Char) (marks : List Char) (lastClass : Nat) (front cs : List Char) :
    composeFrom starter marks lastClass (front ++ c :: cs) =
      composeFrom starter marks lastClass front ++ composeFrom c [] 0 cs := by
  fun_induction composeFrom starter marks lastClass front with
  | case1 starter marks lastClass =>
    have hnone : joined? starter marks lastClass c = none := by
      rw [joined?, composePair_eq_none hjoins, ite_self]
    rw [List.nil_append, composeFrom_cons, hnone]
    exact if_pos hc
  | case2 starter marks lastClass d front k whole w hw ih =>
    rw [List.cons_append, composeFrom_cons,
      show joined? starter marks lastClass d = some w from hw]
    exact ih
  | case3 starter marks lastClass d front k whole hw hk ih =>
    rw [List.cons_append, composeFrom_cons, show joined? starter marks lastClass d = none from hw]
    dsimp only
    rw [if_pos hk, ih, List.append_assoc]
  | case4 starter marks lastClass d front k whole hw hk ih =>
    rw [List.cons_append, composeFrom_cons, show joined? starter marks lastClass d = none from hw]
    dsimp only
    rw [if_neg hk, ih]

/-- A text is composed piece by piece where the second piece starts afresh. -/
theorem compose_append {cs : List Char} (h : StartsAfresh cs) (front : List Char) :
    compose (front ++ cs) = compose front ++ compose cs := by
  rw [compose_eq, compose_eq, compose_eq, decompose, decompose, decompose, List.flatMap_append]
  cases hcs : cs.flatMap decomposeChar with
  | nil => simp [orderMarks, recompose]
  | cons c rest =>
    obtain ⟨hc, hjoins⟩ := h c (by rw [hcs]; rfl)
    have hcons : orderMarks (c :: rest) = c :: orderMarks rest := by
      rw [orderMarks_cons, place, if_pos hc]
    rw [orderMarks_append_cons hc, hcons]
    cases orderMarks (front.flatMap decomposeChar) with
    | nil => rfl
    | cons d ds => exact composeFrom_append_cons hc hjoins d [] 0 ds _

/-- Characters below U+00C0 have nothing to do with what is written before them. -/
theorem startsAfresh_of_lt {c : Char} (h : c.toNat < 0xC0) (cs : List Char) :
    StartsAfresh (c :: cs) := by
  intro d hd
  rw [List.flatMap_cons, decomposeChar_of_lt h] at hd
  obtain rfl := Option.some.inj hd
  exact ⟨if_pos (by omega), joins_of_lt (by omega)⟩

end MimeDatabase.Text
