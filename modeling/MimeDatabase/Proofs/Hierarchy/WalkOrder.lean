import Mathlib.Data.List.Induction
import Mathlib.Data.List.Shortlex
import MimeDatabase.Proofs.Hierarchy.Ancestors

/-!
# The order of a walk

`Hierarchy.walk` goes breadth first. A path can be written as a list of numbers, the places of its
steps among the parents of the type before. Then a walk from one type yields what it finds in the
order of these paths, shorter ones first, and those of one length as their numbers say
(`pairwise_sooner_walk`).

A type is marked when it is taken out of the queue and not when it is put in, so the queue may hold
it several times, and the distances of its types do not increase along it. What does increase are
whole layers: the queue is cut where the parents of one layer end, and `walk_append` says that all
new types in front of the cut are yielded before what is found from there on. `Layered` is what
holds at each cut, and `Layered.next` leads from one cut to the next.
-/

namespace MimeDatabase.Hierarchy

variable {h : Hierarchy} {s t x y : MediaType}

/-! ## Paths by places -/

/-- The type that a path leads to. Each step of a path is the place of a parent among the parents
of the type before. -/
def follow? (h : Hierarchy) (t : MediaType) (path : List Nat) : Option MediaType :=
  path.foldlM (fun y i => (h.parents y)[i]?) t

/-- A path is followed up to its last step, and then that step. -/
theorem follow?_concat_eq_some_iff {path : List Nat} {i : Nat} :
    h.follow? t (path ++ [i]) = some x ↔
      ∃ y, h.follow? t path = some y ∧ (h.parents y)[i]? = some x := by
  rw [follow?, List.foldlM_append]
  simp only [List.foldlM_cons, List.foldlM_nil, bind_pure]
  exact Option.bind_eq_some_iff

/-- A type reaches what some path leads to. -/
theorem reaches_iff_exists_follow? : h.Reaches t x ↔ ∃ path, h.follow? t path = some x := by
  constructor
  · intro hpath
    induction hpath with
    | refl => exact ⟨[], rfl⟩
    | @tail y p _ hp ih =>
      obtain ⟨path, hpath⟩ := ih
      obtain ⟨i, hi⟩ := List.mem_iff_getElem?.mp hp
      exact ⟨path ++ [i], follow?_concat_eq_some_iff.mpr ⟨y, hpath, hi⟩⟩
  · intro hsome
    obtain ⟨path, hpath⟩ := hsome
    induction path using List.reverseRecOn generalizing x with
    | nil => exact Option.some.inj hpath ▸ .refl
    | append_singleton path i ih =>
      obtain ⟨y, hy, hx⟩ := follow?_concat_eq_some_iff.mp hpath
      exact (ih hy).tail (List.mem_of_getElem? hx)

/-- A path comes before another one: it is shorter, or it is as long and takes a parent further in
front where the two part. -/
abbrev PathLt : List Nat → List Nat → Prop := List.Shortlex (· < ·)

theorem PathLt.length_le {p q : List Nat} (hpq : PathLt p q) : p.length ≤ q.length := by
  rcases List.shortlex_def.mp hpq with hlen | ⟨hlen, -⟩
  · exact hlen.le
  · exact hlen.le

theorem PathLt.concat {p q : List Nat} (hpq : PathLt p q) (i j : Nat) :
    PathLt (p ++ [i]) (q ++ [j]) := by
  have hstep : ∀ {p q : List Nat}, List.Lex (· < ·) p q → p.length = q.length →
      List.Lex (· < ·) (p ++ [i]) (q ++ [j]) := by
    intro p q hlex
    induction hlex with
    | nil => exact fun hlen => absurd hlen (by simp)
    | cons _ ih => exact fun hlen => (ih (Nat.succ.inj hlen)).cons
    | rel hlt => exact fun _ => .rel hlt
  rcases List.shortlex_def.mp hpq with hlen | ⟨hlen, hlex⟩
  · exact .of_length_lt (by simpa using hlen)
  · exact .of_lex (by simpa using hlen) (hstep hlex hlen)

/-- Each path to `y` comes later than some path to `x`. -/
def Sooner (h : Hierarchy) (t x y : MediaType) : Prop :=
  ∀ q, h.follow? t q = some y → ∃ p, h.follow? t p = some x ∧ PathLt p q

/-- What is never met is met later than everything. -/
theorem Sooner.of_not_reaches (hy : ¬ h.Reaches t y) : h.Sooner t x y :=
  fun q hq => absurd (reaches_iff_exists_follow?.mpr ⟨q, hq⟩) hy

/-- What comes sooner than something reached is reached. -/
theorem Sooner.reaches (hxy : h.Sooner t x y) (hy : h.Reaches t y) : h.Reaches t x := by
  obtain ⟨q, hq⟩ := reaches_iff_exists_follow?.mp hy
  obtain ⟨p, hp, -⟩ := hxy q hq
  exact reaches_iff_exists_follow?.mpr ⟨p, hp⟩

/-- Of two types only one comes sooner. -/
theorem Sooner.asymm (hxy : h.Sooner t x y) (hy : h.Reaches t y) : ¬ h.Sooner t y x := by
  intro hyx
  have hwf : WellFounded PathLt := List.Shortlex.wf Nat.lt_wfRel.wf
  -- a first path to one of the two would come after a path to the other one
  have hnone : ∀ q, h.follow? t q ≠ some x ∧ h.follow? t q ≠ some y := by
    intro q
    induction q using hwf.induction with
    | _ q ih =>
      constructor
      · intro hq
        obtain ⟨p, hp, hlt⟩ := hyx q hq
        exact (ih p hlt).2 hp
      · intro hq
        obtain ⟨p, hp, hlt⟩ := hxy q hq
        exact (ih p hlt).1 hp
  obtain ⟨q, hq⟩ := reaches_iff_exists_follow?.mp hy
  exact (hnone q).2 hq

/-! ## First places in a queue -/

/-- The types of a queue that have not been seen, each at its first place. -/
def unseen (queue seen : List MediaType) : List MediaType :=
  match queue with
  | [] => []
  | t :: rest => if seen.contains t then unseen rest seen else t :: unseen rest (t :: seen)

theorem mem_unseen_iff {queue seen : List MediaType} :
    x ∈ unseen queue seen ↔ x ∈ queue ∧ x ∉ seen := by
  induction queue generalizing seen with
  | nil => simp [unseen]
  | cons t rest ih =>
    rw [unseen, List.mem_cons]
    split
    next hseen =>
      rw [ih]
      refine and_congr_left fun hx => (or_iff_right ?_).symm
      exact fun heq => hx (heq ▸ List.contains_iff_mem.mp hseen)
    next hseen =>
      have ht : t ∉ seen := fun hmem => hseen (List.contains_iff_mem.mpr hmem)
      rw [List.mem_cons, ih, List.mem_cons, not_or]
      by_cases heq : x = t
      · simp [heq, ht]
      · simp [heq]

/-- New types are in the order of their first places in the queue. -/
theorem pairwise_unseen {R : MediaType → MediaType → Prop} {queue seen : List MediaType}
    (hR : ∀ front x back, queue = front ++ x :: back →
      ∀ y ∈ unseen queue seen, y ∉ front → y ≠ x → R x y) :
    (unseen queue seen).Pairwise R := by
  induction queue generalizing seen with
  | nil => exact List.Pairwise.nil
  | cons t rest ih =>
    by_cases hseen : seen.contains t = true
    · rw [unseen, if_pos hseen] at hR ⊢
      refine ih fun front x back hsplit y hy hfront hne => ?_
      have hyt : y ≠ t := fun heq =>
        (mem_unseen_iff.mp hy).2 (heq ▸ List.contains_iff_mem.mp hseen)
      refine hR (t :: front) x back (congrArg (t :: ·) hsplit) y hy ?_ hne
      rw [List.mem_cons, not_or]
      exact ⟨hyt, hfront⟩
    · rw [unseen, if_neg hseen] at hR ⊢
      have hyt : ∀ {y}, y ∈ unseen rest (t :: seen) → y ≠ t := fun hy heq =>
        (mem_unseen_iff.mp hy).2 (heq ▸ List.mem_cons_self)
      rw [List.pairwise_cons]
      constructor
      · intro y hy
        exact hR [] t rest rfl y (List.mem_cons_of_mem t hy) List.not_mem_nil (hyt hy)
      · refine ih fun front x back hsplit y hy hfront hne => ?_
        refine hR (t :: front) x back (congrArg (t :: ·) hsplit) y (List.mem_cons_of_mem t hy) ?_
          hne
        rw [List.mem_cons, not_or]
        exact ⟨hyt hy, hfront⟩

/-- Where a list that is put together of parts is divided, one of the parts is. -/
theorem exists_split_of_flatMap {α β : Type} {f : α → List β} {l : List α} {front back : List β}
    {b : β} (hsplit : l.flatMap f = front ++ b :: back) :
    ∃ before a after own rest, l = before ++ a :: after ∧ f a = own ++ b :: rest ∧
      front = before.flatMap f ++ own := by
  induction l generalizing front with
  | nil => exact absurd hsplit (by simp)
  | cons a l ih =>
    rw [List.flatMap_cons, List.append_eq_append_iff] at hsplit
    rcases hsplit with ⟨front', rfl, hrest⟩ | ⟨own, hown, hback⟩
    · obtain ⟨before, a', after, own, rest, rfl, hf, rfl⟩ := ih hrest
      exact ⟨a :: before, a', after, own, rest, rfl, hf, (List.append_assoc _ _ _).symm⟩
    · cases own with
      | nil =>
        -- the division falls between the first part and the next
        have hrest : l.flatMap f = [] ++ b :: back := hback.symm
        obtain ⟨before, a', after, own, rest, rfl, hf, hnil⟩ := ih hrest
        refine ⟨a :: before, a', after, own, rest, rfl, hf, ?_⟩
        rw [List.flatMap_cons, List.append_assoc, ← hnil, hown, List.append_nil, List.append_nil]
      | cons b' own =>
        obtain ⟨rfl, rfl⟩ := List.cons.inj hback
        exact ⟨[], a, l, front, own, rfl, hown, rfl⟩

/-! ## Layers -/

/-- A walk yields the new types of the front part of a queue before all others, and puts their
parents at the end of the queue. -/
theorem walk_append (h : Hierarchy) (queue later seen : List MediaType) :
    h.walk (queue ++ later) seen =
      unseen queue seen ++ h.walk (later ++ (unseen queue seen).flatMap h.parents)
        ((unseen queue seen).reverse ++ seen) := by
  induction queue generalizing later seen with
  | nil => simp [unseen]
  | cons t rest ih =>
    rw [List.cons_append, walk, unseen]
    split
    next => exact ih later seen
    next =>
      rw [List.append_assoc, ih, List.flatMap_cons, List.reverse_cons, List.append_assoc,
        List.append_assoc]
      rfl

/-- The types that come next: the parents of the last layer that have not been found or seen. -/
def nextLayer (h : Hierarchy) (found last seen : List MediaType) : List MediaType :=
  unseen (last.flatMap h.parents) (found.reverse ++ seen)

/-- The next layer has the parents of the last one that are new. -/
theorem mem_nextLayer_iff {found last seen : List MediaType} :
    x ∈ h.nextLayer found last seen ↔ (∃ z ∈ last, x ∈ h.parents z) ∧ x ∉ found ∧ x ∉ seen := by
  rw [nextLayer, mem_unseen_iff, List.mem_flatMap, List.mem_append, List.mem_reverse, not_or]

/-- The walk from a type is where all types have been yielded that paths of up to `depth` steps lead
to. `last` are those of them that no shorter path leads to, and the queue holds their parents. -/
structure Layered (h : Hierarchy) (s : MediaType) (seen : List MediaType) (depth : Nat)
    (found last : List MediaType) : Prop where
  walk_eq : h.walk [s] seen = found ++ h.walk (last.flatMap h.parents) (found.reverse ++ seen)
  mem_found : ∀ x, x ∈ found ↔ x ∉ seen ∧ ∃ p, h.follow? s p = some x ∧ p.length ≤ depth
  mem_last : ∀ x, x ∈ last ↔ x ∈ found ∧ ∀ p, h.follow? s p = some x → depth ≤ p.length
  suffix : last <:+ found
  sorted : found.Pairwise (h.Sooner s)

/-- At the beginning only the start is found. -/
theorem Layered.start {seen : List MediaType} (hs : s ∉ seen) : h.Layered s seen 0 [s] [s] where
  walk_eq := by
    rw [walk, dif_neg fun hmem => hs (List.contains_iff_mem.mp hmem)]
    simp
  mem_found x := by
    simp only [List.mem_singleton, Nat.le_zero, List.length_eq_zero_iff, exists_eq_right]
    constructor
    · intro hx
      rw [hx]
      exact ⟨hs, rfl⟩
    · intro hx
      exact (Option.some.inj hx.2).symm
  mem_last x := (and_iff_left fun _ _ => Nat.zero_le _).symm
  suffix := List.suffix_rfl
  sorted := List.pairwise_singleton _ _

namespace Layered

variable {seen found last : List MediaType} {depth : Nat}

theorem depth_lt (hl : h.Layered s seen depth found last) (hfound : x ∉ found) (hseen : x ∉ seen)
    {q : List Nat} (hq : h.follow? s q = some x) : depth < q.length := by
  by_contra hle
  exact hfound ((hl.mem_found x).mpr ⟨hseen, q, hq, Nat.le_of_not_lt hle⟩)

/-- A path of one more step to a new type comes from the last layer. -/
theorem exists_last (hl : h.Layered s seen depth found last) (hc : h.Closed seen)
    (hfound : x ∉ found) (hseen : x ∉ seen) {q : List Nat} (hq : h.follow? s q = some x)
    (hlen : q.length = depth + 1) :
    ∃ z ∈ last, ∃ p i, q = p ++ [i] ∧ h.follow? s p = some z ∧ (h.parents z)[i]? = some x := by
  rcases List.eq_nil_or_concat' q with rfl | ⟨p, i, rfl⟩
  · exact absurd hlen (Nat.zero_ne_add_one depth)
  · obtain ⟨z, hp, hi⟩ := follow?_concat_eq_some_iff.mp hq
    have hz : z ∉ seen := fun hmem => hseen (hc z hmem x (List.mem_of_getElem? hi))
    have hplen : p.length = depth := by simpa using hlen
    have hzfound : z ∈ found := (hl.mem_found z).mpr ⟨hz, p, hp, hplen.le⟩
    refine ⟨z, (hl.mem_last z).mpr ⟨hzfound, fun p' hp' => ?_⟩, p, i, rfl, hp, hi⟩
    -- a shorter path to `z` would lead on to `x`
    have hlt := hl.depth_lt hfound hseen (follow?_concat_eq_some_iff.mpr ⟨z, hp', hi⟩)
    rw [List.length_append, List.length_singleton] at hlt
    exact Nat.le_of_lt_succ hlt

/-- The next layer is in order: the queue holds the parents of the last layer in the order of that
layer, and those of one type in their own order. -/
theorem sorted_nextLayer (hl : h.Layered s seen depth found last) (hc : h.Closed seen) :
    (h.nextLayer found last seen).Pairwise (h.Sooner s) := by
  refine pairwise_unseen fun front x back hsplit y hy hfront hne q hq => ?_
  -- `x` stands first among the parents of `z`, at the place `own.length`
  obtain ⟨before, z, after, own, rest, rfl, hparents, rfl⟩ := exists_split_of_flatMap hsplit
  obtain ⟨-, hfound, hseen⟩ := mem_nextLayer_iff.mp hy
  rw [List.mem_append, not_or] at hfront
  have hi : (h.parents z)[own.length]? = some x := by rw [hparents]; simp
  rcases Nat.eq_or_lt_of_le (hl.depth_lt hfound hseen hq) with hlen | hlt
  · obtain ⟨w, hw, p, j, rfl, hp, hj⟩ := hl.exists_last hc hfound hseen hq hlen.symm
    have hyw : y ∈ h.parents w := List.mem_of_getElem? hj
    rcases List.mem_append.mp hw with hbefore | hw
    · exact absurd (List.mem_flatMap.mpr ⟨w, hbefore, hyw⟩) hfront.1
    rcases List.mem_cons.mp hw with rfl | hafter
    · -- both are parents of `w`, and `y` stands behind `x`
      refine ⟨p ++ [own.length], follow?_concat_eq_some_iff.mpr ⟨w, hp, hi⟩, ?_⟩
      refine .append_left ((List.shortlex_singleton_iff _ _).mpr ?_) p
      rcases Nat.lt_trichotomy own.length j with hlt | rfl | hgt
      · exact hlt
      · exact absurd (Option.some.inj (hj.symm.trans hi)) hne
      · rw [hparents, List.getElem?_append_left hgt] at hj
        exact absurd (List.mem_of_getElem? hj) hfront.2
    · -- `w` comes after `z`
      have hsorted := List.Pairwise.sublist hl.suffix.sublist hl.sorted
      obtain ⟨-, htail, -⟩ := List.pairwise_append.mp hsorted
      obtain ⟨p', hp', hlt⟩ := (List.pairwise_cons.mp htail).1 w hafter p hp
      exact ⟨p' ++ [own.length], follow?_concat_eq_some_iff.mpr ⟨z, hp', hi⟩, hlt.concat _ _⟩
  · -- a longer path comes later than the one over `z`
    have hz : z ∈ before ++ z :: after := List.mem_append_right _ List.mem_cons_self
    obtain ⟨-, p, hp, hle⟩ := (hl.mem_found z).mp ((hl.mem_last z).mp hz).1
    refine ⟨p ++ [own.length], follow?_concat_eq_some_iff.mpr ⟨z, hp, hi⟩, .of_length_lt ?_⟩
    rw [List.length_append, List.length_singleton]
    omega

/-- One more layer keeps all that is known about those before. -/
theorem next (hl : h.Layered s seen depth found last) (hc : h.Closed seen) :
    h.Layered s seen (depth + 1) (found ++ h.nextLayer found last seen)
      (h.nextLayer found last seen) where
  walk_eq := by
    have hwalk := h.walk_append (last.flatMap h.parents) [] (found.reverse ++ seen)
    rw [List.append_nil, List.nil_append] at hwalk
    rw [hl.walk_eq, hwalk, List.append_assoc, List.reverse_append, List.append_assoc]
    rfl
  mem_found x := by
    rw [List.mem_append, mem_nextLayer_iff]
    constructor
    · rintro (hx | ⟨⟨z, hz, hp⟩, -, hseen⟩)
      · obtain ⟨hseen, p, hp, hle⟩ := (hl.mem_found x).mp hx
        exact ⟨hseen, p, hp, Nat.le_succ_of_le hle⟩
      · obtain ⟨-, p, hpath, hle⟩ := (hl.mem_found z).mp ((hl.mem_last z).mp hz).1
        obtain ⟨i, hi⟩ := List.mem_iff_getElem?.mp hp
        refine ⟨hseen, p ++ [i], follow?_concat_eq_some_iff.mpr ⟨z, hpath, hi⟩, ?_⟩
        rw [List.length_append, List.length_singleton]
        omega
    · rintro ⟨hseen, q, hq, hle⟩
      by_cases hfound : x ∈ found
      · exact Or.inl hfound
      · have hlen : q.length = depth + 1 := Nat.le_antisymm hle (hl.depth_lt hfound hseen hq)
        obtain ⟨z, hz, p, i, -, -, hi⟩ := hl.exists_last hc hfound hseen hq hlen
        exact Or.inr ⟨⟨z, hz, List.mem_of_getElem? hi⟩, hfound, hseen⟩
  mem_last x := by
    rw [List.mem_append]
    constructor
    · intro hx
      obtain ⟨-, hfound, hseen⟩ := mem_nextLayer_iff.mp hx
      exact ⟨Or.inr hx, fun p hp => hl.depth_lt hfound hseen hp⟩
    · rintro ⟨hfound | hx, hall⟩
      · obtain ⟨-, p, hp, hle⟩ := (hl.mem_found x).mp hfound
        exact absurd (hall p hp) (Nat.not_le_of_lt (Nat.lt_succ_of_le hle))
      · exact hx
  suffix := List.suffix_append _ _
  sorted := by
    refine List.pairwise_append.mpr ⟨hl.sorted, hl.sorted_nextLayer hc, fun x hx y hy q hq => ?_⟩
    obtain ⟨-, p, hp, hle⟩ := (hl.mem_found x).mp hx
    obtain ⟨-, hfound, hseen⟩ := mem_nextLayer_iff.mp hy
    exact ⟨p, hp, .of_length_lt (Nat.lt_of_le_of_lt hle (hl.depth_lt hfound hseen hq))⟩

end Layered

/-- A walk has gone any number of layers deep. -/
theorem exists_layered {seen : List MediaType} (hc : h.Closed seen) (hs : s ∉ seen) (depth : Nat) :
    ∃ found last, h.Layered s seen depth found last := by
  induction depth with
  | zero => exact ⟨[s], [s], .start hs⟩
  | succ depth ih =>
    obtain ⟨found, last, hl⟩ := ih
    exact ⟨_, _, hl.next hc⟩

/-- A walk does not come to what was seen before. -/
theorem notMem_of_mem_walk {queue seen : List MediaType} (hx : x ∈ h.walk queue seen) :
    x ∉ seen := by
  obtain ⟨q, -, hq, hpath⟩ := (h.mem_walk_iff queue seen x).mp hx
  rcases Relation.ReflTransGen.cases_tail hpath with rfl | ⟨_, -, -, hnew⟩
  · exact hq
  · exact hnew

/-- A walk from a type yields what it finds in the order of the paths that lead there, provided that
what was seen before is closed under parents. -/
theorem pairwise_sooner_walk {seen : List MediaType} (hc : h.Closed seen) :
    (h.walk [s] seen).Pairwise (h.Sooner s) := by
  refine List.pairwise_iff_forall_sublist.mpr fun {x y} hxy q hq => ?_
  have hy : y ∈ h.walk [s] seen := hxy.subset (by simp)
  have hnew := notMem_of_mem_walk hy
  have hs : s ∉ seen := fun hmem =>
    hnew (hc.mem_of_reaches hmem (reaches_iff_exists_follow?.mpr ⟨q, hq⟩))
  -- at the depth of the path to `y`, both have been yielded
  obtain ⟨found, last, hl⟩ := exists_layered hc hs q.length
  have hfound : y ∈ found := (hl.mem_found y).mpr ⟨hnew, q, hq, le_rfl⟩
  rw [hl.walk_eq] at hxy
  obtain ⟨front, back, heq, hfront, hback⟩ := List.sublist_append_iff.mp hxy
  have hnil : back = [] := by
    rcases List.eq_nil_or_concat' back with hnil | ⟨back', b, rfl⟩
    · exact hnil
    · have hb : y = b := by
        have hlast := congrArg List.getLast? heq
        simpa [List.getLast?_append] using hlast
      have hmem : b ∈ h.walk (last.flatMap h.parents) (found.reverse ++ seen) :=
        hback.subset (by simp)
      exact absurd (List.mem_append_left _ (List.mem_reverse.mpr (hb ▸ hfound)))
        (notMem_of_mem_walk hmem)
  rw [hnil, List.append_nil] at heq
  exact List.pairwise_iff_forall_sublist.mp hl.sorted (heq ▸ hfront) q hq

end MimeDatabase.Hierarchy
