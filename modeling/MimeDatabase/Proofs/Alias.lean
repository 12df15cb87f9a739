import MimeDatabase.Alias
import MimeDatabase.Proofs.TypeName

/-!
# Names that stand for names

A chain of aliases starts with a name and goes on with what a table has for it, and so on, until it
leaves the table at a name that is no alias. `resolveName_ofPairs` says what a name stands for:
where its chain leaves the table if it does so within the number of steps that are allowed, and else
for itself.

The table is followed with a list of the names seen, so that a cycle is noticed early. That never
changes the result: a chain that comes back to a name goes on forever (`Leaves.chain_ne_start`), so
it does not leave the table within any number of steps, and a chain that does leave it never meets a
name that was seen (`follow_of_leaves`).

Resolving a name twice is resolving it once (`resolveName_resolveName`), in any table whose names
are in normal form. A chain that leaves the table does so at a name that stands for itself. A chain
that does not, because it runs into a cycle or is too long, leaves the name that was asked for, and
resolving that name again walks the same chain.
-/

namespace MimeDatabase.AliasTable

/-! ## Chains -/

section Chain

variable {table : String → Option String} {name target : String} {m n : Nat}

/-- The name that a chain has reached after a number of steps, if it goes on that long. -/
def chain (table : String → Option String) (name : String) : Nat → Option String
  | 0 => some name
  | m + 1 => (chain table name m).bind table

/-- A chain leaves the table after a number of steps at a name that is no alias. -/
def Leaves (table : String → Option String) (name : String) (m : Nat) (target : String) : Prop :=
  chain table name m = some target ∧ table target = none

/-- A chain may be followed in two parts. -/
theorem chain_add (table : String → Option String) (name : String) (m n : Nat) :
    chain table name (m + n) = (chain table name m).bind fun next => chain table next n := by
  induction n with
  | zero =>
    show chain table name m = _
    cases chain table name m with
    | none => rfl
    | some next => rfl
  | succ n ih =>
    show (chain table name (m + n)).bind table = _
    rw [ih, Option.bind_assoc]
    rfl

/-- A chain may be walked from its second name on. -/
theorem chain_succ (table : String → Option String) (name : String) (m : Nat) :
    chain table name (m + 1) = (table name).bind fun next => chain table next m := by
  rw [Nat.add_comm, chain_add]
  rfl

theorem leaves_zero (h : table name = none) : Leaves table name 0 name := ⟨rfl, h⟩

/-- An alias leads where its target leads. -/
theorem leaves_succ_iff {next : String} (h : table name = some next) :
    Leaves table name (m + 1) target ↔ Leaves table next m target := by
  unfold Leaves
  rw [chain_succ, h, Option.bind_some]

/-- Nothing follows where a chain has left the table. -/
theorem Leaves.chain_eq_none (h : Leaves table name m target) (hn : m < n) :
    chain table name n = none := by
  obtain ⟨k, rfl⟩ := Nat.exists_eq_add_of_lt hn
  rw [Nat.add_assoc, chain_add, h.1, Option.bind_some, chain_succ, h.2, Option.bind_none]

/-- A chain that leaves the table does not come back to where it started: it would have left the
table one round earlier. -/
theorem Leaves.chain_ne_start (h : Leaves table name m target) (hpos : 0 < n) :
    chain table name n ≠ some name := by
  intro hback
  by_cases hle : n ≤ m
  · have hround : chain table name m = chain table name (m - n) := by
      have := chain_add table name n (m - n)
      rw [hback, Option.bind_some] at this
      rwa [Nat.add_sub_cancel' hle] at this
    have hearlier : Leaves table name (m - n) target := ⟨hround.symm.trans h.1, h.2⟩
    have hnone := hearlier.chain_eq_none (n := m) (by omega)
    rw [h.1] at hnone
    cases hnone
  · rw [h.chain_eq_none (by omega)] at hback
    cases hback

end Chain

/-! ## What a table holds -/

/-- What the first pair of an alias gives as its target, in normal form. -/
def firstTarget? (pairs : List (String × String)) (key : String) : Option String :=
  (pairs.find? fun p => TypeName.normalize p.1 = key).map fun p => TypeName.normalize p.2

theorem firstTarget?_cons (p : String × String) (pairs : List (String × String)) (key : String) :
    firstTarget? (p :: pairs) key = (firstTarget? [p] key).or (firstTarget? pairs key) := by
  unfold firstTarget?
  rw [← Option.map_or, ← List.find?_append, List.singleton_append]

/-- All names of a table are in normal form. -/
def Normal (t : AliasTable) : Prop :=
  ∀ e ∈ t.entries, TypeName.normalize e.1 = e.1 ∧ TypeName.normalize e.2 = e.2

/-- The entries of a table are those before and the pairs, normalized. -/
theorem mem_foldl_define {pairs entries : List (String × String)} {e : String × String}
    (h : e ∈ pairs.foldl define entries) :
    e ∈ entries ∨ ∃ p ∈ pairs, e = (TypeName.normalize p.1, TypeName.normalize p.2) := by
  induction pairs generalizing entries with
  | nil => exact Or.inl h
  | cons p pairs ih =>
    rcases ih h with hdefined | ⟨q, hq, he⟩
    · unfold define at hdefined
      split at hdefined
      · exact Or.inl hdefined
      · rcases List.mem_append.mp hdefined with hold | hnew
        · exact Or.inl hold
        · exact Or.inr ⟨p, List.mem_cons_self, List.mem_singleton.mp hnew⟩
    · exact Or.inr ⟨q, List.mem_cons_of_mem p hq, he⟩

/-- All names in a table of pairs are normalized. -/
theorem normal_ofPairs (pairs : List (String × String)) (maxDepth : Int) :
    (ofPairs pairs maxDepth).Normal := by
  intro e he
  rcases mem_foldl_define he with hnil | ⟨p, -, rfl⟩
  · exact absurd hnil List.not_mem_nil
  · exact ⟨TypeName.normalize_normalize p.1, TypeName.normalize_normalize p.2⟩

/-- A pair defines its alias, unless that is defined already. -/
theorem lookup_define (entries : List (String × String)) (p : String × String) (key : String) :
    (define entries p).lookup key = (entries.lookup key).or (firstTarget? [p] key) := by
  unfold define firstTarget?
  rw [List.find?_singleton]
  by_cases hkey : TypeName.normalize p.1 = key
  · rw [hkey]
    cases hold : entries.lookup key with
    | some old => simp [hold]
    | none => simp [hold, List.lookup_append]
  · have hne : (key == TypeName.normalize p.1) = false := beq_eq_false_iff_ne.mpr (Ne.symm hkey)
    split
    · simp [hkey]
    · simp [hkey, List.lookup_append, List.lookup, hne]

/-- A table holds for each alias what its first pair gives. -/
theorem target?_ofPairs (pairs : List (String × String)) (maxDepth : Int) :
    (ofPairs pairs maxDepth).target? = firstTarget? pairs := by
  funext key
  have hfold : ∀ (rest entries : List (String × String)),
      (rest.foldl define entries).lookup key = (entries.lookup key).or (firstTarget? rest key) := by
    intro rest
    induction rest with
    | nil => intro entries; exact (Option.or_none).symm
    | cons p rest ih =>
      intro entries
      rw [List.foldl_cons, ih, lookup_define, Option.or_assoc, ← firstTarget?_cons]
  show (pairs.foldl define []).lookup key = firstTarget? pairs key
  rw [hfold, List.lookup_nil, Option.none_or]

variable {t : AliasTable}

theorem mem_entries_of_target? {name next : String} (h : t.target? name = some next) :
    (name, next) ∈ t.entries := by
  obtain ⟨front, back, hentries, -⟩ := List.lookup_eq_some_iff.mp h
  rw [hentries]
  exact List.mem_append_right front List.mem_cons_self

/-! ## Following a chain -/

/-- If following a chain ends, then the chain leaves the table there. -/
theorem leaves_of_follow {current target : String} {visited : List String} {steps : Nat}
    (h : t.follow current visited steps = .ends target) :
    ∃ m ≤ steps, Leaves t.target? current m target := by
  induction steps generalizing current visited with
  | zero =>
    rw [follow] at h
    split at h
    · cases h
    · next hnone =>
      cases h
      exact ⟨0, Nat.le_refl 0, leaves_zero (Option.not_isSome_iff_eq_none.mp hnone)⟩
  | succ steps ih =>
    rw [follow] at h
    split at h
    · next hnone =>
      cases h
      exact ⟨0, Nat.zero_le _, leaves_zero hnone⟩
    · next next hnext =>
      split at h
      · cases h
      · obtain ⟨m, hm, hleaves⟩ := ih h
        exact ⟨m + 1, Nat.succ_le_succ hm, (leaves_succ_iff hnext).mpr hleaves⟩

/-- A chain that leaves the table is followed to where it does, if the steps are enough and it never
meets a name that was seen. -/
theorem follow_of_leaves {current target : String} {visited : List String} {m steps : Nat}
    (h : Leaves t.target? current m target) (hm : m ≤ steps)
    (hnew : ∀ n, 0 < n → ∀ c ∈ visited, chain t.target? current n ≠ some c) :
    t.follow current visited steps = .ends target := by
  induction m generalizing current visited steps with
  | zero =>
    obtain ⟨hstart, hnone⟩ := h
    obtain rfl : current = target := Option.some.inj hstart
    cases steps with
    | zero => rw [follow, if_neg (by rw [hnone]; exact Bool.false_ne_true)]
    | succ steps => rw [follow, hnone]
  | succ m ih =>
    cases hnext : t.target? current with
    | none =>
      have hend := (leaves_zero hnext).chain_eq_none (Nat.succ_pos m)
      rw [h.1] at hend
      cases hend
    | some next =>
      obtain ⟨steps, rfl⟩ : ∃ k, steps = k + 1 := ⟨steps - 1, by omega⟩
      have hrest : Leaves t.target? next m target := (leaves_succ_iff hnext).mp h
      have hlater : ∀ n, chain t.target? current (n + 1) = chain t.target? next n := by
        intro n
        rw [chain_succ, hnext, Option.bind_some]
      have hunseen : ¬ visited.contains next = true := fun hmem =>
        hnew 1 Nat.one_pos next (List.contains_iff_mem.mp hmem) (hlater 0)
      rw [follow, hnext]
      dsimp only
      rw [if_neg hunseen]
      refine ih hrest (by omega) fun n hn c hc => ?_
      rcases List.mem_cons.mp hc with rfl | hold
      · exact hrest.chain_ne_start hn
      · rw [← hlater n]
        exact hnew (n + 1) (Nat.succ_pos n) c hold

/-- Following a chain from its first name ends where the chain leaves the table, if it does so
within the number of steps that are allowed. -/
theorem chase_eq_ends_iff {name target : String} :
    t.chase name = .ends target ↔ ∃ m ≤ t.maxDepth.toNat, Leaves t.target? name m target := by
  constructor
  · exact leaves_of_follow
  · rintro ⟨m, hm, h⟩
    refine follow_of_leaves h hm fun n hn c hc => ?_
    rw [List.mem_singleton.mp hc]
    exact h.chain_ne_start hn

/-- A name that is no alias ends its chain. -/
theorem chase_eq_ends {name : String} (h : t.target? name = none) : t.chase name = .ends name :=
  chase_eq_ends_iff.mpr ⟨0, Nat.zero_le _, leaves_zero h⟩

/-! ## What a name stands for -/

/-- A chain that ends is resolved to its end. -/
theorem resolveName_of_ends {name target : String}
    (h : t.chase (TypeName.normalize name) = .ends target) : t.resolveName name = target := by
  rw [resolveName, h]

/-- A name whose chain does not end stands for itself. -/
theorem resolveName_of_forall_ne {name : String}
    (h : ∀ target, t.chase (TypeName.normalize name) ≠ .ends target) :
    t.resolveName name = TypeName.normalize name := by
  unfold resolveName
  split
  · next target hends => exact absurd hends (h target)
  · rfl

/-- What a name stands for is in normal form. -/
theorem normalize_resolveName (ht : t.Normal) (name : String) :
    TypeName.normalize (t.resolveName name) = t.resolveName name := by
  cases hchase : t.chase (TypeName.normalize name) with
  | ends target =>
    rw [resolveName_of_ends hchase]
    obtain ⟨m, -, hchain, -⟩ := chase_eq_ends_iff.mp hchase
    cases m with
    | zero =>
      rw [← Option.some.inj hchain]
      exact TypeName.normalize_normalize name
    | succ m =>
      obtain ⟨last, -, htarget⟩ := Option.bind_eq_some_iff.mp hchain
      exact (ht _ (mem_entries_of_target? htarget)).2
  | cycles | tooDeep =>
    rw [resolveName, hchase]
    exact TypeName.normalize_normalize name

/-- How a name is spelled does not matter. -/
theorem resolveName_normalize (name : String) :
    t.resolveName (TypeName.normalize name) = t.resolveName name := by
  rw [resolveName, resolveName, TypeName.normalize_normalize]

/-- **What a name stands for stands for itself**, in cyclic and over-long chains, too. -/
theorem resolveName_resolveName (ht : t.Normal) (name : String) :
    t.resolveName (t.resolveName name) = t.resolveName name := by
  cases hchase : t.chase (TypeName.normalize name) with
  | ends target =>
    have hnormal := normalize_resolveName ht name
    rw [resolveName_of_ends hchase] at hnormal ⊢
    obtain ⟨m, -, -, hnone⟩ := chase_eq_ends_iff.mp hchase
    apply resolveName_of_ends
    rw [hnormal]
    exact chase_eq_ends hnone
  | cycles | tooDeep =>
    have hself : t.resolveName name = TypeName.normalize name := by rw [resolveName, hchase]
    rw [hself, resolveName_normalize, hself]

/-- An alias stands for another name if and only if its chain leaves the table after at least one
step and at most as many as are allowed. -/
theorem unalias?_eq_some_iff {name target : String} :
    t.unalias? name = some target ↔
      ∃ m, 0 < m ∧ m ≤ t.maxDepth.toNat ∧
        Leaves t.target? (TypeName.normalize name) m target := by
  rw [unalias?_eq]
  constructor
  · intro h
    split at h
    · cases h
    · next hne =>
      cases h
      by_cases hends : ∃ target, t.chase (TypeName.normalize name) = .ends target
      · obtain ⟨target, hends⟩ := hends
        rw [resolveName_of_ends hends] at hne ⊢
        obtain ⟨m, hm, hleaves⟩ := chase_eq_ends_iff.mp hends
        refine ⟨m, Nat.pos_of_ne_zero fun hzero => hne ?_, hm, hleaves⟩
        rw [hzero] at hleaves
        exact (Option.some.inj hleaves.1).symm
      · exact absurd (resolveName_of_forall_ne fun target h => hends ⟨target, h⟩) hne
  · rintro ⟨m, hpos, hm, hleaves⟩
    rw [resolveName_of_ends (chase_eq_ends_iff.mpr ⟨m, hm, hleaves⟩), if_neg]
    intro hself
    rw [hself] at hleaves
    exact hleaves.chain_ne_start hpos hleaves.1

/-- **What a name stands for.** In the table of some pairs, a name stands for the first name of its
chain that is outside of the table, if the chain gets there within the number of steps that are
allowed, and else for itself; so resolving it once more changes nothing. It is an alias of what it
stands for if that is another name, and that is so if and only if the chain leaves the table after
at least one step. -/
theorem resolveName_ofPairs (pairs : List (String × String)) (maxDepth : Int) (name : String) :
    let t := ofPairs pairs maxDepth
    let start := TypeName.normalize name
    (∀ target, (∃ m ≤ maxDepth.toNat, Leaves (firstTarget? pairs) start m target) →
        t.resolveName name = target) ∧
      ((¬ ∃ m ≤ maxDepth.toNat, ∃ target, Leaves (firstTarget? pairs) start m target) →
        t.resolveName name = start) ∧
      t.resolveName (t.resolveName name) = t.resolveName name ∧
      (t.unalias? name = if t.resolveName name = start then none else some (t.resolveName name)) ∧
      ∀ target, t.unalias? name = some target ↔
        ∃ m, 0 < m ∧ m ≤ maxDepth.toNat ∧ Leaves (firstTarget? pairs) start m target := by
  intro t start
  have htable : t.target? = firstTarget? pairs := target?_ofPairs pairs maxDepth
  rw [← htable]
  refine ⟨fun target h => resolveName_of_ends (chase_eq_ends_iff.mpr h), fun hnone => ?_,
    resolveName_resolveName (normal_ofPairs pairs maxDepth) name, t.unalias?_eq name,
    fun target => unalias?_eq_some_iff⟩
  refine resolveName_of_forall_ne fun target hends => hnone ?_
  obtain ⟨m, hm, hleaves⟩ := chase_eq_ends_iff.mp hends
  exact ⟨m, hm, target, hleaves⟩

/-- A chain of two steps is followed if two are allowed, and a chain into a cycle never is. -/
example :
    let pairs := [("a/x", "a/y"), ("A/Y", "a/z"), ("a/z", "a/z"), ("a/y", "a/w")]
    (ofPairs pairs 8).resolveName "a/x" = "a/x" ∧
      (ofPairs (pairs.take 2) 2).resolveName " a/X" = "a/z" ∧
      (ofPairs (pairs.take 2) 1).resolveName " a/X" = "a/x" := by
  decide +kernel

end MimeDatabase.AliasTable
