import Mathlib.Data.List.Nodup
import Mathlib.Tactic.Tauto
import MimeDatabase.Config.Value

/-!
# The leaves of layered tables

A leaf of a table is a path of keys with the value at its end, which is no table itself. What one
table laid over another comes to is said leaf by leaf (`Value.isLeaf_over_iff`): a leaf of the upper
one is one of both, and one of the lower is kept unless the upper one determines its path, by an
entry at the path or by a value on the way to it that is no table. With several layers the last one
that determines a path decides (`Table.isLeaf_foldl_over_iff`).

All this takes that the upper tables have each key once, on every level. A table is a list of
fields and could hold a key twice; those that are read from files never do.
-/

namespace MimeDatabase

/-! ## Tables with each key once -/

/-- Whether a value is a table. -/
def Value.isTable : Value → Bool
  | .table _ => true
  | _ => false

mutual

/-- Whether all tables that keys lead to have each key once. -/
def Value.keysDistinct : Value → Bool
  | .table fields => decide (Table.keys fields).Nodup && Table.valuesDistinct fields
  | _ => true

/-- Whether the same holds below each field. -/
def Table.valuesDistinct : List (String × Value) → Bool
  | [] => true
  | (_, v) :: rest => v.keysDistinct && Table.valuesDistinct rest

end

/-- What is no table holds no key twice. -/
theorem Value.keysDistinct_of_not_table {v : Value} (h : v.isTable = false) :
    v.keysDistinct = true := by
  cases v with
  | table fields => cases h
  | _ => simp only [keysDistinct]

namespace Table

variable {t : Table} {key : String} {v : Value}

theorem valuesDistinct_iff : valuesDistinct t = true ↔ ∀ f ∈ t, f.2.keysDistinct = true := by
  induction t with
  | nil => exact iff_of_true rfl fun _ hf => absurd hf List.not_mem_nil
  | cons f t ih => rw [valuesDistinct, Bool.and_eq_true, ih, List.forall_mem_cons]

/-- A table that has each key once, as have all tables in it. -/
structure Proper (t : Table) : Prop where
  nodup : t.keys.Nodup
  values : ∀ f ∈ t, f.2.keysDistinct = true

/-- The check of a table is that it is proper. -/
theorem keysDistinct_iff : (Value.table t).keysDistinct = true ↔ t.Proper := by
  rw [Value.keysDistinct, Bool.and_eq_true, decide_eq_true_eq, valuesDistinct_iff]
  exact ⟨fun h => ⟨h.1, h.2⟩, fun h => ⟨h.nodup, h.values⟩⟩

/-- A table has no value for exactly the keys that it does not have. -/
theorem get?_eq_none_iff : get? t key = none ↔ key ∉ t.keys := by
  induction t with
  | nil => exact iff_of_true rfl List.not_mem_nil
  | cons f t ih =>
    rw [get?, keys, List.map_cons, List.mem_cons, not_or]
    split
    next heq => exact iff_of_false (Option.some_ne_none _) fun h => h.1 heq.symm
    next hne => exact ih.trans (and_iff_right (Ne.symm hne)).symm

/-- The value of a key stands in the table. -/
theorem mem_of_get? (h : get? t key = some v) : (key, v) ∈ t := by
  induction t with
  | nil => exact absurd h (by simp [get?])
  | cons f t ih =>
    rw [get?] at h
    split at h
    next heq =>
      rw [← heq, ← Option.some.inj h]
      exact List.mem_cons_self
    next => exact List.mem_cons_of_mem f (ih h)

/-- What is in a table after a field was put in is that field or was there before. -/
theorem mem_put {f : String × Value} (h : f ∈ put key v t) : f = (key, v) ∨ f ∈ t := by
  induction t with
  | nil => exact Or.inl (List.mem_singleton.mp h)
  | cons g t ih =>
    rw [put] at h
    split at h
    next => exact (List.mem_cons.mp h).imp_right (List.mem_cons_of_mem g)
    next =>
      rcases List.mem_cons.mp h with rfl | hrest
      · exact Or.inr List.mem_cons_self
      · exact (ih hrest).imp_right (List.mem_cons_of_mem g)

/-- A key that is put in comes last, unless it was there already. -/
theorem keys_put (t : Table) (key : String) (v : Value) :
    (put key v t).keys = if key ∈ t.keys then t.keys else t.keys ++ [key] := by
  induction t with
  | nil => rfl
  | cons f t ih =>
    have hmem : key ∈ Table.keys (f :: t) ↔ f.1 = key ∨ key ∈ Table.keys t := by
      rw [keys, List.map_cons, List.mem_cons, eq_comm]
      rfl
    rw [put]
    by_cases heq : f.1 = key
    · rw [if_pos heq, if_pos (hmem.mpr (Or.inl heq)), ← heq]
      rfl
    · rw [if_neg heq]
      have hcons : Table.keys (f :: put key v t) = f.1 :: Table.keys (put key v t) := rfl
      rw [hcons, ih]
      by_cases hkey : key ∈ Table.keys t
      · rw [if_pos hkey, if_pos (hmem.mpr (Or.inr hkey))]
        rfl
      · rw [if_neg hkey, if_neg fun h => (hmem.mp h).elim heq hkey]
        rfl

theorem proper_nil : Proper [] := ⟨List.nodup_nil, fun _ hf => absurd hf List.not_mem_nil⟩

/-- A proper table stays proper when a value without repeated keys is put in. -/
theorem Proper.put (h : t.Proper) (hv : v.keysDistinct = true) : (put key v t).Proper where
  nodup := by
    rw [keys_put]
    split
    · exact h.nodup
    · next hnew =>
      refine List.nodup_append.mpr ⟨h.nodup, List.nodup_singleton key, fun a ha b hb heq => hnew ?_⟩
      rw [← List.mem_singleton.mp hb, ← heq]
      exact ha
  values f hf := by
    rcases mem_put hf with rfl | hold
    · exact hv
    · exact h.values f hold

/-- Each value of a proper table holds no key twice. -/
theorem Proper.get? (h : t.Proper) (hkey : t.get? key = some v) : v.keysDistinct = true :=
  h.values _ (mem_of_get? hkey)

/-- The value of a key in a table that was laid over another one. -/
theorem get?_over {upper : Table} (h : upper.keys.Nodup) (below : Table) (key : String) :
    Table.get? (Table.over below upper) key =
      match upper.get? key with
      | none => below.get? key
      | some v => some (((below.get? key).map fun lower => lower.over v).getD v) := by
  induction upper generalizing below with
  | nil => rw [Table.over]; rfl
  | cons f rest ih =>
    obtain ⟨k, v⟩ := f
    obtain ⟨hnew, hrest⟩ := List.nodup_cons.mp h
    rw [Table.over, ih hrest, Table.get?]
    by_cases hk : k = key
    · subst hk
      -- The key does not occur again, so what is laid over later leaves its value alone.
      rw [if_pos rfl, get?_eq_none_iff.mpr hnew]
      dsimp only
      rw [get?_put_self]
      cases Table.get? below k with
      | none => rfl
      | some lower => rfl
    · rw [if_neg hk, get?_put_ne (Ne.symm hk)]

/-- To lay a single field over a table is to put it in, over the value that was there. -/
theorem over_single (below : Table) (key : String) (v : Value) : Table.over below [(key, v)] =
    put key (((below.get? key).map fun lower => lower.over v).getD v) below := by
  rw [Table.over, Table.over]
  cases Table.get? below key <;> rfl

/-- A table of one field has the value of that field, for its key alone. -/
theorem get?_single_eq_some_iff {k : String} {u : Value} :
    Table.get? [(k, u)] key = some v ↔ k = key ∧ u = v := by
  rw [Table.get?]
  by_cases hk : k = key
  · rw [if_pos hk, Option.some.injEq, and_iff_right hk]
  · rw [if_neg hk]
    exact iff_of_false (fun h => by cases h) fun h => hk h.1

end Table

/-! ## Leaves -/

namespace Value

/-- The value at the end of a path of keys. -/
def at? (v : Value) : List String → Option Value
  | [] => some v
  | key :: path =>
    match v with
    | .table fields => (Table.get? fields key).bind fun w => w.at? path
    | _ => none

/-- A path leads to a value that is no table. -/
def IsLeaf (v : Value) (path : List String) (w : Value) : Prop :=
  v.at? path = some w ∧ w.isTable = false

/-- A value has an entry at a path, or one on the way to it that is no table. -/
def Determines (v : Value) (path : List String) : Prop :=
  (v.at? path).isSome ∨
    ∃ front back w, path = front ++ back ∧ back ≠ [] ∧ v.IsLeaf front w

variable {u v w : Value} {key : String} {path : List String} {fields : Table}

theorem exists_table (h : v.isTable = true) : ∃ fields, v = .table fields := by
  cases v with
  | table fields => exact ⟨fields, rfl⟩
  | _ => cases h

/-- No path leads into a value that is no table. -/
theorem at?_cons_of_not_table (h : v.isTable = false) : v.at? (key :: path) = none := by
  cases v with
  | table fields => cases h
  | _ => rfl

theorem at?_table_cons :
    (Value.table fields).at? (key :: path) = (fields.get? key).bind fun w => w.at? path := rfl

/-- At the empty path a value is a leaf of itself if it is no table. -/
theorem isLeaf_nil_iff : v.IsLeaf [] w ↔ v = w ∧ w.isTable = false :=
  and_congr_left fun _ => Option.some.injEq v w ▸ Iff.rfl

theorem not_isLeaf_cons (h : v.isTable = false) : ¬ v.IsLeaf (key :: path) w := by
  rintro ⟨hfound, -⟩
  rw [at?_cons_of_not_table h] at hfound
  cases hfound

/-- A leaf of a table is a leaf of the value at the first key of its path. -/
theorem isLeaf_table_cons_iff :
    (Value.table fields).IsLeaf (key :: path) w ↔
      ∃ v, fields.get? key = some v ∧ v.IsLeaf path w := by
  rw [IsLeaf, at?_table_cons, Option.bind_eq_some_iff]
  exact ⟨fun ⟨⟨v, hv, hw⟩, hplain⟩ => ⟨v, hv, hw, hplain⟩,
    fun ⟨v, hv, hw, hplain⟩ => ⟨⟨v, hv, hw⟩, hplain⟩⟩

theorem determines_nil : v.Determines [] := Or.inl rfl

theorem determines_cons_of_not_table (h : v.isTable = false) : v.Determines (key :: path) :=
  Or.inr ⟨[], key :: path, v, rfl, List.cons_ne_nil key path, rfl, h⟩

/-- A table determines a path if the value at the first key does so for the rest. -/
theorem determines_table_cons_iff : (Value.table fields).Determines (key :: path) ↔
    ∃ v, fields.get? key = some v ∧ v.Determines path := by
  rw [Determines, at?_table_cons, Option.isSome_bind, Option.any_eq_true]
  constructor
  · rintro (⟨v, hv, hsome⟩ | ⟨front, back, w, hsplit, hback, hleaf⟩)
    · exact ⟨v, hv, Or.inl hsome⟩
    · cases front with
      | nil =>
        obtain ⟨rfl, hplain⟩ := isLeaf_nil_iff.mp hleaf
        cases hplain
      | cons k front =>
        obtain ⟨rfl, rfl⟩ := List.cons.inj hsplit
        obtain ⟨v, hv, hleaf⟩ := isLeaf_table_cons_iff.mp hleaf
        exact ⟨v, hv, Or.inr ⟨front, back, w, rfl, hback, hleaf⟩⟩
  · rintro ⟨v, hv, hsome | ⟨front, back, w, rfl, hback, hleaf⟩⟩
    · exact Or.inl ⟨v, hv, hsome⟩
    · exact Or.inr ⟨key :: front, back, w, rfl, hback, isLeaf_table_cons_iff.mpr ⟨v, hv, hleaf⟩⟩

/-- A value determines the paths of its leaves. -/
theorem IsLeaf.determines (h : v.IsLeaf path w) : v.Determines path :=
  Or.inl (Option.isSome_iff_exists.mpr ⟨w, h.1⟩)

/-- What is no table has itself as its only leaf. -/
theorem isLeaf_iff_of_not_table (h : v.isTable = false) : v.IsLeaf path w ↔ path = [] ∧ w = v := by
  cases path with
  | nil =>
    rw [isLeaf_nil_iff, and_iff_right rfl, eq_comm]
    exact and_iff_left_of_imp fun heq => heq ▸ h
  | cons key path => exact iff_of_false (not_isLeaf_cons h) fun h => List.cons_ne_nil _ _ h.1

theorem determines_of_not_table (h : v.isTable = false) (path : List String) :
    v.Determines path := by
  cases path with
  | nil => exact determines_nil
  | cons key path => exact determines_cons_of_not_table h

/-! ## One value over another -/

/-- What is no table takes the place of the value that it is laid over. -/
theorem over_of_not_table (h : v.isTable = false) (lower : Value) : lower.over v = v := by
  cases v with
  | table fields => cases h
  | _ => simp only [Value.over]

theorem over_table_of_not_table (h : u.isTable = false) :
    u.over (.table fields) = .table fields := by
  cases u with
  | table fields => cases h
  | _ => simp only [Value.over]

theorem table_over_table (below upper : Table) :
    (Value.table below).over (.table upper) = .table (Table.over below upper) := by
  simp only [Value.over]

/-- The leaves of a value that is laid over another one. The induction is on the path: it leads one
key further into both values. -/
theorem isLeaf_over_iff {lower upper : Value} (h : upper.keysDistinct = true) :
    (lower.over upper).IsLeaf path w ↔
      upper.IsLeaf path w ∨ (lower.IsLeaf path w ∧ ¬ upper.Determines path) := by
  induction path generalizing lower upper with
  | nil =>
    have hnever : ¬ (lower.IsLeaf [] w ∧ ¬ upper.Determines []) := fun h => h.2 determines_nil
    rw [or_iff_left hnever]
    cases hupper : upper.isTable with
    | false => rw [over_of_not_table hupper]
    | true =>
      -- The whole is a table then, and the empty path leads to no leaf in either.
      obtain ⟨fields, rfl⟩ := exists_table hupper
      have hover : (lower.over (.table fields)).isTable = true := by
        cases lower <;> simp only [Value.over, isTable]
      rw [isLeaf_nil_iff, isLeaf_nil_iff]
      refine iff_of_false ?_ ?_
      · rintro ⟨rfl, hplain⟩
        rw [hover] at hplain
        cases hplain
      · rintro ⟨rfl, hplain⟩
        cases hplain
  | cons key path ih =>
    cases hupper : upper.isTable with
    | false =>
      -- A value that is no table determines all paths and replaces what is below it.
      rw [over_of_not_table hupper]
      exact (or_iff_left fun h => h.2 (determines_cons_of_not_table hupper)).symm
    | true =>
      obtain ⟨fields, rfl⟩ := exists_table hupper
      cases hlower : lower.isTable with
      | false =>
        -- Below is no table, so it has no leaf at a path with a key.
        rw [over_table_of_not_table hlower]
        exact (or_iff_left fun h => not_isLeaf_cons hlower h.1).symm
      | true =>
        obtain ⟨below, rfl⟩ := exists_table hlower
        have hproper := Table.keysDistinct_iff.mp h
        rw [table_over_table, isLeaf_table_cons_iff, isLeaf_table_cons_iff, isLeaf_table_cons_iff,
          determines_table_cons_iff, Table.get?_over hproper.nodup]
        cases hkey : Table.get? fields key with
        | none => simp
        | some v =>
          have ih' := fun lower => @ih lower v (hproper.get? hkey)
          cases hbelow : Table.get? below key with
          | none => simp
          | some u => simpa using ih' u

end Value

/-! ## Layers of tables -/

namespace Table

/-- A path leads to a value of a table that is no table. -/
def IsLeaf (t : Table) (path : List String) (w : Value) : Prop := (Value.table t).IsLeaf path w

/-- A table has an entry at a path, or one on the way to it that is no table. -/
def Determines (t : Table) (path : List String) : Prop := (Value.table t).Determines path

/-- A path leads to a leaf of the last of some layers that determines it. -/
def LastLeaf (layers : List Table) (path : List String) (w : Value) : Prop :=
  ∃ lower u upper, layers = lower ++ u :: upper ∧ u.IsLeaf path w ∧
    ∀ v ∈ upper, ¬ Determines v path

variable {below upper u : Table} {layers : List Table} {path : List String} {w : Value}

theorem over_single_of_not_table {key : String} {v : Value} (h : v.isTable = false)
    (below : Table) : Table.over below [(key, v)] = put key v below := by
  rw [over_single]
  cases Table.get? below key with
  | none => rfl
  | some lower => rw [Option.map_some, Value.over_of_not_table h, Option.getD_some]

theorem not_isLeaf_nil : ¬ IsLeaf [] path w := by
  intro h
  cases path with
  | nil =>
    obtain ⟨rfl, hplain⟩ := Value.isLeaf_nil_iff.mp h
    cases hplain
  | cons key path =>
    obtain ⟨v, hv, -⟩ := Value.isLeaf_table_cons_iff.mp h
    cases hv

/-- A table determines the paths of its leaves. -/
theorem IsLeaf.determines (h : u.IsLeaf path w) : u.Determines path := Value.IsLeaf.determines h

/-- The leaves of a table of one field are those of its value, under its key. -/
theorem isLeaf_single_iff {key : String} {v : Value} :
    IsLeaf [(key, v)] path w ↔ ∃ rest, path = key :: rest ∧ v.IsLeaf rest w := by
  cases path with
  | nil =>
    refine iff_of_false ?_ fun ⟨rest, h, _⟩ => by cases h
    rintro ⟨⟨⟩, ⟨⟩⟩
  | cons k path =>
    rw [IsLeaf, Value.isLeaf_table_cons_iff]
    constructor
    · rintro ⟨v', hv', hleaf⟩
      obtain ⟨rfl, rfl⟩ := get?_single_eq_some_iff.mp hv'
      exact ⟨path, rfl, hleaf⟩
    · rintro ⟨rest, hsplit, hleaf⟩
      obtain ⟨rfl, rfl⟩ := List.cons.inj hsplit
      exact ⟨v, get?_single_eq_some_iff.mpr ⟨rfl, rfl⟩, hleaf⟩

theorem determines_single_cons_iff {k key : String} {v : Value} :
    Determines [(k, v)] (key :: path) ↔ k = key ∧ v.Determines path := by
  rw [Determines, Value.determines_table_cons_iff]
  constructor
  · rintro ⟨v', hv', h⟩
    obtain ⟨rfl, rfl⟩ := get?_single_eq_some_iff.mp hv'
    exact ⟨rfl, h⟩
  · rintro ⟨rfl, h⟩
    exact ⟨v, get?_single_eq_some_iff.mpr ⟨rfl, rfl⟩, h⟩

/-- A leaf of one table over another is one of the upper, or one of the lower whose path the upper
does not determine. -/
theorem isLeaf_over_iff (h : upper.Proper) : IsLeaf (Table.over below upper) path w ↔
    upper.IsLeaf path w ∨ (below.IsLeaf path w ∧ ¬ upper.Determines path) := by
  rw [IsLeaf, ← Value.table_over_table]
  exact Value.isLeaf_over_iff (keysDistinct_iff.mpr h)

theorem not_determines_nil {key : String} : ¬ Determines [] (key :: path) := by
  intro h
  obtain ⟨v, hv, -⟩ := Value.determines_table_cons_iff.mp h
  cases hv

/-- A leaf of the first layer counts if no later layer determines its path. -/
theorem lastLeaf_cons_iff : LastLeaf (u :: layers) path w ↔
    LastLeaf layers path w ∨ (u.IsLeaf path w ∧ ∀ v ∈ layers, ¬ Determines v path) := by
  constructor
  · rintro ⟨lower, t, upper, hsplit, hleaf, hupper⟩
    cases lower with
    | nil =>
      obtain ⟨rfl, rfl⟩ := List.cons.inj hsplit
      exact Or.inr ⟨hleaf, hupper⟩
    | cons _ lower =>
      obtain ⟨rfl, rfl⟩ := List.cons.inj hsplit
      exact Or.inl ⟨lower, t, upper, rfl, hleaf, hupper⟩
  · rintro (⟨lower, t, upper, rfl, hleaf, hupper⟩ | ⟨hleaf, hupper⟩)
    · exact ⟨u :: lower, t, upper, rfl, hleaf, hupper⟩
    · exact ⟨[], u, layers, rfl, hleaf, hupper⟩

/-- Which layer a leaf is taken from, where the layers are made from other things. -/
theorem lastLeaf_map_iff {α : Type} {f : α → Table} {l : List α} :
    LastLeaf (l.map f) path w ↔ ∃ before a after, l = before ++ a :: after ∧
      (f a).IsLeaf path w ∧ ∀ b ∈ after, ¬ (f b).Determines path := by
  constructor
  · rintro ⟨lower, u, upper, hsplit, hleaf, hupper⟩
    obtain ⟨before, rest, rfl, rfl, hrest⟩ := List.map_eq_append_iff.mp hsplit
    obtain ⟨a, after, rfl, rfl, rfl⟩ := List.map_eq_cons_iff.mp hrest
    exact ⟨before, a, after, rfl, hleaf, fun b hb => hupper _ (List.mem_map_of_mem hb)⟩
  · rintro ⟨before, a, after, rfl, hleaf, hafter⟩
    exact ⟨before.map f, f a, after.map f, List.map_append, hleaf, List.forall_mem_map.mpr hafter⟩

/-- The leaves of layers that are laid over a table one after the other: those of the last layer
that determines their path, and those of the table whose path no layer determines. -/
theorem isLeaf_foldl_over_iff (h : ∀ u ∈ layers, Proper u) (below : Table) :
    IsLeaf (layers.foldl Table.over below) path w ↔
      LastLeaf layers path w ∨ (below.IsLeaf path w ∧ ∀ u ∈ layers, ¬ Determines u path) := by
  induction layers generalizing below with
  | nil =>
    have hnone : ¬ LastLeaf [] path w := by
      rintro ⟨lower, u, upper, hsplit, -⟩
      exact List.append_ne_nil_of_right_ne_nil lower (List.cons_ne_nil u upper) hsplit.symm
    simp [hnone]
  | cons u layers ih =>
    rw [List.forall_mem_cons] at h
    rw [List.foldl_cons, ih h.2, isLeaf_over_iff h.1, lastLeaf_cons_iff, List.forall_mem_cons]
    tauto

end Table
end MimeDatabase
