import MimeDatabase.Proofs.Magic.Fields

/-!
# Forests and their lists of depths

A forest of entries is written as its signatures in preorder, each with its depth. Nothing is lost:
`ofPreorder_forestPreorder` gives the forest back. The depths of such a list never grow by more than
one from a line to the next (`stepwise_forestPreorder`), which is what keeps every line from being
skipped when the list is judged line by line.
-/

namespace MimeDatabase.Magic

namespace Entry

mutual

/-- No line of a tree has a smaller depth than its root. -/
theorem le_depth_of_mem_preorder {depth : Nat} :
    ∀ (e : Entry) {line : Nat × Signature}, line ∈ e.preorder depth → depth ≤ line.1
  | node s cs, line, h => by
    rw [preorder] at h
    rcases List.mem_cons.mp h with rfl | hc
    · exact Nat.le_refl depth
    · exact Nat.le_of_succ_le (le_depth_of_mem_forestPreorder cs hc)

theorem le_depth_of_mem_forestPreorder {depth : Nat} :
    ∀ (es : List Entry) {line : Nat × Signature}, line ∈ forestPreorder depth es → depth ≤ line.1
  | [], line, h => by
    rw [forestPreorder] at h
    exact absurd h List.not_mem_nil
  | e :: es, line, h => by
    rw [forestPreorder] at h
    rcases List.mem_append.mp h with he | hes
    · exact le_depth_of_mem_preorder e he
    · exact le_depth_of_mem_forestPreorder es hes

end

/-- The first line of a forest stands at the depth of its roots. -/
theorem head?_forestPreorder {depth : Nat} {es : List Entry} {line : Nat × Signature}
    (h : line ∈ (forestPreorder depth es).head?) : line.1 = depth := by
  cases es with
  | nil =>
    rw [forestPreorder] at h
    exact absurd h (by simp)
  | cons e es =>
    obtain ⟨s, cs⟩ := e
    rw [forestPreorder, preorder] at h
    simp only [List.cons_append, List.head?_cons, Option.mem_some_iff] at h
    rw [← h]

mutual

/-- A tree is read off the front of a list that goes on at no greater depth than its root. -/
theorem ofPreorder_preorder_append (depth : Nat) :
    ∀ (e : Entry) (rest : List (Nat × Signature)), (∀ line ∈ rest.head?, line.1 ≤ depth) →
      ofPreorder (e.preorder depth ++ rest) = e :: ofPreorder rest
  | node s cs, rest, h => by
    -- the children are deeper than the root and `rest` is not, so they end where it begins
    obtain ⟨htake, hdrop⟩ := span_append (fun line : Nat × Signature => decide (depth < line.1))
      (forestPreorder (depth + 1) cs) rest
      (fun line hline => decide_eq_true (le_depth_of_mem_forestPreorder cs hline))
      (fun line hline => decide_eq_false (Nat.not_lt.mpr (h line hline)))
    have hcs := ofPreorder_forestPreorder_append (depth + 1) cs []
      (fun _ hline => absurd hline (by simp))
    rw [List.append_nil, ofPreorder, List.append_nil] at hcs
    rw [preorder, List.cons_append, ofPreorder, htake, hdrop, hcs]

/-- A forest is read back from its lines, up to the first line that is not below its trees. -/
theorem ofPreorder_forestPreorder_append (depth : Nat) :
    ∀ (es : List Entry) (rest : List (Nat × Signature)), (∀ line ∈ rest.head?, line.1 ≤ depth) →
      ofPreorder (forestPreorder depth es ++ rest) = es ++ ofPreorder rest
  | [], rest, _ => by rw [forestPreorder, List.nil_append, List.nil_append]
  | e :: es, rest, h => by
    -- what follows the first tree is the next root or, after the last one, `rest`
    have hhead : ∀ line ∈ (forestPreorder depth es ++ rest).head?, line.1 ≤ depth := by
      intro line hline
      cases hf : forestPreorder depth es with
      | nil =>
        rw [hf, List.nil_append] at hline
        exact h line hline
      | cons first more =>
        rw [hf, List.cons_append, List.head?_cons] at hline
        have hfirst : line ∈ (forestPreorder depth es).head? := by
          rw [hf, List.head?_cons]
          exact hline
        exact Nat.le_of_eq (head?_forestPreorder hfirst)
    rw [forestPreorder, List.append_assoc, ofPreorder_preorder_append depth e _ hhead,
      ofPreorder_forestPreorder_append depth es rest h, List.cons_append]

end

/-- A forest is read back from its signatures in preorder and their depths. -/
theorem ofPreorder_forestPreorder (depth : Nat) (es : List Entry) :
    ofPreorder (forestPreorder depth es) = es := by
  have h := ofPreorder_forestPreorder_append depth es []
    (fun _ hline => absurd hline (by simp))
  rw [List.append_nil, ofPreorder, List.append_nil] at h
  exact h

/-! ## Depths grow by one at most -/

/-- No line is deeper than `depth`, and none more than one deeper than the line before it. -/
def Stepwise : Nat → List (Nat × Signature) → Prop
  | _, [] => True
  | depth, line :: lines => line.1 ≤ depth ∧ Stepwise (line.1 + 1) lines

mutual

/-- The lines of a tree go down one step at a time. -/
theorem stepwise_preorder_append {depth : Nat} :
    ∀ (e : Entry) {bound : Nat} (rest : List (Nat × Signature)), depth ≤ bound →
      (∀ b, depth ≤ b → Stepwise b rest) → Stepwise bound (e.preorder depth ++ rest)
  | node s cs, bound, rest, hb, hrest => by
    rw [preorder, List.cons_append]
    refine ⟨hb, stepwise_forestPreorder_append cs rest (Nat.le_refl _) fun b hle => ?_⟩
    exact hrest b (Nat.le_of_succ_le hle)

theorem stepwise_forestPreorder_append {depth : Nat} :
    ∀ (es : List Entry) {bound : Nat} (rest : List (Nat × Signature)), depth ≤ bound →
      (∀ b, depth ≤ b → Stepwise b rest) → Stepwise bound (forestPreorder depth es ++ rest)
  | [], bound, rest, hb, hrest => by
    rw [forestPreorder, List.nil_append]
    exact hrest bound hb
  | e :: es, bound, rest, hb, hrest => by
    rw [forestPreorder, List.append_assoc]
    exact stepwise_preorder_append e _ hb fun b hle =>
      stepwise_forestPreorder_append es rest hle hrest

end

theorem stepwise_forestPreorder (depth : Nat) (es : List Entry) :
    Stepwise depth (forestPreorder depth es) := by
  have h := stepwise_forestPreorder_append es [] (Nat.le_refl depth) fun _ _ => trivial
  rwa [List.append_nil] at h

end Entry

end MimeDatabase.Magic
