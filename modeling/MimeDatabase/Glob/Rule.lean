import MimeDatabase.Glob.Class
import MimeDatabase.Grade
import MimeDatabase.Registry

/-!
# Glob rules

A glob rule gives a pattern to a type. Rules that match the same name are put into an order by
kind of pattern, weight, length, case sensitivity and registration; without the last, this is the
rank of a rule, and rules of one rank are tied.
-/

namespace MimeDatabase.Glob

/-- A pattern and the type that it stands for. -/
structure Rule where
  pattern : String
  type : MediaType
  weight : Nat
  caseSensitive : Bool
  order : Int
  deriving DecidableEq, Repr

/-- A rule whose weight is any number; it is brought into the range of weights. -/
def Rule.make (pattern : String) (type : MediaType) (weight : Int) (caseSensitive : Bool)
    (order : Int) : Rule :=
  ⟨pattern, type, clampGrade weight, caseSensitive, order⟩

namespace Rule

/-- The kind of the pattern. -/
def kind (r : Rule) : Kind := Kind.of r.pattern.toList

/-- The literal part of a suffix pattern. -/
def suffix (r : Rule) : List Char := r.pattern.toList.drop 1

/-- What tied rules have in common; the lesser the better. -/
def rank (r : Rule) : List Int :=
  [r.kind.index, -(r.weight : Int), -(r.pattern.toList.length : Int),
    if r.caseSensitive then 0 else 1]

/-- The rank followed by the order of registration. -/
def sortKey (r : Rule) : List Int := r.rank ++ [r.order]

end Rule

/-- The lexicographic order. -/
def keyLe : List Int → List Int → Bool
  | [], _ => true
  | _ :: _, [] => false
  | a :: as, b :: bs => a < b || (a == b && keyLe as bs)

theorem keyLe_total (as bs : List Int) : keyLe as bs || keyLe bs as := by
  induction as generalizing bs with
  | nil => rfl
  | cons a as ih =>
    cases bs with
    | nil => rfl
    | cons b bs =>
      have := ih bs
      simp only [keyLe, Bool.or_eq_true, Bool.and_eq_true, decide_eq_true_eq, beq_iff_eq] at *
      rcases Int.lt_trichotomy a b with h | h | h
      · exact Or.inl (Or.inl h)
      · exact this.elim (fun t => Or.inl (Or.inr ⟨h, t⟩)) (fun t => Or.inr (Or.inr ⟨h.symm, t⟩))
      · exact Or.inr (Or.inl h)

theorem keyLe_trans (as bs cs : List Int) (h₁ : keyLe as bs) (h₂ : keyLe bs cs) :
    keyLe as cs := by
  induction as generalizing bs cs with
  | nil => rfl
  | cons a as ih =>
    cases bs with
    | nil => exact absurd h₁ (by simp [keyLe])
    | cons b bs =>
      cases cs with
      | nil => exact absurd h₂ (by simp [keyLe])
      | cons c cs =>
        simp only [keyLe, Bool.or_eq_true, Bool.and_eq_true, decide_eq_true_eq, beq_iff_eq] at *
        rcases h₁ with h₁ | ⟨rfl, h₁⟩ <;> rcases h₂ with h₂ | ⟨rfl, h₂⟩
        · exact Or.inl (by omega)
        · exact Or.inl h₁
        · exact Or.inl h₂
        · exact Or.inr ⟨rfl, ih bs cs h₁ h₂⟩

/-- Whether a rule comes no later than another one. -/
def Rule.le (a b : Rule) : Bool := keyLe a.sortKey b.sortKey

end MimeDatabase.Glob
