/-!
# Grades

Glob weights and magic priorities are grades from 0 to 100. A number outside that range counts as
the nearer end of it.
-/

namespace MimeDatabase

/-- The greatest grade. -/
def maxGrade : Nat := 100

/-- The weight of a glob that states none. -/
def defaultWeight : Nat := 50

/-- The grade nearest to a number. -/
def clampGrade (n : Int) : Nat := (min n maxGrade).toNat

theorem clampGrade_le (n : Int) : clampGrade n ≤ maxGrade := by
  simp only [clampGrade, maxGrade]
  omega

/-- A number that is a grade already is kept. -/
theorem clampGrade_natCast {n : Nat} (h : n ≤ maxGrade) : clampGrade n = n := by
  simp only [clampGrade, maxGrade] at *
  omega

end MimeDatabase
