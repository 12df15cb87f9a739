import MimeDatabase.Log.Event
import MimeDatabase.Registry

/-!
# Aliases

An alias table maps names to names. A name is resolved by following the table until a name is
reached that is no alias. A chain that runs into a cycle or is too long is malformed data, and then
the name stands for itself.
-/

namespace MimeDatabase

/-- Alternative names and the names they stand for, all in normal form and each alias once; and the
number of steps that a chain may have. -/
structure AliasTable where
  entries : List (String × String)
  maxDepth : Int
  deriving DecidableEq, Repr

namespace AliasTable

/-- The number of steps that a chain may have where nothing else is said. -/
def defaultMaxDepth : Nat := 8

/-- Adds an alias unless it is defined already. -/
def define (entries : List (String × String)) (pair : String × String) :
    List (String × String) :=
  if (entries.lookup (TypeName.normalize pair.1)).isSome then entries
  else entries ++ [(TypeName.normalize pair.1, TypeName.normalize pair.2)]

/-- The table of some pairs of an alias and a name. The first definition of an alias holds. -/
def ofPairs (pairs : List (String × String)) (maxDepth : Int) : AliasTable :=
  ⟨pairs.foldl define [], maxDepth⟩

/-- The number of aliases. -/
def size (t : AliasTable) : Nat := t.entries.length

/-- The name that an alias in normal form stands for. -/
def target? (t : AliasTable) (name : String) : Option String := t.entries.lookup name

/-- Whether a name is an alias. -/
def contains (t : AliasTable) (name : String) : Bool :=
  (t.target? (TypeName.normalize name)).isSome

/-- How following a chain of aliases ends. -/
inductive Chase where
  /-- At a name that is no alias. -/
  | ends (name : String)
  /-- At a name that was seen before. -/
  | cycles (name : String)
  /-- At an alias, when no more steps are allowed. -/
  | tooDeep
  deriving DecidableEq, Repr

/-- Follows the chain from `current` for a number of steps; `visited` are the names seen. -/
def follow (t : AliasTable) (current : String) (visited : List String) : Nat → Chase
  | 0 => if (t.target? current).isSome then .tooDeep else .ends current
  | steps + 1 =>
    match t.target? current with
    | none => .ends current
    | some next =>
      if visited.contains next then .cycles next else t.follow next (next :: visited) steps

/-- Follows the chain from a name in normal form. -/
def chase (t : AliasTable) (name : String) : Chase := t.follow name [name] t.maxDepth.toNat

/-- The name that a name stands for. -/
def resolveName (t : AliasTable) (name : String) : String :=
  match t.chase (TypeName.normalize name) with
  | .ends target => target
  | _ => TypeName.normalize name

/-- The name that an alias stands for, if it stands for another name. -/
def unalias? (t : AliasTable) (name : String) : Option String :=
  if t.contains name then
    if t.resolveName name = TypeName.normalize name then none else some (t.resolveName name)
  else none

/-- A name that is no alias stands for itself. -/
theorem resolveName_of_not_contains {t : AliasTable} {name : String}
    (h : t.contains name = false) : t.resolveName name = TypeName.normalize name := by
  have hnone : t.target? (TypeName.normalize name) = none := by
    rw [contains] at h
    exact Option.eq_none_iff_forall_ne_some.mpr fun target htarget => by simp [htarget] at h
  have hends : t.chase (TypeName.normalize name) = .ends (TypeName.normalize name) := by
    rw [chase]
    cases t.maxDepth.toNat <;> simp [follow, hnone]
  rw [resolveName, hends]

/-- Whether a name is an alias does not have to be asked: one that is none stands for itself. -/
theorem unalias?_eq (t : AliasTable) (name : String) :
    t.unalias? name =
      if t.resolveName name = TypeName.normalize name then none else some (t.resolveName name) := by
  rw [unalias?]
  cases h : t.contains name with
  | true => rfl
  | false => rw [if_pos (resolveName_of_not_contains h)]; rfl

/-- What is logged when a name is resolved. -/
def resolveEvents (t : AliasTable) (name : String) : List Log.Event :=
  match t.chase (TypeName.normalize name) with
  | .ends _ => []
  | .cycles repeated => [.aliasCycle (TypeName.normalize name) repeated]
  | .tooDeep => [.aliasTooDeep (TypeName.normalize name) t.maxDepth]

/-- Resolves a name and interns the result. -/
def resolve (t : AliasTable) (r : Registry) (name : String) : MediaType × Registry :=
  r.intern (t.resolveName name)

/-- Resolves a name and looks the result up. -/
def lookup (t : AliasTable) (r : Registry) (name : String) : MediaType :=
  r.lookup (t.resolveName name)

end AliasTable

end MimeDatabase
