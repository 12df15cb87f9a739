import MimeDatabase.Log.Event
import MimeDatabase.Registry

/-!
# The subclass hierarchy

Explicit edges lead from a type to its parents. Two kinds of edges hold without being recorded:
every text type is a subclass of `text/plain`, and every type is one of `application/octet-stream`.
Recorded data may contain cycles; a walk never visits a type twice, so it always ends.
-/

namespace MimeDatabase

/-- The explicit edges from a type to a parent, each once, none from a type to itself. -/
structure Hierarchy where
  edges : List (MediaType × MediaType)
  deriving DecidableEq, Repr

namespace Hierarchy

/-- Adds an edge unless it is a loop or there already. -/
def addEdge (edges : List (MediaType × MediaType)) (edge : MediaType × MediaType) :
    List (MediaType × MediaType) :=
  if edge.1 = edge.2 || edges.contains edge then edges else edges ++ [edge]

/-- The hierarchy of some recorded edges. -/
def ofEdges (edges : List (MediaType × MediaType)) : Hierarchy := ⟨edges.foldl addEdge []⟩

/-- What is logged when a hierarchy is built: the loops that are ignored. -/
def edgeEvents (edges : List (MediaType × MediaType)) : List Log.Event :=
  (edges.filter fun e => e.1 = e.2).map fun e => .selfParent e.1.name

/-- The explicit parents of a type, in recorded order. -/
def parents (h : Hierarchy) (t : MediaType) : List MediaType :=
  (h.edges.filter fun e => e.1 = t).map (·.2)

/-- The number of types with an explicit parent. -/
def size (h : Hierarchy) : Nat := (h.edges.map (·.1)).eraseDups.length

/-- The edges that leave a type which is not among `seen`. -/
def unseenEdges (h : Hierarchy) (seen : List MediaType) : List (MediaType × MediaType) :=
  h.edges.filter fun e => !seen.contains e.1

/-- Visiting a new type uses up exactly the edges to its parents. -/
theorem unseenEdges_cons (h : Hierarchy) (t : MediaType) (seen : List MediaType)
    (hnew : seen.contains t = false) :
    (h.unseenEdges (t :: seen)).length + (h.parents t).length = (h.unseenEdges seen).length := by
  unfold unseenEdges parents
  rw [List.length_map]
  induction h.edges with
  | nil => rfl
  | cons e es ih =>
    simp only [List.filter_cons, List.contains_cons]
    by_cases he : e.1 = t
    · subst he
      simp only [BEq.rfl, Bool.true_or, Bool.not_true, hnew, Bool.not_false, if_true, if_false,
        decide_true, List.length_cons, Bool.false_eq_true]
      simp only [List.contains_cons] at ih
      omega
    · have hne : (e.1 == t) = false := by simpa using he
      simp only [hne, he, Bool.false_or, decide_false, if_false, Bool.false_eq_true]
      simp only [List.contains_cons] at ih
      cases seen.contains e.1 with
      | false =>
        simp_all
        omega
      | true => simp_all

/-- The types reached from a queue, breadth first, each once and none of `seen`. -/
def walk (h : Hierarchy) (queue seen : List MediaType) : List MediaType :=
  match queue with
  | [] => []
  | t :: rest =>
    if _hs : seen.contains t then h.walk rest seen
    else t :: h.walk (rest ++ h.parents t) (t :: seen)
termination_by queue.length + (h.unseenEdges seen).length
decreasing_by
  · simp
  · have := h.unseenEdges_cons t seen (by simpa using _hs)
    simp
    omega

/-- The ancestors over explicit edges, nearest first. -/
def explicitAncestors (h : Hierarchy) (t : MediaType) : List MediaType :=
  h.walk (h.parents t) [t]

/-- The ancestors that are reached through `text/plain`, if the type or an explicit ancestor is a
text type. -/
def textAncestors (h : Hierarchy) (t : MediaType) : List MediaType :=
  if (t :: h.explicitAncestors t).any (·.media = "text") then
    h.walk [MediaType.textPlain] (t :: h.explicitAncestors t)
  else []

/-- The ancestors that are reached through `application/octet-stream` only. -/
def rootAncestors (h : Hierarchy) (t : MediaType) : List MediaType :=
  h.walk [MediaType.octetStream] (t :: (h.explicitAncestors t ++ h.textAncestors t))

/-- All ancestors of a type: the explicit ones, then those through `text/plain`, then those through
`application/octet-stream`. The type itself is not among them. -/
def ancestors (h : Hierarchy) (t : MediaType) : List MediaType :=
  h.explicitAncestors t ++ h.textAncestors t ++ h.rootAncestors t

/-- Whether a type is another one or inherits from it. A base `media/*` stands for every type with
that media part. -/
def isSubtype (h : Hierarchy) (t base : MediaType) : Bool :=
  if t = base then true
  else if base.subtype = "*" then
    t.media == base.media || (h.ancestors t).any (·.media == base.media)
  else if base.id = MediaType.octetStream.id then true
  else (h.ancestors t).contains base

end Hierarchy

end MimeDatabase
