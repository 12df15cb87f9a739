import MimeDatabase.Text.Case
import MimeDatabase.Text.Cut

/-!
# Patterns with wildcards

A pattern is cut at its stars into segments, and each element of a segment is a test of one
character: a literal, `?`, or a set between brackets. A name matches if the first segment stands at
its start, the last one at its end, and the others in between, in order. Each of the inner segments
may be looked for at the earliest place, since a segment always covers the same number of
characters.
-/

namespace MimeDatabase.Glob

/-- Part of a set: the characters from `low` to `high`, or a single one. -/
inductive Span where
  | single (c : Char)
  | range (low high : Char)
  deriving DecidableEq, Repr

/-- A test of one character. -/
inductive CharTest where
  /-- Every character passes. -/
  | any
  /-- No character passes. -/
  | never
  /-- The character passes, or if negated every other one. -/
  | one (negated : Bool) (c : Char)
  /-- The members of a set pass, or if negated all others. -/
  | oneOf (negated : Bool) (spans : List Span)
  deriving DecidableEq, Repr

/-! ## Sets between brackets -/

/-- The start of a set that belongs to it whatever follows: an exclamation mark, and a closing
bracket at the very start or after that mark. -/
def setStart (cs : List Char) : List Char :=
  match cs with
  | '!' :: ']' :: _ => ['!', ']']
  | '!' :: _ => ['!']
  | ']' :: _ => [']']
  | _ => []

/-- Splits what follows an opening bracket into the body of the set and what follows its closing
bracket, if there is one. -/
def setBody? (cs : List Char) : Option (List Char × List Char) :=
  match Text.cutAt ']' (cs.drop (setStart cs).length) with
  | (_, none) => none
  | (body, some after) => some (setStart cs ++ body, after)

theorem setBody?_length {cs body after : List Char} (h : setBody? cs = some (body, after)) :
    after.length < cs.length := by
  unfold setBody? at h
  split at h
  · simp at h
  · next hc =>
    have := Text.cutAt_length hc
    simp only [Option.some.injEq, Prod.mk.injEq] at h
    rw [List.length_drop, h.2] at this
    omega

/-- Cuts the body of a set at the hyphens that make ranges. The first `skip` characters of a piece
are part of it even if they are hyphens. A hyphen at the very end stands for itself. -/
def pieces (skip : Nat) (body : List Char) : List (List Char) :=
  let head := body.take skip ++ (body.drop skip).takeWhile (· != '-')
  match _h : (body.drop skip).dropWhile (· != '-') with
  | [] => [head]
  | _ :: [] => [head ++ ['-']]
  | _ :: next => head :: pieces 2 next
termination_by body.length
decreasing_by
  have h1 : ((body.drop skip).dropWhile (· != '-')).length ≤ (body.drop skip).length :=
    (List.dropWhile_sublist _).length_le
  rw [_h] at h1
  simp only [List.length_cons, List.length_drop] at h1
  omega

/-- Joins neighbouring pieces whose range would be empty: the end before its start. -/
def joinEmptyRanges : List (List Char) → List (List Char)
  | [] => []
  | piece :: rest =>
    match joinEmptyRanges rest with
    | [] => [piece]
    | next :: more =>
      match piece.getLast?, next with
      | some low, high :: tail =>
        if high < low then (piece.dropLast ++ tail) :: more else piece :: next :: more
      | _, _ => piece :: next :: more

/-- The spans of pieces: the last character of each piece and the first of the next one bound a
range, all others stand for themselves. `open?` is the start of a range that the next piece ends. -/
def spansOf (open? : Option Char) : List (List Char) → List Span
  | [] => (open?.map .single).toList
  | piece :: rest =>
    let (lead, tail) :=
      match open?, piece with
      | some low, high :: tail => ([Span.range low high], tail)
      | some low, [] => ([Span.single low], [])
      | none, tail => ([], tail)
    match rest, tail.getLast? with
    | _ :: _, some low =>
      lead ++ tail.dropLast.map .single ++ spansOf (some low) rest
    | _, _ => lead ++ tail.map .single ++ spansOf none rest

/-- The spans of a set without members before its first hyphen, which then stands for itself. -/
def spansAfterMark : List (List Char) → List Span
  | [] :: piece :: rest => .single '-' :: spansOf none (piece :: rest)
  | cut => spansOf none cut

/-- The test for the body of a set. An exclamation mark that comes first, be it because an empty
range before it is dropped, negates the set. -/
def setTest (body : List Char) : CharTest :=
  let cut :=
    if body.contains '-' then
      joinEmptyRanges (pieces (if body.head? = some '!' then 2 else 1) body)
    else [body]
  let (negated, spans) :=
    match cut with
    | ('!' :: piece) :: rest => (true, spansAfterMark (piece :: rest))
    | rest => (false, spansOf none rest)
  match spans.eraseDups with
  | [] => if negated then .any else .never
  | [.single c] => .one negated c
  | members => .oneOf negated members

/-! ## Compilation -/

/-- The tests of a pattern, with `none` for a star. -/
def elements (pattern : List Char) : List (Option CharTest) :=
  match pattern with
  | [] => []
  | c :: cs =>
    if c = '*' then none :: elements cs
    else if c = '?' then some .any :: elements cs
    else if c = '[' then
      match h : setBody? cs with
      | none => some (.one false '[') :: elements cs
      | some (body, after) =>
        have := setBody?_length h
        some (setTest body) :: elements after
    else some (.one false c) :: elements cs
termination_by pattern.length
decreasing_by all_goals simp <;> omega

/-- The segments between the stars; one more than there are stars. -/
def segments : List (Option CharTest) → List (List CharTest)
  | [] => [[]]
  | none :: rest => [] :: segments rest
  | some t :: rest =>
    match segments rest with
    | [] => [[t]]
    | segment :: more => (t :: segment) :: more

/-! ## Matching -/

/-- Whether a character lies in a span. -/
def Span.contains (c : Char) : Span → Bool
  | .single d => c == d
  | .range low high => low ≤ c && c ≤ high

/-- The characters whose simple lower case is `c`. -/
def lowerSources (c : Char) : List Char :=
  let own := if Text.simpleLower c = c then [c] else []
  let mapped := Text.Table.lowerRuns.filterMap fun r =>
    let n := r.first + (c.toNat - r.image)
    if r.image ≤ c.toNat && r.covers n then some (Char.ofNat n) else none
  let special := Text.Table.lowerSpecials.filterMap fun s =>
    if s.2.head? = some c.toNat then some (Char.ofNat s.1) else none
  own ++ mapped ++ special

/-- Whether a code point is in the basic plane. -/
def isBasic (c : Char) : Bool := c.toNat ≤ 0xFFFF

/-- Whether a character, given in lower case, lies in a span when case is ignored. Beyond the basic
plane a single character stands for itself only, and a range for itself and its lower case. -/
def Span.containsFolded (lowered : Char) : Span → Bool
  | .single d =>
    if isBasic d then (Text.siblings (Text.simpleLower d)).contains lowered else lowered == d
  | .range low high =>
    (Text.siblings lowered).any (fun s =>
      (lowerSources s).any fun c => low ≤ c && c ≤ high && isBasic c) ||
    (!isBasic high &&
      ((low ≤ lowered && lowered ≤ high) ||
        (low ≤ Text.simpleUpper lowered && Text.simpleUpper lowered ≤ high)))

/-- Whether two characters are the same when case is ignored. -/
def sameFolded (c d : Char) : Bool :=
  (Text.siblings (Text.simpleLower d)).contains (Text.simpleLower c)

/-- Whether a character passes a test, with or without regard to case. -/
def CharTest.passes (caseSensitive : Bool) (c : Char) : CharTest → Bool
  | .any => true
  | .never => false
  | .one negated d => negated != (if caseSensitive then c == d else sameFolded c d)
  | .oneOf negated spans =>
    negated != (if caseSensitive then spans.any (·.contains c)
      else spans.any (·.containsFolded (Text.simpleLower c)))

/-- What follows a segment at the start of a name, if it stands there. -/
def afterSegment? (caseSensitive : Bool) : List CharTest → List Char → Option (List Char)
  | [], cs => some cs
  | _ :: _, [] => none
  | t :: ts, c :: cs =>
    if t.passes caseSensitive c then afterSegment? caseSensitive ts cs else none

/-- What follows the first occurrence of a segment in a name, if there is one. -/
def afterFirst? (caseSensitive : Bool) (segment : List CharTest) :
    List Char → Option (List Char)
  | [] => afterSegment? caseSensitive segment []
  | c :: cs =>
    match afterSegment? caseSensitive segment (c :: cs) with
    | some rest => some rest
    | none => afterFirst? caseSensitive segment cs

/-- Whether segments that each follow a star match a name to its end. -/
def matchesAfterStar (caseSensitive : Bool) : List (List CharTest) → List Char → Bool
  | [], _ => true
  | [last], cs =>
    last.length ≤ cs.length &&
      (afterSegment? caseSensitive last (cs.drop (cs.length - last.length))).isSome
  | segment :: more, cs =>
    match afterFirst? caseSensitive segment cs with
    | none => false
    | some rest => matchesAfterStar caseSensitive more rest

/-- A compiled pattern: its segments. -/
structure Pattern where
  segments : List (List CharTest)
  deriving DecidableEq, Repr

namespace Pattern

/-- Compiles the text of a pattern. -/
def ofText (pattern : List Char) : Pattern := ⟨Glob.segments (elements pattern)⟩

/-- Whether a whole name matches a pattern. -/
def accepts (p : Pattern) (caseSensitive : Bool) (name : List Char) : Bool :=
  match p.segments with
  | [] => name.isEmpty
  | [only] => afterSegment? caseSensitive only name == some []
  | first :: more =>
    match afterSegment? caseSensitive first name with
    | none => false
    | some rest => matchesAfterStar caseSensitive more rest

end Pattern

end MimeDatabase.Glob
