import MimeDatabase.Glob.Index
import MimeDatabase.Log.Event

/-!
# Weighing names against contents

What the shape of a content says about its type, and which of two pieces of evidence decides. A
signature beats a name, a name beats the mere shape, and a name that leaves a choice is decided by
the content.
-/

namespace MimeDatabase.Detection

/-- Whether a byte may stand in text: every byte but the controls, of which only tab, line feed,
vertical tab, form feed, carriage return and escape are let through. -/
def isTextByte (b : UInt8) : Bool :=
  b != 0x7F && (0x20 ≤ b || (9 ≤ b && b ≤ 13) || b == 0x1B)

/-- Whether data looks like text. Empty data does not. -/
def looksLikeText (data : List UInt8) : Bool := !data.isEmpty && data.all isTextByte

/-- The base type that the shape of data points to. -/
def shapeType (data : List UInt8) : MediaType :=
  if looksLikeText data then .textPlain else .octetStream

/-- The type that the evidence points to: the best match of the name and the type of the content,
either of which may be missing. -/
def reconcile (glob : Option Glob.Match) (content : Option MediaType) : MediaType :=
  match glob, content with
  | none, none => .octetStream
  | some g, none => g.best
  | none, some t => t
  | some g, some t =>
    if g.types.contains t then t else if t.isGeneric then g.best else t

/-- What is logged when name and content disagree. -/
def reconcileEvents (glob : Option Glob.Match) (content : Option MediaType) : List Log.Event :=
  match glob, content with
  | some g, some t =>
    if g.types.contains t then []
    else if t.isGeneric then [.nameDecides g.best.name t.name]
    else [.contentDecides g.best.name t.name]
  | _, _ => []

end MimeDatabase.Detection
