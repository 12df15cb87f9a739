import MimeDatabase.Capacity
import MimeDatabase.Log.Shown
import MimeDatabase.Number.Rounded
import MimeDatabase.Text.Digit

/-!
# Message templates

A message is a template in which directives stand for arguments. A directive begins with a percent
sign, goes on with an optional key between parentheses, flags, a width, a precision and a length
mark, and ends with the letter of a conversion. Two percent signs in a row stand for one.
-/

namespace MimeDatabase.Log

/-- Why a template cannot be filled. -/
inductive TemplateFault where
  | tooFewArguments
  | tooManyArguments
  | tableRequired
  | widthNotInteger
  | characterRequired
  /-- A conversion to decimal digits got a value of another kind. -/
  | numberRequired (conversion : Char) (kind : String)
  /-- A conversion to octal or hexadecimal digits got a value of another kind. -/
  | integerRequired (conversion : Char) (kind : String)
  /-- A conversion to a floating-point number got a value of another kind. -/
  | realRequired (kind : String)
  | unsupported (conversion : Char) (position : Nat)
  | incomplete
  | incompleteKey
  | undefinedInteger
  | infiniteInteger
  | characterOutOfRange
  /-- An integer is beyond all floating-point numbers. -/
  | realTooLarge
  /-- The digits of a width spell a number that is no index. -/
  | widthTooBig
  /-- The digits of a precision spell too great a number. -/
  | precisionTooBig
  /-- An argument is too great for a width. -/
  | widthOutOfRange
  /-- An argument is too great for a precision. -/
  | precisionOutOfRange
  /-- An integer is to have too many digits. -/
  | tooManyDigits
  | outOfMemory
  | missingKey (key : String)
  deriving DecidableEq, Repr

/-- The text of a fault. -/
def TemplateFault.message : TemplateFault → String
  | tooFewArguments => "not enough arguments for format string"
  | tooManyArguments => "not all arguments converted during string formatting"
  | tableRequired => "format requires a mapping"
  | widthNotInteger => "* wants int"
  | characterRequired => "%c requires int or char"
  | numberRequired c kind =>
    "%" ++ c.toString ++ " format: a real number is required, not " ++ kind
  | integerRequired c kind =>
    "%" ++ c.toString ++ " format: an integer is required, not " ++ kind
  | realRequired kind => "must be real number, not " ++ kind
  | unsupported c position =>
    let shown := if 31 ≤ c.toNat && c.toNat < 127 then c else '?'
    "unsupported format character '" ++ shown.toString ++ "' (0x" ++
      String.ofList (Nat.toDigits 16 c.toNat) ++ ") at index " ++ toString position
  | incomplete => "incomplete format"
  | incompleteKey => "incomplete format key"
  | undefinedInteger => "cannot convert float NaN to integer"
  | infiniteInteger => "cannot convert float infinity to integer"
  | characterOutOfRange => "%c arg not in range(0x110000)"
  | realTooLarge => "int too large to convert to float"
  | widthTooBig => "width too big"
  | precisionTooBig => "precision too big"
  | widthOutOfRange => "Python int too large to convert to C ssize_t"
  | precisionOutOfRange => "Python int too large to convert to C int"
  | tooManyDigits => "precision too large"
  | outOfMemory => CapacityFault.noMemory.message
  | missingKey key => Text.quote key

/-- How a directive lays out its argument. -/
structure Directive where
  left : Bool := false
  plus : Bool := false
  blank : Bool := false
  alternate : Bool := false
  zero : Bool := false
  width : Nat := 0
  precision : Option Nat := none
  deriving Repr

/-- The greatest precision. -/
def maxPrecision : Nat := powerOfTwo 31 - 1

/-- The part of a directive that is read next. -/
inductive Stage where
  | start
  /-- Inside a key, with the number of open parentheses and the characters so far, last first. -/
  | key (depth : Nat) (chars : List Char)
  | flags
  | width
  | point
  | precisionStart
  | precision
  | mark
  | conversion
  deriving Repr

/-- The arguments that are left, and the table from which keys are taken. -/
structure Supply where
  rest : List Value
  table? : Option Table

namespace Supply

/-- The arguments of a message. A single table that is not empty can be asked for its keys. -/
def ofArguments (arguments : List Value) : Supply :=
  match arguments with
  | [.table (field :: fields)] => ⟨arguments, some (field :: fields)⟩
  | _ => ⟨arguments, none⟩

/-- Takes the next argument. -/
def next (s : Supply) : Except TemplateFault (Value × Supply) :=
  match s.rest with
  | [] => .error .tooFewArguments
  | v :: rest => .ok (v, { s with rest })

/-- Makes the value of a key the next argument. -/
def select (s : Supply) (key : String) : Except TemplateFault Supply :=
  match s.table? with
  | none => .error .tableRequired
  | some table =>
    match table.get? key with
    | none => .error (.missingKey key)
    | some v => .ok { s with rest := [v] }

end Supply

/-! ## Conversions -/

namespace Directive

/-- Pads a text to the width of a directive. -/
def pad (d : Directive) (cs : List Char) : List Char :=
  let blanks := List.replicate (d.width - cs.length) ' '
  if d.left then cs ++ blanks else blanks ++ cs

/-- The sign of a number. -/
def sign (d : Directive) (negative : Bool) : List Char :=
  if negative then ['-'] else if d.plus then ['+'] else if d.blank then [' '] else []

/-- Pads a number to the width of a directive; zeros go between its sign and its digits. -/
def padNumber (d : Directive) (lead digits : List Char) : List Char :=
  if d.zero && !d.left then
    lead ++ List.replicate (d.width - (lead.length + digits.length)) '0' ++ digits
  else d.pad (lead ++ digits)

/-- A text cut to the precision of a directive. -/
def layText (d : Directive) (s : String) : List Char :=
  d.pad (match d.precision with
    | none => s.toList
    | some n => s.toList.take n)

/-- The most digits that an integer can be asked to have. -/
def digitLimit : Nat := maxPrecision - 3

/-- An integer in digits of a base, with as many digits as the precision asks for. -/
def layInt (d : Directive) (base : Nat) (mark : List Char) (upper : Bool) (n : Int) :
    Except TemplateFault (List Char) :=
  let count := d.precision.getD 0
  if digitLimit < count then .error .tooManyDigits
  else
    let digits := Nat.toDigits base n.natAbs
    let digits := if upper then digits.map Char.toUpper else digits
    let digits := List.replicate (count - digits.length) '0' ++ digits
    .ok (d.padNumber (d.sign (n < 0) ++ (if d.alternate then mark else [])) digits)

/-- A floating-point number as a conversion writes it. -/
def layFloat (d : Directive) (conversion : Char) (x : Double) : List Char :=
  let count := d.precision.getD 6
  let upper := conversion.isUpper
  let body : Bool × List Char := match x with
    | .nan => (false, "nan".toList)
    | .infinite negative => (negative, "inf".toList)
    | .finite negative s e =>
      (negative,
        if conversion.toLower = 'f' then Double.fixedText count d.alternate s e
        else if conversion.toLower = 'e' then Double.scientificText count d.alternate s e
        else Double.generalText count d.alternate s e)
  d.padNumber (d.sign body.1) (if upper then body.2.map Char.toUpper else body.2)

/-- The integer that a floating-point number is cut to. -/
def truncate : Double → Except TemplateFault Int
  | .nan => .error .undefinedInteger
  | .infinite _ => .error .infiniteInteger
  | x => .ok x.integerPart

/-- The integer of an argument of a decimal conversion. -/
def decimalArgument (conversion : Char) : Value → Except TemplateFault Int
  | .int n => .ok n
  | .bool b => .ok (if b then 1 else 0)
  | .float x => truncate x
  | v => .error (.numberRequired conversion v.kindName)

/-- The integer of an argument of an octal or hexadecimal conversion. -/
def integerArgument (conversion : Char) : Value → Except TemplateFault Int
  | .int n => .ok n
  | .bool b => .ok (if b then 1 else 0)
  | v => .error (.integerRequired conversion v.kindName)

/-- The number of an argument of a floating-point conversion. -/
def realArgument : Value → Except TemplateFault Double
  | .float x => .ok x
  | .int n =>
    let x := Double.ofFraction (n < 0) n.natAbs 1
    if x.isFinite then .ok x else .error .realTooLarge
  | .bool b => .ok (Double.ofFraction false (if b then 1 else 0) 1)
  | v => .error (.realRequired v.kindName)

/-- The character of an argument. -/
def characterArgument : Value → Except TemplateFault Char
  | .text s =>
    match s.toList with
    | [c] => .ok c
    | _ => .error .characterRequired
  | .int n =>
    if 0 ≤ n && n < 0x110000 then .ok (Char.ofNat n.toNat) else .error .characterOutOfRange
  | .bool b => .ok (Char.ofNat (if b then 1 else 0))
  | _ => .error .characterRequired

/-- An argument as a conversion writes it; `none` for a letter that is no conversion. -/
def lay? (d : Directive) (conversion : Char) (v : Value) :
    Option (Except TemplateFault (List Char)) :=
  match conversion with
  | 's' => some (.ok (d.layText v.shown))
  | 'r' => some (.ok (d.layText v.quoted))
  | 'a' => some (.ok (d.layText v.quotedAscii))
  | 'd' | 'i' | 'u' =>
    some ((decimalArgument conversion v).bind (d.layInt 10 [] false))
  | 'o' => some ((integerArgument conversion v).bind (d.layInt 8 ['0', 'o'] false))
  | 'x' => some ((integerArgument conversion v).bind (d.layInt 16 ['0', 'x'] false))
  | 'X' => some ((integerArgument conversion v).bind (d.layInt 16 ['0', 'X'] true))
  | 'e' | 'E' | 'f' | 'F' | 'g' | 'G' =>
    some ((realArgument v).map (d.layFloat conversion))
  | 'c' => some ((characterArgument v).map fun c => d.pad [c])
  | _ => none

end Directive

/-! ## Filling a template -/

/-- A template that is filled so far: the output, last first, the arguments that are left, the
number of characters read, and the directive that is being read. -/
structure Filling where
  out : List Char
  supply : Supply
  position : Nat
  directive? : Option (Stage × Directive)

namespace Filling

/-- Goes on with a directive at a stage. -/
def enter (f : Filling) (stage : Stage) (d : Directive) : Filling :=
  { f with directive? := some (stage, d) }

/-- Writes a text and ends the directive. -/
def write (f : Filling) (cs : List Char) : Filling :=
  { f with out := cs.reverse ++ f.out, directive? := none }

/-- Ends a directive with the letter of its conversion. There has to be room for its width. -/
def convert (f : Filling) (d : Directive) (c : Char) : Except TemplateFault Filling := do
  let (v, supply) ← f.supply.next
  let fits := (Capacity.fault? d.width).isNone
  match (if fits then d else { d with width := 0 }).lay? c v with
  | none => throw (.unsupported c f.position)
  | some laid => do
    let text ← laid
    if fits then return { f with supply }.write text else throw .outOfMemory

/-- Reads a length mark or a conversion. -/
def readMark (f : Filling) (d : Directive) (c : Char) : Except TemplateFault Filling :=
  if c = 'h' || c = 'l' || c = 'L' then .ok (f.enter .conversion d) else f.convert d c

/-- An integer from the arguments. -/
def takeInt (f : Filling) : Except TemplateFault (Int × Filling) := do
  match ← f.supply.next with
  | (.int n, supply) => return (n, { f with supply })
  | (.bool b, supply) => return (if b then 1 else 0, { f with supply })
  | _ => throw .widthNotInteger

/-- Adds a digit to a number, up to a limit. -/
def addDigit (limit : Nat) (fault : TemplateFault) (n : Nat) (c : Char) :
    Except TemplateFault Nat :=
  let n := 10 * n + (c.toNat - 48)
  if limit < n then .error fault else .ok n

/-- Adds a digit to the width of a directive. -/
def addToWidth (f : Filling) (d : Directive) (c : Char) : Except TemplateFault Filling := do
  let width ← addDigit Capacity.maxIndex .widthTooBig d.width c
  return f.enter .width { d with width }

/-- Adds a digit to the precision of a directive. -/
def addToPrecision (f : Filling) (d : Directive) (c : Char) : Except TemplateFault Filling := do
  let precision ← addDigit maxPrecision .precisionTooBig (d.precision.getD 0) c
  return f.enter .precision { d with precision }

/-- Whether a number is as an index may be, or the negative of one. -/
def fitsIndex (limit : Nat) (n : Int) : Bool := -(limit + 1 : Int) ≤ n && n ≤ limit

/-- Reads the first character of a precision, or what comes after it. -/
def readPrecision (f : Filling) (d : Directive) (c : Char) : Except TemplateFault Filling :=
  if c = '*' then do
    let (n, f) ← f.takeInt
    if !fitsIndex maxPrecision n then throw .precisionOutOfRange
    return f.enter .mark { d with precision := some n.toNat }
  else if c.isDigit then f.addToPrecision d c
  else f.readMark { d with precision := some 0 } c

/-- Reads the point before a precision, or what comes after it. -/
def readPoint (f : Filling) (d : Directive) (c : Char) : Except TemplateFault Filling :=
  if c = '.' then .ok (f.enter .precisionStart d) else f.readMark d c

/-- Reads a flag, the first character of a width, or what comes after it. -/
def readFlag (f : Filling) (d : Directive) (c : Char) : Except TemplateFault Filling :=
  match c with
  | '-' => .ok (f.enter .flags { d with left := true })
  | '+' => .ok (f.enter .flags { d with plus := true })
  | ' ' => .ok (f.enter .flags { d with blank := true })
  | '#' => .ok (f.enter .flags { d with alternate := true })
  | '0' => .ok (f.enter .flags { d with zero := true })
  | '*' => do
    let (n, f) ← f.takeInt
    if !fitsIndex Capacity.maxIndex n then throw .widthOutOfRange
    return f.enter .point { d with left := d.left || n < 0, width := n.natAbs }
  | _ => if c.isDigit then f.addToWidth d c else f.readPoint d c

/-- Reads a character inside a key. -/
def readKey (f : Filling) (d : Directive) (depth : Nat) (chars : List Char) (c : Char) :
    Except TemplateFault Filling :=
  if c = ')' && depth = 1 then do
    let supply ← f.supply.select (String.ofList chars.reverse)
    return { f with supply }.enter .flags d
  else
    let depth := if c = '(' then depth + 1 else if c = ')' then depth - 1 else depth
    .ok (f.enter (.key depth (c :: chars)) d)

/-- Reads the character after the percent sign. -/
def readStart (f : Filling) (d : Directive) (c : Char) : Except TemplateFault Filling :=
  if c = '%' then .ok (f.write ['%'])
  else if c = '(' then
    if f.supply.table?.isSome then .ok (f.enter (.key 1 []) d) else .error .tableRequired
  else f.readFlag d c

/-- Reads one character of a template. -/
def readChar (f : Filling) (c : Char) : Except TemplateFault Filling :=
  match f.directive? with
  | none => .ok (if c = '%' then f.enter .start {} else f.write [c])
  | some (.start, d) => f.readStart d c
  | some (.key depth chars, d) => f.readKey d depth chars c
  | some (.flags, d) => f.readFlag d c
  | some (.width, d) => if c.isDigit then f.addToWidth d c else f.readPoint d c
  | some (.point, d) => f.readPoint d c
  | some (.precisionStart, d) => f.readPrecision d c
  | some (.precision, d) => if c.isDigit then f.addToPrecision d c else f.readMark d c
  | some (.mark, d) => f.readMark d c
  | some (.conversion, d) => f.convert d c

/-- Reads one character and counts it. -/
def step (f : Filling) (c : Char) : Except TemplateFault Filling :=
  (f.readChar c).map fun f => { f with position := f.position + 1 }

/-- The text of a template that has been read to its end. -/
def finish (f : Filling) : Except TemplateFault String :=
  match f.directive? with
  | some (.key _ _, _) => .error .incompleteKey
  | some _ => .error .incomplete
  | none =>
    if !f.supply.rest.isEmpty && f.supply.table?.isNone then .error .tooManyArguments
    else .ok (String.ofList f.out.reverse)

end Filling

/-- A template filled with arguments; without arguments it is the message as it stands. -/
def fillTemplate (template : String) (arguments : List Value) : Except TemplateFault String :=
  if arguments.isEmpty then .ok template
  else do
    let f ← template.toList.foldlM Filling.step ⟨[], Supply.ofArguments arguments, 0, none⟩
    f.finish

end MimeDatabase.Log
