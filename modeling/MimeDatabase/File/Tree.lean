import MimeDatabase.File.Fault
import MimeDatabase.File.Path

/-!
# File trees

The files and directories that a program sees, and the directory it works in. A path is followed one
component after the other: each component but the last must be a directory, and two dots lead back
to the directory above.
-/

namespace MimeDatabase

/-- What a path leads to. -/
inductive Node where
  | directory
  | file (content : List UInt8)
  deriving DecidableEq, Repr

/-- The nodes below the root by their components, and the components of the working directory. -/
structure FileTree where
  nodes : List (List String × Node)
  workingDirectory : List String
  deriving DecidableEq, Repr

namespace FileTree

/-- The node at a place; the root is a directory. -/
def node? (t : FileTree) (place : List String) : Option Node :=
  if place.isEmpty then some .directory else t.nodes.lookup place

/-- The longest name of a file, in bytes. -/
def nameLimit : Nat := 255

/-- The longest text of a path, in bytes. -/
def pathLimit : Nat := 4095

/-- Follows components from a place; the last one need not be there. -/
def follow (t : FileTree) (place : List String) : List String → Except Refusal (List String)
  | [] => .ok place
  | part :: rest =>
    match t.node? place with
    | none => .error .notFound
    | some (.file _) => .error .notDirectory
    | some .directory =>
      if part = ".." then t.follow place.dropLast rest
      else if nameLimit < part.utf8ByteSize then .error .nameTooLong
      else t.follow (place ++ [part]) rest

/-- The place that a path leads to. -/
def place (t : FileTree) (p : Path) : Except Refusal (List String) :=
  if pathLimit < p.text.utf8ByteSize then .error .nameTooLong
  else t.follow (if p.isAbsolute then [] else t.workingDirectory) p.parts

/-- What a path leads to. -/
def examine (t : FileTree) (p : Path) : Except Refusal Node := do
  match t.node? (← t.place p) with
  | none => throw .notFound
  | some node => return node

/-- Whether a path holds a null character, which no file has in its name. -/
def hasNull (p : Path) : Bool := p.parts.any fun part => part.toList.contains '\x00'

/-- Whether a path leads to a node of some kind. What is not there or cannot be reached is of no
kind; other refusals are faults. -/
def isKind (kind : Node → Bool) (t : FileTree) (p : Path) : Except FileFault Bool :=
  if hasNull p then .ok false
  else
    match t.examine p with
    | .ok node => .ok (kind node)
    | .error .notFound | .error .notDirectory => .ok false
    | .error reason => .error ⟨reason, p.text⟩

/-- Whether a path leads to a file. -/
def isFile : FileTree → Path → Except FileFault Bool :=
  isKind fun
    | .file _ => true
    | .directory => false

/-- Whether a path leads to a directory. -/
def isDirectory : FileTree → Path → Except FileFault Bool :=
  isKind fun
    | .directory => true
    | .file _ => false

/-- The content of a file. -/
def read (t : FileTree) (p : Path) : Except OpenFault (List UInt8) :=
  if hasNull p then .error .nullCharacter
  else
    match t.examine p with
    | .ok (.file content) => .ok content
    | .ok .directory => .error (.refused ⟨.isDirectory, p.text⟩)
    | .error reason => .error (.refused ⟨reason, p.text⟩)

/-! ## Changing -/

/-- Puts a node at a place. -/
def putAt (t : FileTree) (place : List String) (node : Node) : FileTree :=
  { t with nodes := (place, node) :: t.nodes.filter (·.1 ≠ place) }

/-- Makes a directory. -/
def makeDirectory (t : FileTree) (p : Path) : Except Refusal FileTree := do
  let place ← t.place p
  match t.node? place with
  | some _ => throw .alreadyThere
  | none => return t.putAt place .directory

/-- Makes a directory unless it is there: the tree afterwards, and the fault if it cannot be
made. -/
def withDirectory (t : FileTree) (p : Path) : FileTree × Option FileFault :=
  match t.makeDirectory p with
  | .ok t => (t, none)
  | .error reason =>
    match t.isDirectory p with
    | .ok true => (t, none)
    | _ => (t, some ⟨reason, p.text⟩)

/-- Makes a directory and those it lies in unless they are there: the tree afterwards, and the fault
if one of them cannot be made. What was made before the fault stays. -/
def withDirectories (t : FileTree) (p : Path) : FileTree × Option FileFault :=
  match t.makeDirectory p with
  | .error .notFound =>
    if h : p.parts = [] then (t, some ⟨.notFound, p.text⟩)
    else
      have := List.length_pos_iff.2 h
      match t.withDirectories p.parent with
      | (t, some fault) => (t, some fault)
      | (t, none) => t.withDirectory p
  | _ => t.withDirectory p
termination_by p.parts.length
decreasing_by
  simp [Path.parent]
  omega

/-- Makes a directory and those it lies in unless they are there. -/
def ensureDirectories (t : FileTree) (p : Path) : Except FileFault FileTree :=
  match t.withDirectories p with
  | (_, some fault) => .error fault
  | (t, none) => .ok t

/-- Adds bytes at the end of a file, which is made if it is not there. -/
def append (t : FileTree) (p : Path) (bytes : List UInt8) : Except OpenFault FileTree :=
  if hasNull p then .error .nullCharacter
  else
    match t.place p with
    | .error reason => .error (.refused ⟨reason, p.text⟩)
    | .ok place =>
      match t.node? place with
      | some .directory => .error (.refused ⟨.isDirectory, p.text⟩)
      | some (.file content) => .ok (t.putAt place (.file (content ++ bytes)))
      | none => .ok (t.putAt place (.file bytes))

/-- Removes a file, or a directory with all that is in it. -/
def remove (t : FileTree) (p : Path) : FileTree :=
  match t.place p with
  | .error _ => t
  | .ok place => { t with nodes := t.nodes.filter fun n => !place.isPrefixOf n.1 }

/-- A path without dots that leads from the root to where a path leads from the working directory,
unless it is one already. -/
def absolute (t : FileTree) (p : Path) : Path :=
  let parts := if p.isAbsolute then p.parts else t.workingDirectory ++ p.parts
  let root := if p.isAbsolute then p.root else "/"
  ⟨root, parts.foldl (fun (kept : List String) part =>
    if part = ".." then kept.dropLast else kept ++ [part]) []⟩

end FileTree

end MimeDatabase
