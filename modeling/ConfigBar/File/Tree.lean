import ConfigBar.Text.Bytes
import ConfigBar.Text.Pieces
import ConfigBar.File.Error
/-!
# File trees

The files in a directory and below it, by their places. `FileTree.read` and `FileTree.append` follow
a path as an operating system does and fail with its errors. A path may lead above the directory or
start at the root of the system; nothing is known to be there but the directories on the way, the
null device and what has been appended.
-/

namespace ConfigBar

/-- A file or a directory. -/
inductive FileEntry where
  | file (content : List UInt8)
  | directory
  /-- A device that takes everything and holds nothing. -/
  | sink
  deriving DecidableEq, Repr

/-- A place: some directories up from a directory, or the root of the system, and then down by
names. -/
structure FilePlace where
  /-- How many directories up; `none` is the root. -/
  up : Option Nat
  names : List String
  deriving DecidableEq, Repr

namespace FilePlace

/-- The directory itself. -/
def here : FilePlace := ⟨some 0, []⟩

/-- The root of the system. -/
def root : FilePlace := ⟨none, []⟩

/-- The null device. -/
def nullDevice : FilePlace := ⟨none, ["dev", "null"]⟩

/-- The directory that holds a place. The root holds itself. -/
def parent (p : FilePlace) : FilePlace :=
  if p.names.isEmpty then ⟨p.up.map (· + 1), []⟩ else ⟨p.up, p.names.dropLast⟩

/-- The place of a name in a directory. -/
def child (p : FilePlace) (name : String) : FilePlace := ⟨p.up, p.names ++ [name]⟩

/-- Is a place the same as another one or below it? -/
def isWithin (p above : FilePlace) : Bool := p.up == above.up && above.names.isPrefixOf p.names

end FilePlace

/-- The files below a directory. -/
structure FileTree where
  entries : List (FilePlace × FileEntry)
  deriving DecidableEq, Repr

namespace FileTree

/-- The parts of a path. -/
def parts (path : String) : List String := (Text.pieces '/' path.toList).map String.ofList

/-- The place of an entry, by a path that only leads downward. -/
def key (path : String) : FilePlace := ⟨some 0, (parts path).filter fun p => p ≠ "" ∧ p ≠ "."⟩

/-- The tree of files by path, and the null device. -/
def ofList (files : List (String × FileEntry)) : FileTree :=
  ⟨files.map (fun f => (key f.1, f.2)) ++ [(.nullDevice, .sink)]⟩

/-- What stands at a place. A place above a file is a directory. -/
def at? (t : FileTree) (place : FilePlace) : Option FileEntry :=
  match t.entries.find? fun e => e.1 == place with
  | some e => some e.2
  | none =>
    if place.names.isEmpty || t.entries.any fun e => e.1.isWithin place then some .directory
    else none

/-- The most bytes that a part of a path may have. -/
def partLimit : Nat := 255

/-- The most bytes that a path may have. -/
def pathLimit : Nat := 4095

/-- Follows the parts of a path from a place. The last part need not exist; an empty last part or a
point asks for a directory. -/
def follow (t : FileTree) (place : FilePlace) : List String → Except FileError FilePlace
  | [] => .ok place
  | p :: ps =>
    match t.at? place with
    | some .directory =>
      if p = "" ∨ p = "." then t.follow place ps
      else if p = ".." then t.follow place.parent ps
      else if partLimit < p.utf8ByteSize then .error .nameTooLong
      else t.follow (place.child p) ps
    | some _ => .error .notDirectory
    | none => .error .notFound

/-- The place from which a path leads. -/
def origin (path : String) : FilePlace := if path.startsWith "/" then .root else .here

/-- Why a text is no path, if it is none. An empty path leads nowhere. -/
def fault? (path : String) : Option FileError :=
  if path.contains '\x00' then some .zeroInName
  else if pathLimit < path.utf8ByteSize then some .nameTooLong
  else if path = "" then some .notFound
  else none

/-- The place of a path. -/
def place (t : FileTree) (path : String) : Except FileError FilePlace :=
  match fault? path with
  | some e => .error e
  | none => t.follow (origin path) (parts path)

/-- The bytes of the file at a path. -/
def readBytes (t : FileTree) (path : String) : Except FileError (List UInt8) :=
  match t.place path with
  | .error e => .error e
  | .ok place =>
    match t.at? place with
    | none => .error .notFound
    | some .directory => .error .isDirectory
    | some (.file content) => .ok content
    | some .sink => .ok []

/-- The text of bytes. -/
def text? (content : List UInt8) : Option String := String.fromUTF8? ⟨content.toArray⟩

/-- The text of the file at a path. -/
def read (t : FileTree) (path : String) : Except FileError String :=
  match t.readBytes path with
  | .error e => .error e
  | .ok content =>
    match text? content with
    | some s => .ok s
    | none => .error .invalidText

/-- What the file at a path shows, whether its bytes are a text or not. -/
def readShown (t : FileTree) (path : String) : Except FileError String :=
  match t.readBytes path with
  | .error e => .error e
  | .ok content => .ok (Text.ofBytes content)

/-- Puts a file at a place. -/
def put (t : FileTree) (place : FilePlace) (content : List UInt8) : FileTree :=
  ⟨t.entries.filter (fun e => e.1 ≠ place) ++ [(place, .file content)]⟩

/-- The parts of the directory that holds the last part of a path with a slash at its end. -/
def holderParts (path : String) : List String :=
  ((parts path).reverse.dropWhile (· = "")).tail.reverse ++ [""]

/-- The place of a path that can be appended to. A slash at the end of the path asks for a
directory, and none can be appended to, whatever its last part is. -/
def placeToAppend (t : FileTree) (path : String) : Except FileError FilePlace :=
  match fault? path with
  | some e => .error e
  | none =>
    if path.endsWith "/" then
      match t.follow (origin path) (holderParts path) with
      | .error e => .error e
      | .ok _ => .error .isDirectory
    else t.follow (origin path) (parts path)

/-- Appends to the file at a path, which is made if it is not there. -/
def append (t : FileTree) (path : String) (content : List UInt8) : Except FileError FileTree :=
  match t.placeToAppend path with
  | .error e => .error e
  | .ok place =>
    match t.at? place with
    | some .directory => .error .isDirectory
    | some (.file old) => .ok (t.put place (old ++ content))
    | some .sink => .ok t
    | none => .ok (t.put place content)

end FileTree

end ConfigBar
