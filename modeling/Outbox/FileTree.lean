import Outbox.Fault
import Outbox.Text.Utf8

/-! # Files

The files below a working directory, and what a path names among them.

* `FileTree.ofEntries`: the tree that holds the given files, with every directory on the way.
* `FileTree.find`: follows a path name by name. `.` stays, `..` goes up, and every name but the
  last must be a directory's. Above the working directory nothing is known but the directories
  that lead to it.
* `FileTree.read`, `FileTree.isThere`: a file's content; whether a path names anything.
-/

set_option autoImplicit false

namespace Outbox

/-- What a path can name. -/
inductive Entry where
  | file (content : Bytes)
  | directory
  deriving DecidableEq, Repr

/-- Entries by the names that lead to them from the working directory. -/
structure FileTree where
  entries : List (List (List Char) × Entry)
  deriving DecidableEq, Repr

namespace FileTree

/-- The parts of a path between slashes. -/
def names : List Char → List (List Char)
  | [] => [[]]
  | c :: cs =>
    match names cs with
    | name :: rest => if c == '/' then [] :: name :: rest else (c :: name) :: rest
    | [] => [[c]]

def isHere (name : List Char) : Bool := name.isEmpty || name == ['.']

def isUp (name : List Char) : Bool := name == ['.', '.']

/-- The entry at a place below the working directory. A place that leads to an entry is a
directory, and so is the working directory itself. -/
def entry? (t : FileTree) (place : List (List Char)) : Option Entry :=
  match t.entries.find? fun e => e.1 == place with
  | some e => some e.2
  | none =>
    if place.isEmpty || t.entries.any fun e => place.isPrefixOf e.1 then some .directory else none

/-- Adds an entry, in place of one that was there. -/
def insert (t : FileTree) (path : String) (e : Entry) : FileTree :=
  let place := (names path.toList).filter fun n => !isHere n
  ⟨(place, e) :: t.entries.filter fun old => !(old.1 == place)⟩

/-- The tree of the given entries, later ones in place of earlier ones. -/
def ofEntries (entries : List (String × Entry)) : FileTree :=
  entries.foldl (fun t e => t.insert e.1 e.2) ⟨[]⟩

/-- Where a path has led so far: below the working directory, or so many directories above it. -/
inductive Place where
  | below (names : List (List Char))
  | above (levels : Nat)
  deriving DecidableEq, Repr

/-- Octets that a single name may have. -/
def maxNameSize : Nat := 255

/-- Octets that a path may have. -/
def maxPathSize : Nat := 4095

/-- What is at a place. -/
def at? (t : FileTree) : Place → Option Entry
  | .below place => t.entry? place
  | .above _ => some .directory

/-- One name further. -/
def step (t : FileTree) (p : Place) (name : List Char) : Except SystemFault Place :=
  match t.at? p with
  | none => .error .notFound
  | some (.file _) => .error .notDirectory
  | some .directory =>
    if isHere name then .ok p
    else if isUp name then
      .ok (match p with
        | .below [] => .above 1
        | .below place => .below place.dropLast
        | .above levels => .above (levels + 1))
    else if maxNameSize < (Utf8.encodeChars name).length then .error .nameTooLong
    else match p with
      | .below place => .ok (.below (place ++ [name]))
      | .above _ => .error .notFound

/-- What a path names. -/
def find (t : FileTree) (path : String) : Except SystemFault Entry :=
  let cs := path.toList
  if cs.contains '\x00' then .error .nulInName
  else if cs.isEmpty then .error .notFound
  else if maxPathSize < (Utf8.encodeChars cs).length then .error .nameTooLong
  else do
    let start ← match cs with
      | '/' :: rest =>
        if (names rest).all fun n => isHere n || isUp n then .ok (Place.above 0)
        else .error .notFound
      | _ => .ok (Place.below [])
    let place ← (names cs).foldlM t.step start
    match t.at? place with
    | some e => .ok e
    | none => .error .notFound

/-- The content of a file. -/
def read (t : FileTree) (path : String) : Except SystemFault Bytes := do
  match ← t.find path with
  | .file content => .ok content
  | .directory => .error .isDirectory

/-- Whether a path names anything. -/
def isThere (t : FileTree) (path : String) : Bool :=
  match t.find path with
  | .ok _ => true
  | .error _ => false

end FileTree

end Outbox
