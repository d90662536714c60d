/-!
# Paths and what lies on the disk

Settings are loaded from a picture of the disk: its files and directories, by the way to them from
the root.  Paths are brought into a normal form first, which is also the form in messages: empty
parts and single points are dropped, double points are kept.

A path that begins with a slash is followed from the root, and any other path from the working
directory.  Double points lead to the directory above, and from the root to the root itself.

## Main definitions

* `ScriptAudit.Path`, `ScriptAudit.Path.parse`, `ScriptAudit.Path.text` — paths in normal form.
* `ScriptAudit.Content` — a file with its bytes, or a directory.
* `ScriptAudit.Disk`, `ScriptAudit.Disk.at?` — a picture of the disk, and what lies at a place.
* `ScriptAudit.Disk.find` — what a path leads to.

## Implementation notes

The picture is complete: where it shows nothing, there is nothing.  It has no links and no
permissions, so every file in it can be opened.
-/

set_option autoImplicit false

namespace ScriptAudit

/-- A path in normal form. -/
structure Path where
  /-- The slashes at its start; none for a path from the working directory. -/
  root : String
  /-- Its parts. -/
  parts : List String
  deriving DecidableEq

/-- The slashes that stand for the root: a single one, but exactly two stay two. -/
def rootOf (slashes : Nat) : String :=
  if slashes = 0 then "" else if slashes = 2 then "//" else "/"

/-- Brings a path into normal form. -/
def Path.parse (path : String) : Path :=
  let chars := path.toList
  let parts := (chars.splitOn '/').map String.ofList
  ⟨rootOf (chars.takeWhile (· == '/')).length, parts.filter fun part => part != "" && part != "."⟩

/-- A path as text; a path without parts is a point. -/
def Path.text (path : Path) : String :=
  if path.root == "" && path.parts.isEmpty then "." else path.root ++ "/".intercalate path.parts

/-- What lies at a path. -/
inductive Content where
  /-- A file with its bytes. -/
  | bytes (bytes : ByteArray)
  /-- A directory. -/
  | directory

/-- What the search for a path comes to. -/
inductive Lookup where
  /-- Something lies there. -/
  | found (content : Content)
  /-- Nothing lies there. -/
  | missing
  /-- The path, or a name in a directory that was reached, is longer than the system allows. -/
  | nameTooLong

/-- The outcome of a search that no name hinders. -/
def Lookup.ofContent? : Option Content → Lookup
  | some content => found content
  | none => missing

/-- Whether a name is longer than the system allows. -/
def isLongName (name : String) : Bool := decide (255 < name.utf8ByteSize)

/-- Whether a path is longer than the system allows. -/
def Path.isLong (path : Path) : Bool := decide (4095 < path.text.utf8ByteSize)

/-- The way to an entry of the disk: the names from the root downwards. -/
abbrev Place := List String

/-- The entries of a disk by their places; a later entry replaces an earlier one at the same
place. -/
abbrev Disk := List (Place × Content)

namespace Disk

/-- What lies at a place.  A place is a directory if something lies below it, and the root always
is. -/
def at? (disk : Disk) (place : Place) : Option Content :=
  match disk.reverse.find? (·.1 == place) with
  | some (_, content) => some content
  | none =>
    if place.isEmpty || disk.any (place.isPrefixOf ·.1) then some .directory
    else none

/-- Follows the parts of a path from a place. -/
def follow (disk : Disk) (place : Place) : List String → Lookup
  | [] => .ofContent? (disk.at? place)
  | part :: rest =>
    match disk.at? place with
    | some .directory =>
      if part == ".." then follow disk place.dropLast rest
      else if isLongName part then .nameTooLong
      else follow disk (place ++ [part]) rest
    | _ => .missing

/-- What a path leads to, given the place of the working directory, which is there even if nothing
lies in it.  No path holds the character zero. -/
def find (disk : Disk) (work : Place) (path : Path) : Lookup :=
  if path.text.toList.contains '\x00' then .missing
  else if path.isLong then .nameTooLong
  else follow ((work, .directory) :: disk) (if path.root == "" then work else []) path.parts

end Disk

end ScriptAudit
