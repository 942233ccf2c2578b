import ScpiConsole.Disk.Path
/-!
# A file system

Directories and files in memory, with the errors that a file system gives. It stands in for the real
one wherever a run is to be a function of its input.

* `IoError` : why a file could not be read or written
* `Disk.read`, `Disk.write`, `Disk.createParents` : what is done with files; a disk can refuse changes
-/

namespace ScpiConsole

/-- Why a file could not be read or written. -/
inductive IoError where
  | notFound
  | fileExists
  | notDirectory
  | isDirectory
  | invalidText
  | nameTooLong
  | nulInName
  | other (text : String)
deriving DecidableEq, Repr, Inhabited

def IoError.message : IoError → String
  | .notFound => "No such file or directory (os error 2)"
  | .fileExists => "File exists (os error 17)"
  | .notDirectory => "Not a directory (os error 20)"
  | .isDirectory => "Is a directory (os error 21)"
  | .invalidText => "stream did not contain valid UTF-8"
  | .nameTooLong => "File name too long (os error 36)"
  | .nulInName => "file name contained an unexpected NUL byte"
  | .other text => text

/-- What stands at a place. -/
inductive FileNode where
  | file (content : List UInt8)
  | directory
deriving DecidableEq, Repr

/-- Files and directories by the parts of their absolute paths. The root is always there. -/
structure Disk where
  nodes : List (List String × FileNode) := []
  /-- Where relative paths start. -/
  working : List String := []
  /-- Why nothing on it can be changed at present, as when it is read only. -/
  fault : Option IoError := none
deriving Repr, Inhabited

namespace Disk

def node? (d : Disk) (place : List String) : Option FileNode :=
  if place.isEmpty then some .directory else d.nodes.lookup place

def put (d : Disk) (place : List String) (node : FileNode) : Disk :=
  { d with nodes := (place, node) :: d.nodes.filter (·.1 ≠ place) }

/-- Puts something at a place, unless the disk takes no changes. -/
def change (d : Disk) (place : List String) (node : FileNode) : Except IoError Disk :=
  match d.fault with
  | some cause => .error cause
  | none => .ok (d.put place node)

/-- Takes away what stands at a place and below it. -/
def remove (d : Disk) (place : List String) : Disk :=
  { d with nodes := d.nodes.filter fun n => !place.isPrefixOf n.1 }

/-- The most bytes that a part of a path may have. -/
def maxPartSize : Nat := 255

/-- The most bytes that a path may have. -/
def maxPathSize : Nat := 4095

/-- Follows parts of a path. Every part but the last must be there. -/
def follow (d : Disk) (place : List String) : List String → Except IoError (List String)
  | [] => .ok place
  | part :: rest =>
    match d.node? place with
    | none => .error .notFound
    | some (.file _) => .error .notDirectory
    | some .directory =>
      if part = "." then d.follow place rest
      else if part = ".." then d.follow place.dropLast rest
      else if maxPartSize < part.utf8ByteSize then .error .nameTooLong
      else d.follow (place ++ [part]) rest

/-- The place that a path leads to, and what stands there. -/
def locate (d : Disk) (path : List Char) : Except IoError (List String × Option FileNode) := do
  if path.contains '\x00' then throw .nulInName
  if path.isEmpty then throw .notFound
  if maxPathSize < (String.ofList path).utf8ByteSize then throw .nameTooLong
  let place ← d.follow (if Path.isAbsolute path then [] else d.working) (Path.parts path)
  match d.node? place with
  | some (.file content) =>
    if path.getLast? = some '/' then throw .notDirectory
    pure (place, some (.file content))
  | node => pure (place, node)

/-- The bytes of a file. -/
def read (d : Disk) (path : List Char) : Except IoError (List UInt8) := do
  match (← d.locate path).2 with
  | some (.file content) => pure content
  | some .directory => throw .isDirectory
  | none => throw .notFound

/-- The file at that path has these bytes from now on. -/
def write (d : Disk) (path : List Char) (content : List UInt8) : Except IoError Disk := do
  let (place, node) ← d.locate path
  match node with
  | some .directory => throw .isDirectory
  | none =>
    if path.getLast? = some '/' then throw .isDirectory else d.change place (.file content)
  | some (.file _) => d.change place (.file content)

/-- Makes a directory and those it lies in. The first argument bounds how many are missing. -/
def createParents : Nat → Disk → List Char → Except IoError Disk
  | 0, d, _ => .ok d
  | fuel + 1, d, path =>
    if path.isEmpty then .ok d
    else
      match d.locate path with
      | .ok (_, some .directory) => .ok d
      | .ok (_, some (.file _)) => .error .fileExists
      | .ok (place, none) => d.change place .directory
      | .error .notFound =>
        match Path.parent? path with
        | none => .error .notFound
        | some above =>
          match createParents fuel d above with
          | .error e => .error e
          | .ok d =>
            match d.locate path with
            | .ok (place, none) => d.change place .directory
            | .ok _ => .ok d
            | .error e => .error e
      | .error e => .error e

end Disk

end ScpiConsole
