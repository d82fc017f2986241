import SlashDoc.Text.Quoted

/-!
Paths and the files they lead to. A path in normal form has what stands before its first name, and
its names; a double dot is kept, because what it means depends on the files. In a tree of
directories and files a path is followed name by name, so that a file cannot be passed through like
a directory.
-/

namespace SlashDoc

open Text

/-- Where a path starts. A path that starts with exactly two slashes is kept apart from an absolute
one. -/
inductive Anchor where
  | relative
  | root
  | doubleRoot
  deriving DecidableEq, Repr

namespace Anchor

def ofText : Text → Anchor
  | '/' :: '/' :: '/' :: _ => .root
  | '/' :: '/' :: _ => .doubleRoot
  | '/' :: _ => .root
  | _ => .relative

def toText : Anchor → Text
  | .relative => []
  | .root => ['/']
  | .doubleRoot => ['/', '/']

end Anchor

structure Path where
  anchor : Anchor
  names : List Text
  deriving DecidableEq, Repr

namespace Path

def isName (piece : Text) : Bool :=
  piece != [] && piece != ['.']

def ofText (text : Text) : Path :=
  ⟨Anchor.ofText text, (splitOn '/' text).filter isName⟩

def toText (path : Path) : Text :=
  match path.anchor.toText ++ List.intercalate ['/'] path.names with
  | [] => ['.']
  | text => text

def name (path : Path) : Text :=
  path.names.getLastD []

def parent (path : Path) : Path :=
  { path with names := path.names.dropLast }

end Path

inductive Base where
  | current
  | above (levels : Nat)
  | root
  deriving DecidableEq, Repr

structure Place where
  base : Base
  names : List Text
  deriving DecidableEq, Repr

def Place.up (place : Place) : Place :=
  match place.names, place.base with
  | [], .current => ⟨.above 1, []⟩
  | [], .above levels => ⟨.above (levels + 1), []⟩
  | [], .root => place
  | names, base => ⟨base, names.dropLast⟩

def Place.ofPath (path : Path) : Place :=
  let start : Place := ⟨if path.anchor = .relative then .current else .root, []⟩
  path.names.foldl
    (fun place name => if name = "..".toList then place.up else ⟨place.base, place.names ++ [name]⟩)
    start

/-- What can stand at a place. A locked file is there, but may not be opened. -/
inductive Node where
  | directory
  | file (bytes : List UInt8)
  | locked
  deriving DecidableEq, Repr

inductive PathFault where
  | notFound
  | notDirectory
  | isDirectory
  | nameTooLong
  | denied
  deriving DecidableEq, Repr

def PathFault.message (fault : PathFault) (path : Text) : Text :=
  let words :=
    match fault with
    | notFound => "[Errno 2] No such file or directory: "
    | denied => "[Errno 13] Permission denied: "
    | notDirectory => "[Errno 20] Not a directory: "
    | isDirectory => "[Errno 21] Is a directory: "
    | nameTooLong => "[Errno 36] File name too long: "
  words.toList ++ quoted path

def pathBytes (text : Text) : Nat :=
  text.foldl (fun n c => n + c.utf8Size) 0

def longestName : Nat := 255

def longestPath : Nat := 4095

/-- A tree of files. The first entry of a place counts, and the bases are always there. -/
structure FileTree where
  entries : List (Place × Node) := []
  deriving DecidableEq, Repr

/-- How a disk takes the bytes that are written to an open file: all of them, or only so many, with
the message of the error that breaks off the writing. -/
structure Disk where
  breaksOff : (path : Text) → (bytes : List UInt8) → Option (Nat × Text)

def Disk.ample : Disk := ⟨fun _ _ => none⟩

inductive WriteFault where
  | path (fault : PathFault)
  | brokenOff (message : Text)
  deriving DecidableEq, Repr

def WriteFault.message (given : Text) : WriteFault → Text
  | path fault => fault.message given
  | brokenOff message => message

structure Writing where
  tree : FileTree
  stored : Option (List UInt8) := none
  fault : Option WriteFault := none
  deriving DecidableEq, Repr

namespace FileTree

def node? (tree : FileTree) (place : Place) : Option Node :=
  match place.names with
  | [] => some .directory
  | _ => tree.entries.lookup place

/-- Follows the pieces of a path from a place. Every piece needs a directory to start from. -/
def follow (tree : FileTree) : Place → List Text → Except PathFault Place
  | place, [] => .ok place
  | place, piece :: rest =>
    match tree.node? place with
    | none => .error .notFound
    | some (.file _) | some .locked => .error .notDirectory
    | some .directory =>
      if piece = "..".toList then follow tree place.up rest
      else if longestName < pathBytes piece then .error .nameTooLong
      else if Path.isName piece then follow tree ⟨place.base, place.names ++ [piece]⟩ rest
      else follow tree place rest

def resolve (tree : FileTree) (path : Text) : Except PathFault Place :=
  if longestPath < pathBytes path then .error .nameTooLong
  else
    match path with
    | [] => .error .notFound
    | '/' :: rest => tree.follow ⟨.root, []⟩ (splitOn '/' rest)
    | _ => tree.follow ⟨.current, []⟩ (splitOn '/' path)

def read (tree : FileTree) (path : Text) : Except PathFault (List UInt8) := do
  let place ← tree.resolve path
  match tree.node? place with
  | none => .error .notFound
  | some .directory => .error .isDirectory
  | some .locked => .error .denied
  | some (.file bytes) => .ok bytes

/-- The place of the file that a path leads to, if it may be opened for writing. The file need not
be there. -/
def writable (tree : FileTree) (path : Text) : Except PathFault Place := do
  let place ← tree.resolve path
  match tree.node? place with
  | some .directory => .error .isDirectory
  | some .locked => .error .denied
  | _ => .ok place

def put (tree : FileTree) (place : Place) (bytes : List UInt8) : FileTree :=
  ⟨(place, .file bytes) :: tree.entries⟩

/-- Writes the file that a path leads to. Opening it takes away what it held, so a write that breaks
off leaves the first of the new bytes behind. -/
def write (tree : FileTree) (disk : Disk) (path : Text) (bytes : List UInt8) : Writing :=
  match tree.writable path with
  | .error fault => { tree, fault := some (.path fault) }
  | .ok place =>
    match disk.breaksOff path bytes with
    | none => { tree := tree.put place bytes, stored := some bytes }
    | some (count, message) =>
      { tree := tree.put place (bytes.take count)
        stored := some (bytes.take count)
        fault := some (.brokenOff message) }

end FileTree

end SlashDoc
