import NestingRules.FileTree.Access

/-!
# File trees

A `FileTree` is a file system as a value: directories, files and channels by the names on the way to
them, and the directory that relative paths begin in.  Paths are taken apart at slashes; `.` and `..`
have their usual meaning, and every other name on the way must be that of a directory.
-/

namespace NestingRules

/-- What stands at a place of a file tree. -/
inductive FileNode where
  | directory
  | file (bytes : List UInt8)
  /-- Nothing can be read from a channel, and what is written goes behind what was written before. -/
  | channel (written : List UInt8)
  deriving DecidableEq, Repr

/-- The names on the way to a place from the root, which has none. -/
abbrev PathNames := List String

/-- The places below the root, each once. -/
structure FileTree where
  nodes : List (PathNames × FileNode)
  /-- The directory that relative paths begin in. -/
  here : PathNames := []
  deriving DecidableEq, Repr, Inhabited

namespace FileTree

/-- What stands at a place below the root. -/
def node? (t : FileTree) (p : PathNames) : Option FileNode :=
  (t.nodes.find? (·.1 == p)).map (·.2)

/-- The tree with a node at a place, in place of the one that was there. -/
def setNode (t : FileTree) (p : PathNames) (n : FileNode) : FileTree :=
  if t.nodes.any (·.1 == p) then
    { t with nodes := t.nodes.map fun e => if e.1 == p then (p, n) else e }
  else { t with nodes := t.nodes ++ [(p, n)] }

/-- The tree with directories on the way to a place below `dir`, the place itself included. -/
def addDirectories (t : FileTree) (dir : PathNames) : PathNames → FileTree
  | [] => t
  | name :: names =>
    let dir := dir ++ [name]
    addDirectories (if (t.node? dir).isSome then t else t.setNode dir .directory) dir names

/-- The tree with a directory. -/
def addDirectory (t : FileTree) (p : PathNames) : FileTree := t.addDirectories [] p

/-- The tree with a file, and directories on the way to it. -/
def addFile (t : FileTree) (p : PathNames) (bytes : List UInt8) : FileTree :=
  (t.addDirectory p.dropLast).setNode p (.file bytes)

/-- The files of the tree. -/
def files (t : FileTree) : List (PathNames × List UInt8) :=
  t.nodes.filterMap fun
    | (p, .file bytes) => some (p, bytes)
    | _ => none

/-! ### Paths -/

/-- A place that a path leads to. -/
inductive Place where
  | directory
  | file (p : PathNames) (bytes : List UInt8)
  | channel (p : PathNames) (written : List UInt8)
  /-- Nothing, in a directory. -/
  | absent (p : PathNames)
  deriving DecidableEq, Repr

/-- The place that names lead to from a directory. -/
def walk (t : FileTree) : (dir names : PathNames) → Except FileError Place
  | _, [] => .ok .directory
  | dir, name :: names =>
    if name = "." then walk t dir names
    else if name = ".." then walk t dir.dropLast names
    else if 255 < name.utf8ByteSize then .error .nameTooLong
    else
      let p := dir ++ [name]
      match t.node? p, names with
      | some .directory, _ => walk t p names
      | some (.file bytes), [] => .ok (.file p bytes)
      | some (.channel written), [] => .ok (.channel p written)
      | some _, _ :: _ => .error .notADirectory
      | none, [] => .ok (.absent p)
      | none, _ :: _ => .error .notFound

/-- The names of a path. -/
def namesOf (path : String) : PathNames :=
  ((path.toList.splitOn '/').filter (!·.isEmpty)).map String.ofList

/-- The path begins at the root. -/
def isAbsolute (path : String) : Bool := path.toList.head? == some '/'

/-- The path ends with a slash and so must be that of a directory. -/
def wantsDirectory (path : String) : Bool := path.toList.getLast? == some '/'

/-- The place that a path leads to. -/
def locate (t : FileTree) (path : String) : Except FileError Place :=
  if path.toList.contains '\x00' then .error .nulInPath
  else if path.isEmpty then .error .notFound
  else if 4095 < path.utf8ByteSize then .error .nameTooLong
  else t.walk (if isAbsolute path then [] else t.here) (namesOf path)

/-! ### Operations -/

/-- Open a file and read it.  A directory can be opened, but not read. -/
def read (t : FileTree) (path : String) : Opened :=
  match t.locate path with
  | .error e => .refused e
  | .ok .directory => .unreadable .isADirectory
  | .ok (.absent _) => .refused .notFound
  | .ok (.file _ bytes) => if wantsDirectory path then .refused .notADirectory else .file bytes
  | .ok (.channel ..) => if wantsDirectory path then .refused .notADirectory else .file []

/-- Change the bytes of a file; a new file has none before.  A channel gets the bytes that a new file
would have. -/
def modify (t : FileTree) (path : String) (f : List UInt8 → List UInt8) :
    Except FileError FileTree :=
  match t.locate path with
  | .error e => .error e
  | .ok .directory => .error .isADirectory
  | .ok place =>
    if wantsDirectory path then .error .isADirectory
    else
      match place with
      | .file p bytes => .ok (t.setNode p (.file (f bytes)))
      | .channel p written => .ok (t.setNode p (.channel (written ++ f [])))
      | .absent p => .ok (t.setNode p (.file (f [])))
      | .directory => .error .isADirectory

/-- Give a file these bytes and no others. -/
def write (t : FileTree) (path : String) (bytes : List UInt8) : Except FileError FileTree :=
  t.modify path fun _ => bytes

/-- Put bytes at the end of a file. -/
def append (t : FileTree) (path : String) (bytes : List UInt8) : Except FileError FileTree :=
  t.modify path (· ++ bytes)

/-- An operation that changes the tree if it succeeds. -/
def change (f : FileTree → Except FileError FileTree) : StateM FileTree (Except FileError Unit) :=
  fun t =>
    match f t with
    | .error e => (.error e, t)
    | .ok t => (.ok (), t)

/-- The operations on a file tree as a state. -/
def access : FileAccess (StateM FileTree) where
  read path := fun t => (t.read path, t)
  write path bytes := change fun t => t.write path bytes
  append path bytes := change fun t => t.append path bytes

end FileTree

end NestingRules
