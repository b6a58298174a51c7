import ClusterTriage.Files.Basic
import ClusterTriage.Files.Path

/-!
# File trees as values

A `FileTree` is a finite map from places to files and directories, and a working directory. It
answers every request of `MonadFiles` as a Unix file system without links does, in any monad that
holds one as its state.
-/

namespace ClusterTriage

/-- What stands at a place. A file keeps its permissions as an octal mode. -/
inductive FileNode where
  | file (bytes : List UInt8) (mode : Nat)
  | directory
deriving DecidableEq, Repr

/-- The names from the root down to a place. -/
abbrev Place := List String

/-- The places in use, each once, and where relative paths start. The root is a directory without
being listed. -/
structure FileTree where
  entries : List (Place × FileNode) := []
  working : Place := []
deriving DecidableEq, Repr

namespace FileTree

/-! ## 1. The map -/

def find? (t : FileTree) (place : Place) : Option FileNode :=
  if place = [] then some .directory else t.entries.lookup place

/-- Puts a node at a place, whatever stood there. -/
def insert (t : FileTree) (place : Place) (node : FileNode) : FileTree :=
  if t.entries.any (·.1 == place) then
    { t with entries := t.entries.map fun e => if e.1 == place then (place, node) else e }
  else { t with entries := t.entries ++ [(place, node)] }

/-! ## 2. From paths to places -/

/-- Follows names from a place. Every name but the last is looked up in a directory. -/
def follow (t : FileTree) (here : Place) : List String → Except FileError Place
  | [] => .ok here
  | name :: rest =>
    match t.find? here with
    | none => .error .notFound
    | some (.file ..) => .error .notDirectory
    | some .directory =>
      if name = "." then t.follow here rest
      else if name = ".." then t.follow here.dropLast rest
      else if 255 < name.utf8ByteSize then .error .nameTooLong
      else t.follow (here ++ [name]) rest

def start (t : FileTree) (path : String) : Place :=
  if Path.isAbsolute path then [] else t.working

/-- The place a path leads to. A slash at the end asks for a directory. -/
def locate (t : FileTree) (path : String) : Except FileError Place :=
  if path = "" then .error .notFound
  else if path.toList.contains '\x00' then .error .nulInName
  else if 4095 < path.utf8ByteSize then .error .nameTooLong
  else
    let names := Path.names path
    t.follow (t.start path) (if Path.namesDirectory path then names ++ ["."] else names)

/-- The node a path leads to. -/
def nodeAt (t : FileTree) (path : String) : Except FileError FileNode := do
  match t.find? (← t.locate path) with
  | some node => .ok node
  | none => .error .notFound

/-! ## 3. The requests -/

def kind? (t : FileTree) (path : String) : Option FileKind :=
  match t.nodeAt path with
  | .ok (.file ..) => some .regular
  | .ok .directory => some .directory
  | .error _ => none

def readBytes (t : FileTree) (path : String) : Except FileError (List UInt8) := do
  match ← t.nodeAt path with
  | .file bytes _ => .ok bytes
  | .directory => .error .isDirectory

/-- The place where a file is to be written. The directory above it has to stand, and a path that
asks for a directory names no file. -/
def target (t : FileTree) (path : String) : Except FileError Place := do
  if Path.namesDirectory path then
    let _ ← t.locate (String.ofList (path.toList.reverse.dropWhile (· == '/')).reverse)
    .error .isDirectory
  else t.locate path

/-- Writes a file. A new file may be read by everyone; an old one keeps its permissions. -/
def writeBytes (t : FileTree) (path : String) (bytes : List UInt8) :
    Except FileError FileTree := do
  let place ← t.target path
  match t.find? place with
  | some .directory => .error .isDirectory
  | some (.file _ mode) => .ok (t.insert place (.file bytes mode))
  | none => .ok (t.insert place (.file bytes 0o644))

def makeDirectory (t : FileTree) (path : String) : Except FileError FileTree := do
  let bare := String.ofList (path.toList.reverse.dropWhile (· == '/')).reverse
  let place ← t.locate (if bare = "" then path else bare)
  match t.find? place with
  | some _ => .error .alreadyExists
  | none => .ok (t.insert place .directory)

def restrictToOwner (t : FileTree) (path : String) : Except FileError FileTree := do
  let place ← t.locate path
  match t.find? place with
  | some (.file bytes _) => .ok (t.insert place (.file bytes 0o600))
  | some .directory => .ok t
  | none => .error .notFound

/-! ## 4. Setting up a tree -/

/-- Makes sure that every place above and at `place` is a directory. -/
def withDirectory (t : FileTree) (place : Place) : FileTree :=
  ((List.range place.length).map fun n => place.take (n + 1)).foldl
    (fun t p => if (t.find? p).isSome then t else t.insert p .directory) t

def withFile (t : FileTree) (place : Place) (bytes : List UInt8) : FileTree :=
  (t.withDirectory place.dropLast).insert place (.file bytes 0o644)

def list (t : FileTree) (place : Place) : List String :=
  t.entries.filterMap fun (p, _) =>
    match p.getLast? with
    | some name => if p.dropLast = place then some name else none
    | none => none

end FileTree

/-- Applies a request that changes the tree, and keeps the tree if it fails. -/
def FileTree.update {m : Type → Type} [Monad m] [MonadStateOf FileTree m]
    (request : FileTree → Except FileError FileTree) : m (Except FileError Unit) := do
  match request (← get) with
  | .ok t => set t; return .ok ()
  | .error e => return .error e

instance {m : Type → Type} [Monad m] [MonadStateOf FileTree m] : MonadFiles m where
  kind? path := return (← getThe FileTree).kind? path
  readBytes path := return (← getThe FileTree).readBytes path
  writeBytes path bytes := FileTree.update (·.writeBytes path bytes)
  makeDirectory path := FileTree.update (·.makeDirectory path)
  restrictToOwner path := FileTree.update (·.restrictToOwner path)

end ClusterTriage
