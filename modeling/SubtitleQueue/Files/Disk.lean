import SubtitleQueue.Files.Path

/-!
A disk: directories and files by path. Paths are resolved component by component from the
root, and the failures are those of a POSIX file system: a missing component, a file where a
directory is needed, a directory where a file is needed, a name that is already taken.
-/

namespace SubtitleQueue.Files

/-- What a path names. -/
inductive Node where
  | dir
  | file (data : ByteArray)

/-- Failures of file system calls, with their system error numbers. -/
inductive IoError where
  | notFound
  | exists_
  | notADirectory
  | isADirectory
  | permissionDenied
  deriving Repr, DecidableEq, Inhabited

/-- The text of a file system failure. -/
def IoError.message : IoError → String
  | .notFound => "No such file or directory (os error 2)"
  | .exists_ => "File exists (os error 17)"
  | .notADirectory => "Not a directory (os error 20)"
  | .isADirectory => "Is a directory (os error 21)"
  | .permissionDenied => "Permission denied (os error 13)"

/-- The nodes of a disk by normalized path; the root always exists. -/
structure Disk where
  nodes : List (String × Node) := []

namespace Disk

/-- The components of a path with each `..` taking away the name before it; at the root, `..`
stays at the root. -/
def settle : List String → List String → List String
  | reached, [] => reached
  | reached, ".." :: rest => settle reached.dropLast rest
  | reached, c :: rest => settle (reached ++ [c]) rest

/-- The normal spelling of a path: no empty names, no `.`, no `..`. -/
def key (p : String) : String := ofComponents (isAbsolute p) (settle [] (components p))

/-- Whether a path can only name a directory: it ends in a slash, `.` or `..`. -/
def namesDir (p : String) : Bool :=
  p.endsWith "/" || p == "." || p.endsWith "/." || p == ".." || p.endsWith "/.."

/-- The node stored under a normal spelling; the root always exists. -/
def nodeAt? (d : Disk) (k : String) : Option Node :=
  if k == "/" || k == "" then some .dir else (d.nodes.find? (·.1 == k)).map (·.2)

/-- Walks the components of a path from the components reached so far, the way the system
resolves a path: `..` goes up (the root is its own parent), and every name followed by more
components must be an existing directory. The last name need not exist. -/
def walk (d : Disk) (abs : Bool) : List String → List String → Except IoError (List String)
  | reached, [] => .ok reached
  | reached, ".." :: rest => d.walk abs reached.dropLast rest
  | reached, [c] => .ok (reached ++ [c])
  | reached, c :: rest =>
    let here := reached ++ [c]
    match d.nodeAt? (ofComponents abs here) with
    | none => .error .notFound
    | some .dir => d.walk abs here rest
    | some (.file _) => .error .notADirectory

/-- The normal spelling of the place a path leads to, when every directory on the way exists. -/
def resolve (d : Disk) (p : String) : Except IoError String := do
  let abs := isAbsolute p
  let cs ← d.walk abs [] (components p)
  return ofComponents abs cs

/-- The node at a path, when the path resolves; a path that can only name a directory names
nothing when it leads to a file. -/
def get? (d : Disk) (p : String) : Option Node :=
  match d.resolve p with
  | .error _ => none
  | .ok k =>
    match d.nodeAt? k with
    | some (.file _) => if namesDir p then none else d.nodeAt? k
    | n => n

/-- Whether a path names anything. -/
def pathExists (d : Disk) (p : String) : Bool := (d.get? p).isSome

/-- Whether a path names a directory. -/
def isDir (d : Disk) (p : String) : Bool :=
  match d.get? p with
  | some .dir => true
  | _ => false

/-- Whether a path names a file. -/
def isFile (d : Disk) (p : String) : Bool :=
  match d.get? p with
  | some (.file _) => true
  | _ => false

/-- What an existing path names: a missing place is not found, and a file reached by a path
that can only name a directory is not a directory. -/
def lookup (d : Disk) (p : String) : Except IoError Node := do
  let k ← d.resolve p
  match d.nodeAt? k with
  | none => throw .notFound
  | some .dir => pure .dir
  | some (.file data) => if namesDir p then throw .notADirectory else pure (.file data)

/-- Replaces or adds the node at a path. -/
def put (d : Disk) (p : String) (n : Node) : Disk :=
  let k := key p
  { nodes := (d.nodes.filter (·.1 != k)) ++ [(k, n)] }

/-- Removes the node at a path (and, for a directory, all beneath it). -/
def remove (d : Disk) (p : String) : Disk :=
  let k := key p
  { nodes := d.nodes.filter fun (q, _) => q != k && !q.startsWith (k ++ "/") }

/-- Makes one directory; a path that already names something is taken. -/
def mkdir (d : Disk) (p : String) : Except IoError Disk := do
  let k ← d.resolve p
  if (d.nodeAt? k).isSome then throw .exists_
  pure (d.put k .dir)

/-- Makes a directory and the missing ones above it: a directory that cannot be made because
something above it is missing is made after its parent, and one that is already a directory
is fine. At most `fuel` levels up. -/
def createDirIn : Nat → Disk → String → Except IoError Disk
  | fuel, d, p =>
    if p.isEmpty then .ok d
    else
      match d.mkdir p with
      | .ok d => .ok d
      | .error .notFound =>
        match fuel, parent p with
        | fuel + 1, some q =>
          match createDirIn fuel d q with
          | .error e => .error e
          | .ok d =>
            match d.mkdir p with
            | .ok d => .ok d
            | .error e => if d.isDir p then .ok d else .error e
        | _, _ => .error .notFound
      | .error e => if d.isDir p then .ok d else .error e

/-- Makes a directory and the missing ones above it. -/
def createDirAll (d : Disk) (p : String) : Except IoError Disk :=
  createDirIn (components p).length d p

/-- The contents of a file. -/
def read (d : Disk) (p : String) : Except IoError ByteArray := do
  match ← d.lookup p with
  | .dir => throw .isADirectory
  | .file data => pure data

/-- Writes a file, creating or truncating it. A path that can only name a directory cannot be
written: it is a directory when nothing is there, and not one when a file is. -/
def write (d : Disk) (p : String) (data : ByteArray) : Except IoError Disk := do
  let k ← d.resolve p
  match d.nodeAt? k with
  | some .dir => throw .isADirectory
  | some (.file _) => if namesDir p then throw .notADirectory else pure (d.put k (.file data))
  | none => if namesDir p then throw .isADirectory else pure (d.put k (.file data))

/-- Removes a file. -/
def removeFile (d : Disk) (p : String) : Except IoError Disk := do
  match ← d.lookup p with
  | .dir => throw .isADirectory
  | .file _ => pure (d.remove p)

/-- The size of what a path names. -/
def size (d : Disk) (p : String) : Except IoError Nat := do
  match ← d.lookup p with
  | .dir => pure 4096
  | .file data => pure data.size

/-- The names directly inside a directory, sorted. -/
def children (d : Disk) (p : String) : List String :=
  let k := key p
  let lead := if k == "/" then "/" else k ++ "/"
  let names := d.nodes.filterMap fun (q, _) =>
    if q.startsWith lead then
      let rest := (q.drop lead.length).toString
      if rest.contains '/' || rest.isEmpty then none else some rest
    else none
  names.mergeSort (fun a b => decide (a ≤ b))

/-- Writes a file after making its directory. -/
def writeMaking (d : Disk) (p : String) (data : ByteArray) : Except IoError Disk := do
  let d ← match parent p with
    | some q => d.createDirAll q
    | none => pure d
  d.write p data

/-- The files under a directory (at any depth) with their contents. -/
def filesUnder (d : Disk) (p : String) : List (String × ByteArray) :=
  let lead := key p ++ "/"
  d.nodes.filterMap fun (q, n) =>
    match n with
    | .file data => if q.startsWith lead then some (q, data) else none
    | .dir => none

/-- The canonical spelling of an existing path: `.` and `..` resolved, every component
existing, every one before the last a directory. The empty path names nothing, and a path
ending in a slash must name a directory. -/
def canonical (d : Disk) (p : String) : Except IoError String := do
  if p.isEmpty then throw .notFound
  let k ← d.resolve p
  let _ ← d.lookup p
  return k

end Disk

end SubtitleQueue.Files
