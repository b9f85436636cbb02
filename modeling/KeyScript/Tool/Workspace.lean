import KeyScript.Tool.Host
import KeyScript.Tool.Path

/-!
# Workspaces

A workspace is a directory held in memory, with an input and two outputs. Paths are followed name
by name, so that a path leads to nothing if a directory on the way is missing, even if the path
would come back from there. Names and paths have a greatest length.

## Main definitions

- `FileTree` — directories and files
- `FileTree.resolve` — where a path leads
- `Workspace` — a directory with an input and two outputs
- `Workspace.host` — the host that works on a workspace
-/

namespace KeyScript

/-- Directories and files, under the names that lead to them. The top directory is always there. -/
structure FileTree where
  directories : List (List Bytes) := []
  files : List (List Bytes × Bytes) := []
deriving DecidableEq, Repr, Inhabited

namespace FileTree

/-- The name that leads to the directory above. -/
def above : Bytes := ".."

/-- The name of the root of all directories. -/
def root : Bytes := "/"

/-- Whether some names lead to a directory. The directories above the top and the root are there,
too, but nothing in them is known. -/
def isDirectory (t : FileTree) (names : List Bytes) : Bool :=
  names.all (· == above) || names == [root] || t.directories.contains names

/-- The text of a file. -/
def file? (t : FileTree) (names : List Bytes) : Option Bytes := t.files.lookup names

/-- The names that lead one directory up. -/
def goUp (here : List Bytes) : List Bytes :=
  if here.all (· == above) then here ++ [above]
  else if here == [root] then here
  else here.dropLast

/-- The greatest number of bytes in a name. -/
def maxNameLength : Nat := 255

/-- The number of bytes that a path stays below. -/
def maxPathLength : Nat := 4096

/-- Where names lead from a directory, if there is a directory under each name but the last. -/
def walk (t : FileTree) : (here : List Bytes) → List Bytes → Except FileProblem (List Bytes)
  | here, [] => .ok here
  | here, name :: rest =>
    if !t.isDirectory here then .error (if (t.file? here).isSome then .notDirectory else .notFound)
    else if name = [] || name = "." then t.walk here rest
    else if name = above then t.walk (goUp here) rest
    else if name.length > maxNameLength then .error .nameTooLong
    else t.walk (here ++ [name]) rest

/-- Where the names of a path lead. -/
def follow (t : FileTree) (path : Bytes) (names : List Bytes) :
    Except FileProblem (List Bytes) :=
  if path.contains 0 then .error .invalidPath
  else if path = [] then .error .notFound
  else if path.length ≥ maxPathLength then .error .nameTooLong
  else t.walk (if path.head? = some Path.slash then [root] else []) names

/-- Where a path leads. -/
def resolve (t : FileTree) (path : Bytes) : Except FileProblem (List Bytes) :=
  t.follow path (path.splitAt Path.slash)

/-- Reads a file. -/
def read (t : FileTree) (path : Bytes) : Except FileError Bytes :=
  match t.resolve path with
  | .error problem => .error ⟨"open", path, problem⟩
  | .ok names =>
    if t.isDirectory names then .error ⟨"read", path, .isDirectory⟩
    else match t.file? names with
      | some text => .ok text
      | none => .error ⟨"open", path, .notFound⟩

/-- Where a path leads to which a file is written. Behind the name of a file there is no slash. -/
def resolveNew (t : FileTree) (path : Bytes) : Except FileProblem (List Bytes) := do
  let names := path.splitAt Path.slash
  let behind := names.reverse.dropWhile (· == [])
  let isNew := behind.head?.any fun name => name != [46] && name != above
  if path.getLast? = some Path.slash && isNew then
    let _ ← t.follow path ((behind.drop 1).reverse ++ [[]])
    .error .isDirectory
  else
    let found ← t.resolve path
    if t.isDirectory found then .error .isDirectory else return found

/-- Writes a file. -/
def write (t : FileTree) (path text : Bytes) : Except FileError FileTree :=
  match t.resolveNew path with
  | .error problem => .error ⟨"open", path, problem⟩
  | .ok names =>
    .ok { t with files := (names, text) :: t.files.filter fun f => f.1 != names }

/-- Removes a file. -/
def remove (t : FileTree) (path : Bytes) : FileTree :=
  match t.resolve path with
  | .error _ => t
  | .ok names => { t with files := t.files.filter fun f => f.1 != names }

/-- Adds a directory and the directories on the way to it. -/
def addDirectory (t : FileTree) (names : List Bytes) : FileTree :=
  let onTheWay := (List.range names.length).map fun n => names.take (n + 1)
  { t with directories := onTheWay ++ t.directories }

/-- A tree with given directories and files. -/
def ofLists (directories : List Bytes) (files : List (Bytes × Bytes)) : FileTree :=
  let names := fun path : Bytes => Path.cleanNames false [] (path.splitAt Path.slash)
  let start : FileTree := { files := files.map fun (path, text) => (names path, text) }
  let all := directories.map names ++ start.files.map fun f => f.1.dropLast
  all.foldl addDirectory start

end FileTree

/-- A directory with an input and two outputs. -/
structure Workspace where
  tree : FileTree := {}
  input : Bytes := []
  output : Bytes := []
  errors : Bytes := []
deriving DecidableEq, Repr, Inhabited

namespace Workspace

/-- The problem of a path that leads to nothing in a workspace. -/
def problemOf? (w : Workspace) (path : Bytes) : Option FileProblem :=
  match w.tree.resolve path with
  | .error problem => some problem
  | .ok names =>
    if w.tree.isDirectory names || (w.tree.file? names).isSome then none else some .notFound

/-- The host that works on a workspace. -/
def host : Host (StateM Workspace) where
  readFile path := do return (← get).tree.read path
  writeFile path text := do
    match (← get).tree.write path text with
    | .error e => return .error e
    | .ok tree =>
      modify fun w => { w with tree }
      return .ok ()
  isDirectory path := do
    let w ← get
    match w.tree.resolve path with
    | .error _ => return false
    | .ok names => return w.tree.isDirectory names
  missing? path := do return (← get).problemOf? path
  readInput := do
    let w ← get
    set { w with input := [] }
    return w.input
  writeOutput text := modify fun w => { w with output := w.output ++ text }
  writeError text := modify fun w => { w with errors := w.errors ++ text }

/-- The files of a workspace that are new or differ from those of another, under their paths. -/
def changedFiles (w before : Workspace) : List (Bytes × Bytes) :=
  let inside := w.tree.files.filter fun f => f.1.head?.all (· != FileTree.above)
  (inside.filter fun f => before.tree.file? f.1 != some f.2).map fun f =>
    (Bytes.joinWith "/" f.1, f.2)

end Workspace

end KeyScript
