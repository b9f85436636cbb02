import KeyScript.Text.Bytes

/-!
# Hosts

A host is what a task works on: files, an input and two outputs. A task is written for any host,
so that it can run on files held in memory as well as on those of a machine.

## Main definitions

- `FileError` — why a file cannot be used
- `Host` — the operations of a host
-/

namespace KeyScript

/-- Why a file cannot be used. -/
inductive FileProblem where
  | notFound
  | isDirectory
  | notDirectory
  /-- A name or a whole path is too long. -/
  | nameTooLong
  /-- A path has a byte that no path can have. -/
  | invalidPath
  | other (text : Bytes)
deriving DecidableEq, Repr, Inhabited

/-- The wording of a problem. -/
def FileProblem.message : FileProblem → Bytes
  | notFound => "no such file or directory"
  | isDirectory => "is a directory"
  | notDirectory => "not a directory"
  | nameTooLong => "file name too long"
  | invalidPath => "invalid argument"
  | other text => text

/-- An operation on a file that failed. -/
structure FileError where
  operation : Bytes
  path : Bytes
  problem : FileProblem
deriving DecidableEq, Repr, Inhabited

/-- The wording of an error. -/
def FileError.message (e : FileError) : Bytes :=
  e.operation ++ " " ++ e.path ++ ": " ++ e.problem.message

/-- The operations of a host. -/
structure Host (m : Type → Type) where
  readFile : Bytes → m (Except FileError Bytes)
  writeFile : Bytes → Bytes → m (Except FileError Unit)
  /-- Whether a path leads to a directory. -/
  isDirectory : Bytes → m Bool
  /-- The problem of a path that leads to nothing. -/
  missing? : Bytes → m (Option FileProblem)
  /-- The whole standard input. -/
  readInput : m Bytes
  writeOutput : Bytes → m Unit
  writeError : Bytes → m Unit

end KeyScript
