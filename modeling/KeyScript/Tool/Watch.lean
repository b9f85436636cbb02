import KeyScript.Script.Result
import KeyScript.Sketch.Basic
import KeyScript.Tool.Host
import KeyScript.Tool.Path

/-!
# Watching a script

The sketch of a script is built once and then again whenever the script changes. What is watched
is the directory of the script, so that a file that takes the place of the script counts as a
change.

## Main definitions

- `WatchJob` — a script, the file of its sketch and the target
- `WatchJob.build` — builds the sketch
- `FileEvent`, `WatchJob.rebuildsOn` — the changes that count
- `WatchJob.follow` — what comes of a change
-/

namespace KeyScript

/-- A script that is watched, with the file and the target of its sketch. -/
structure WatchJob where
  script : Bytes
  sketch : Bytes
  target : Target := {}
deriving DecidableEq, Repr, Inhabited

/-- The name of a sketch in a directory. -/
def defaultSketchName : Bytes := "duckify_plus.ino"

/-- What came of a build: the result of the script, and why the sketch was not written. -/
structure Build where
  result : Result := {}
  error : Option FileError := none
deriving DecidableEq, Repr, Inhabited

/-- Builds the sketch. -/
def WatchJob.build {m : Type → Type} [Monad m] (job : WatchJob) (host : Host m) : m Build := do
  match ← host.readFile job.script with
  | .error e => return { error := some e }
  | .ok text =>
    let result := parse text
    match ← host.writeFile job.sketch (Sketch.generate result.commands job.target) with
    | .error e => return { result, error := some e }
    | .ok () => return { result }

/-- How a file changed. -/
inductive FileChange where
  | created
  | written
  | removed
deriving DecidableEq, Repr, Inhabited

/-- A change of a file in the directory that is watched. -/
structure FileEvent where
  path : Bytes
  change : FileChange
deriving DecidableEq, Repr, Inhabited

/-- The directory that is watched. -/
def WatchJob.directory (job : WatchJob) : Bytes := Path.parent job.script

/-- Whether a change makes a new build necessary. -/
def WatchJob.rebuildsOn (job : WatchJob) (e : FileEvent) : Bool :=
  Path.clean e.path == Path.clean job.script && e.change ≠ .removed

/-- What comes of a change: a build, if the change makes one necessary. -/
def WatchJob.follow {m : Type → Type} [Monad m] (job : WatchJob) (host : Host m) (e : FileEvent) :
    m (Option Build) :=
  if job.rebuildsOn e then some <$> job.build host else pure none

/-- The problem of a directory that cannot be watched, if there is one. -/
def WatchJob.problem? {m : Type → Type} (job : WatchJob) (host : Host m) : m (Option FileProblem) :=
  host.missing? job.directory

end KeyScript
