import KeyScript.Text.Bytes

/-!
# Paths

Paths are names with slashes between them. They are brought into a shortest form by looking at the
names only.

## Main definitions

- `Path.clean` — the shortest form of a path
- `Path.parent` — the directory of a file
- `Path.join` — a name in a directory
-/

namespace KeyScript.Path

/-- The slash between names. -/
def slash : UInt8 := 47

/-- The names of a path in its shortest form, behind those in `done`, latest first. In a path from
the root nothing is above the first name. -/
def cleanNames (fromRoot : Bool) : (done : List Bytes) → List Bytes → List Bytes
  | done, [] => done.reverse
  | done, name :: rest =>
    if name = [] || name = "." then cleanNames fromRoot done rest
    else if name = ".." then
      match done with
      | [] => cleanNames fromRoot (if fromRoot then [] else [name]) rest
      | last :: before =>
        if last = ".." then cleanNames fromRoot (name :: done) rest
        else cleanNames fromRoot before rest
    else cleanNames fromRoot (name :: done) rest

/-- The shortest form of a path. -/
def clean (path : Bytes) : Bytes :=
  let fromRoot := path.head? == some slash
  let names := Bytes.joinWith "/" (cleanNames fromRoot [] (path.splitAt slash))
  if fromRoot then slash :: names else if names = [] then "." else names

/-- The shortest form of the directory of a file. -/
def parent (path : Bytes) : Bytes :=
  let names := path.splitAt slash
  let above := Bytes.joinWith "/" names.dropLast
  clean (if names.length > 1 then above ++ "/" else above)

/-- The last name of a path. -/
def lastName (path : Bytes) : Bytes := (path.splitAt slash).getLast?.getD []

/-- The shortest form of a name in a directory. -/
def join (directory name : Bytes) : Bytes :=
  if directory = [] then clean name else clean (directory ++ "/" ++ name)

end KeyScript.Path
