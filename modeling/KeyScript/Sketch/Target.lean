import KeyScript.Text.Quoted

/-!
# Targets

The keyboard layout of the host and the board that runs the sketch. Names come from outside, so a
target holds them as they are, and validation says whether they are known. Neither changes the
sketch.

## Main definitions

- `Layout`, `Board` — the known layouts and boards
- `TargetError` — an unknown name
- `Target` — the two names
- `Target.validate` — the first unknown name, if any
-/

namespace KeyScript

/-- A known keyboard layout. -/
inductive Layout where
  | us
  | de
  | uk
deriving DecidableEq, Repr, Inhabited

namespace Layout

/-- The known layouts. -/
def all : List Layout := [us, de, uk]

/-- The name of a layout. -/
def name : Layout → Bytes
  | us => "us"
  | de => "de"
  | uk => "uk"

end Layout

/-- A known board. -/
inductive Board where
  | leonardo
  | duemilanove
  | proMicro
deriving DecidableEq, Repr, Inhabited

namespace Board

/-- The known boards. -/
def all : List Board := [leonardo, duemilanove, proMicro]

/-- The name of a board. -/
def name : Board → Bytes
  | leonardo => "leonardo"
  | duemilanove => "duemilanove"
  | proMicro => "proMicro"

end Board

/-- A name that is not known. -/
inductive TargetError where
  | unknownLayout (name : Bytes)
  | unknownBoard (name : Bytes)
deriving DecidableEq, Repr, Inhabited

/-- The message for an unknown name, with the names that are known. -/
def TargetError.message : TargetError → Bytes
  | unknownLayout name =>
    "unknown keyboard layout " ++ Quoted.text name ++ " (want one of [" ++
      Bytes.joinWith " " (Layout.all.map Layout.name) ++ "])"
  | unknownBoard name =>
    "unknown board " ++ Quoted.text name ++ " (want one of [" ++
      Bytes.joinWith " " (Board.all.map Board.name) ++ "])"

/-- The layout with a given name. -/
def Layout.ofName (name : Bytes) : Except TargetError Layout :=
  match all.find? fun l => l.name == name with
  | some l => .ok l
  | none => .error (.unknownLayout name)

/-- The board with a given name. -/
def Board.ofName (name : Bytes) : Except TargetError Board :=
  match all.find? fun b => b.name == name with
  | some b => .ok b
  | none => .error (.unknownBoard name)

/-- The names of a layout and a board, known or not. -/
structure Target where
  layout : Bytes := Layout.us.name
  board : Bytes := Board.leonardo.name
deriving DecidableEq, Repr, Inhabited

/-- Accepts a target if both names are known, and otherwise reports the first that is not. -/
def Target.validate (t : Target) : Except TargetError Unit := do
  let _ ← Layout.ofName t.layout
  let _ ← Board.ofName t.board
  return ()

end KeyScript
