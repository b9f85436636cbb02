import KeyScript.Text.Rune

/-!
# Content that is not markup

The content of some elements is plain text up to their end tag. In a script the end tag may be
hidden: inside a comment, a start tag of a script makes the next end tag a part of the content.

## Main definitions

- `beginsEndTag` — whether an end tag of an element begins here
- `cutContent` — the content of an element, and what follows from its end tag on
- `cutScript` — the content of a script, and what follows from its end tag on
-/

namespace KeyScript.Markup

/-- White space between the parts of a tag. -/
def isTagSpace (b : UInt8) : Bool := b == 32 || b == 10 || b == 13 || b == 9 || b == 12

/-- Whether a byte is a letter. -/
def isLetter (b : UInt8) : Bool := (97 ≤ b && b ≤ 122) || (65 ≤ b && b ≤ 90)

/-- A byte with an ASCII capital letter made small. -/
def lowerByte (b : UInt8) : UInt8 := if 65 ≤ b && b ≤ 90 then b + 32 else b

/-- A byte string with ASCII capital letters made small. -/
def lowerBytes (s : Bytes) : Bytes := s.map lowerByte

/-- Whether a text begins with the name of an element, with something behind it that ends the
name. -/
def beginsName (name s : Bytes) : Bool :=
  lowerBytes (s.take name.length) == name &&
    ((s.drop name.length).head?.any fun b => isTagSpace b || b == 47 || b == 62)

/-- Whether an end tag of an element begins at the start of a text. -/
def beginsEndTag (name s : Bytes) : Bool := s.startsWith "</" && beginsName name (s.drop 2)

/-- The content of an element that is not markup, and what follows from its end tag on. -/
def cutContent (name : Bytes) : Bytes → Bytes × Bytes
  | [] => ([], [])
  | b :: s =>
    if beginsEndTag name (b :: s) then ([], b :: s)
    else
      let (content, after) := cutContent name s
      (b :: content, after)

/-- How far the content of a script is inside a comment. -/
inductive ScriptState where
  | plain
  /-- Inside a comment, behind some hyphens. -/
  | comment (hyphens : Nat)
  /-- Inside a script that is inside a comment, behind some hyphens. -/
  | nested (hyphens : Nat)
deriving DecidableEq, Repr, Inhabited

/-- The name of the element that holds a script. -/
def scriptName : Bytes := "script"

/-- The state behind the first of the bytes that begin a text, together with the number of bytes
behind it that are passed over; nothing if the content ends here. -/
def ScriptState.next (state : ScriptState) (b : UInt8) (s : Bytes) : Option (ScriptState × Nat) :=
  match state with
  | plain =>
    if b ≠ 60 then some (plain, 0)
    else if beginsEndTag scriptName (b :: s) then none
    else if s.startsWith "!--" then some (comment 2, 3)
    else some (plain, 0)
  | comment hyphens =>
    if b = 45 then some (comment (hyphens + 1), 0)
    else if b = 62 then some (if hyphens ≥ 2 then plain else comment 0, 0)
    else if b ≠ 60 then some (comment 0, 0)
    else if beginsEndTag scriptName (b :: s) then none
    else if beginsName scriptName s then some (nested 0, scriptName.length + 1)
    else match s with
      | c :: _ => some (if c = 47 || isLetter c then comment 0 else plain, 0)
      | [] => some (plain, 0)
  | nested hyphens =>
    if b = 45 then some (nested (hyphens + 1), 0)
    else if b = 62 then some (if hyphens ≥ 2 then plain else nested 0, 0)
    else if beginsEndTag scriptName (b :: s) then some (comment 0, scriptName.length + 2)
    else some (nested 0, 0)

/-- The content of a script in some state, and what follows from its end tag on; `skip` bytes are
passed over. -/
def cutScriptFrom : (skip : Nat) → ScriptState → Bytes → Bytes × Bytes
  | _, _, [] => ([], [])
  | skip + 1, state, b :: s =>
    let (content, after) := cutScriptFrom skip state s
    (b :: content, after)
  | 0, state, b :: s =>
    match state.next b s with
    | none => ([], b :: s)
    | some (next, skip) =>
      let (content, after) := cutScriptFrom skip next s
      (b :: content, after)

/-- The content of a script, and what follows from its end tag on. -/
def cutScript (s : Bytes) : Bytes × Bytes := cutScriptFrom 0 .plain s

end KeyScript.Markup
