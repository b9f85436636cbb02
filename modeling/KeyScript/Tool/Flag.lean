import KeyScript.Text.Quoted

/-!
# Flags

Flags stand in front of the other arguments. A flag begins with one or two hyphens; its value
follows an equals sign or is the next argument. A switch is a flag whose value is a truth value,
which can only follow an equals sign.

## Main definitions

- `Flag` — a flag that may be given
- `FlagError` — what is wrong with the flags that are given
- `readFlags` — the flags at the start of a list of arguments
- `GivenFlags.value?` — the value of a flag
-/

namespace KeyScript

/-- A flag that may be given. -/
structure Flag where
  /-- The names, of which only one may be used. -/
  names : List Bytes
  isSwitch : Bool := false
  isRequired : Bool := false
  /-- The environment variable that stands for the flag, if there is one. -/
  environmentName : Option Bytes := none
deriving DecidableEq, Repr, Inhabited

/-- The flags that are given, under the names that are used, with their values. -/
abbrev GivenFlags := List (Bytes × Bytes)

/-- What is wrong with the flags that are given. -/
inductive FlagError where
  | badForm (argument : Bytes)
  | unknown (name : Bytes)
  | noValue (name : Bytes)
  | badSwitch (name value : Bytes)
  | twoForms (name first : Bytes)
  | missing (name : Bytes)
deriving DecidableEq, Repr, Inhabited

/-- The wording of an error. -/
def FlagError.message : FlagError → Bytes
  | badForm argument => "bad flag syntax: " ++ argument
  | unknown name => "flag provided but not defined: -" ++ name
  | noValue name => "flag needs an argument: -" ++ name
  | badSwitch name value =>
    "invalid boolean value " ++ Quoted.text value ++ " for -" ++ name ++ ": parse error"
  | twoForms name first => "Cannot use two forms of the same flag: " ++ name ++ " " ++ first
  | missing name => "Required flag \"" ++ name ++ "\" not set"

/-- The truth value that a text stands for. -/
def readSwitch? (s : Bytes) : Option Bool :=
  if s.isOneOf ["1", "t", "T", "TRUE", "true", "True"] then some true
  else if s.isOneOf ["0", "f", "F", "FALSE", "false", "False"] then some false
  else none

/-- What an argument is. -/
inductive ArgumentForm where
  | plain
  /-- The mark behind which no flags follow. -/
  | endMark
  | badFlag
  | flag (name : Bytes) (value : Option Bytes)
deriving DecidableEq, Repr, Inhabited

/-- The part of a flag behind its hyphens: a name, and a value if there is an equals sign behind the
first byte. -/
def splitFlag : Bytes → ArgumentForm
  | [] => .badFlag
  | b :: rest =>
    if b = 45 || b = 61 then .badFlag
    else
      let (name, value) := Bytes.cut 61 rest
      .flag (b :: name) value

/-- What an argument is. -/
def argumentForm : Bytes → ArgumentForm
  | [45, 45] => .endMark
  | 45 :: 45 :: rest => splitFlag rest
  | 45 :: b :: rest => splitFlag (b :: rest)
  | _ => .plain

/-- The flags at the start of a list of arguments, behind those in `done`, latest first, and the
other arguments. -/
def readFlagsFrom (flags : List Flag) :
    (done : GivenFlags) → List Bytes → Except FlagError (GivenFlags × List Bytes)
  | done, [] => .ok (done.reverse, [])
  | done, argument :: rest =>
    match argumentForm argument with
    | .plain => .ok (done.reverse, argument :: rest)
    | .endMark => .ok (done.reverse, rest)
    | .badFlag => .error (.badForm argument)
    | .flag name value =>
      match flags.find? fun f => f.names.contains name with
      | none => .error (.unknown name)
      | some f =>
        if f.isSwitch then
          let given := value.getD "true"
          if (readSwitch? given).isSome then readFlagsFrom flags ((name, given) :: done) rest
          else .error (.badSwitch name given)
        else match value with
          | some v => readFlagsFrom flags ((name, v) :: done) rest
          | none =>
            match rest with
            | v :: more => readFlagsFrom flags ((name, v) :: done) more
            | [] => .error (.noValue name)

/-- The names of a flag that are used. -/
def Flag.usedNames (f : Flag) (given : GivenFlags) : List Bytes :=
  f.names.filter fun name => given.any fun g => g.1 == name

/-- The value of a flag; the last one counts. -/
def GivenFlags.value? (given : GivenFlags) (f : Flag) : Option Bytes :=
  (given.filter fun g => f.names.contains g.1).getLast?.map Prod.snd

/-- Whether a switch is given and on. -/
def GivenFlags.isOn (given : GivenFlags) (f : Flag) : Bool :=
  ((given.value? f).bind readSwitch?).getD false

/-- The first flag of which two names are used, if there is one. -/
def twoForms? (flags : List Flag) (given : GivenFlags) : Option FlagError :=
  flags.findSome? fun f =>
    match f.usedNames given with
    | first :: second :: _ => some (.twoForms second first)
    | _ => none

/-- The flags at the start of a list of arguments, and the other arguments. -/
def readFlags (flags : List Flag) (arguments : List Bytes) :
    Except FlagError (GivenFlags × List Bytes) := do
  let (given, rest) ← readFlagsFrom flags [] arguments
  match twoForms? flags given with
  | some e => .error e
  | none => return (given, rest)

/-- The first required flag that is not given, if there is one. -/
def missing? (flags : List Flag) (given : GivenFlags) : Option FlagError :=
  (flags.find? fun f => f.isRequired && (f.usedNames given).isEmpty).map fun f =>
    .missing (f.names.getLast?.getD [])

end KeyScript
