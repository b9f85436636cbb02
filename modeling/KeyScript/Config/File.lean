import KeyScript.Config.Table
import KeyScript.Text.Case

/-!
# The configuration file

A configuration file sets the target of the sketch and the form of the output. Names are compared
without regard to case and underscores, and a name that means nothing is an error.

## Main definitions

- `FileConfig` — what a file sets
- `FileConfig.ofText` — reads a file
-/

namespace KeyScript

/-- What a configuration file sets; a text that is not set is empty. -/
structure FileConfig where
  layout : Bytes := []
  board : Bytes := []
  format : Bytes := []
  strict : Bool := false
deriving DecidableEq, Repr, Inhabited

/-- A field that holds a value: its name, its kind, and how a value of that kind changes the
configuration. -/
structure ValueField where
  name : Bytes
  type : Bytes
  set : FileConfig → ConfigValue → Option FileConfig

/-- A table of the file: its name, its kind and its fields. -/
structure Section where
  name : Bytes
  type : Bytes
  fields : List ValueField

/-- A field that holds a text. -/
def textField (name : Bytes) (set : FileConfig → Bytes → FileConfig) : ValueField where
  name := name
  type := "string"
  set := fun cfg v =>
    match v with
    | .string s => some (set cfg s)
    | _ => none

/-- A field that holds a truth value. -/
def boolField (name : Bytes) (set : FileConfig → Bool → FileConfig) : ValueField where
  name := name
  type := "bool"
  set := fun cfg v =>
    match v with
    | .boolean b => some (set cfg b)
    | _ => none

/-- The kind of the whole file. -/
def fileType : Bytes := "main.fileConfig"

/-- The tables of the file. -/
def sections : List Section :=
  [{ name := "Sketch"
     type := "struct \x7b Layout string; Board string \x7d"
     fields := [textField "Layout" fun cfg s => { cfg with layout := s },
       textField "Board" fun cfg s => { cfg with board := s }] },
   { name := "Output"
     type := "struct \x7b Format string; Strict bool \x7d"
     fields := [textField "Format" fun cfg s => { cfg with format := s },
       boolField "Strict" fun cfg b => { cfg with strict := b }] }]

/-- A name as it is compared. -/
def normalizedName (name : Bytes) : Bytes := name.lower.filter (· != 95)

/-- The name of the kind of a value. -/
def ConfigValue.kind : ConfigValue → Bytes
  | string _ | badString _ => "string"
  | boolean _ => "boolean"
  | integer => "integer"
  | float _ => "float"
  | datetime _ => "datetime"
  | array _ => "array"
  | table .. => "table"

/-- What is needed to hold a value, if that is not plain. -/
def ConfigValue.need : ConfigValue → Option Bytes
  | array _ => some "slice"
  | _ => none

/-- What is wrong with a value in a field that cannot hold it. What is wrong with the value itself
counts first. -/
def ConfigValue.refusal (v : ConfigValue) (field type : Bytes) : ConfigFault :=
  let wrong := ConfigFault.wrongKind (some field) v.kind type v.need
  match v with
  | datetime text =>
    match momentFault? text with
    | some part => .badMoment field text part
    | none => wrong
  | float numeral => if isTooLarge numeral then .tooLarge field numeral else wrong
  | _ => wrong

/-- Sets a field of a table. -/
def ValueField.apply (f : ValueField) (owner : Bytes) (cfg : FileConfig) :
    ConfigItem → Except ConfigError FileConfig
  | .value line v =>
    match f.set cfg v with
    | some cfg => .ok cfg
    | none => .error ⟨line, v.refusal (owner ++ "." ++ f.name) f.type⟩
  | .table line _ _ => .error ⟨line, .wrongKind none "table" f.type (some "struct or map")⟩
  | .tables line _ =>
    .error ⟨line, .wrongKind (some (owner ++ "." ++ f.name)) "array table" f.type (some "slice")⟩

/-- Sets what stands under one name of a table. -/
def Section.applyField (s : Section) (cfg : FileConfig) (entry : Bytes × ConfigItem) :
    Except ConfigError FileConfig :=
  match s.fields.find? fun f => normalizedName f.name == normalizedName entry.1 with
  | none => .error ⟨entry.2.line, .unknownField entry.1 s.type⟩
  | some f => f.apply s.type cfg entry.2

/-- Sets what a table of the file sets. -/
def Section.apply (s : Section) (cfg : FileConfig) : ConfigItem → Except ConfigError FileConfig
  | .table _ _ fields => fields.foldlM s.applyField cfg
  | .value line v => .error ⟨line, v.refusal (fileType ++ "." ++ s.name) s.type⟩
  | .tables line _ =>
    .error ⟨line, .wrongKind (some (fileType ++ "." ++ s.name)) "array table" s.type (some "slice")⟩

/-- Sets what stands under one name of the file. -/
def FileConfig.apply (cfg : FileConfig) (entry : Bytes × ConfigItem) :
    Except ConfigError FileConfig :=
  match sections.find? fun s => normalizedName s.name == normalizedName entry.1 with
  | none => .error ⟨entry.2.line, .unknownField entry.1 fileType⟩
  | some s => s.apply cfg entry.2

/-- What the text of a file sets. -/
def FileConfig.ofText (text : Bytes) : Except ConfigError FileConfig := do
  (← readConfig text).foldlM FileConfig.apply {}

end KeyScript
