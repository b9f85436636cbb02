import KeyScript.Config.Moment
import KeyScript.Config.Statement

/-!
# Tables of a configuration

The statements of a configuration build a tree of tables. A name can be given only once in a table,
except that a table which was only named on the way to another may still get a header of its own.

## Main definitions

- `ConfigItem` — what stands under a name
- `ConfigError` — what is wrong with a configuration, and on which line
- `ConfigTree.add` — the tree after one more statement
- `readConfig` — the tree of a text
-/

namespace KeyScript

/-- What stands under a name of a table. -/
inductive ConfigItem where
  | value (line : Nat) (v : ConfigValue)
  /-- A table; it may have been named only on the way to another. -/
  | table (line : Nat) (hasHeader : Bool) (fields : List (Bytes × ConfigItem))
  /-- A list of tables, with the line of the first one. -/
  | tables (line : Nat) (list : List (List (Bytes × ConfigItem)))

/-- The names of a table with what stands under them, in the order of the text. -/
abbrev ConfigFields := List (Bytes × ConfigItem)

/-- The line of an item. -/
def ConfigItem.line : ConfigItem → Nat
  | value line _ => line
  | table line _ _ => line
  | tables line _ => line

/-- What a name stands for already. -/
inductive Rival where
  | value (line : Nat)
  | table (line : Nat)
  | tables (line : Nat)
deriving DecidableEq, Repr, Inhabited

/-- What an item is as a rival. -/
def ConfigItem.rival : ConfigItem → Rival
  | value line _ => .value line
  | table line _ _ => .table line
  | tables line _ => .tables line

/-- What is wrong with a configuration. -/
inductive ConfigFault where
  /-- The text is not a list of statements. -/
  | badText
  /-- An escape stands for no character. -/
  | badEscape
  | tableConflict (name : Bytes) (rival : Rival)
  | listConflict (name : Bytes) (rival : Rival)
  | keyConflict (name : Bytes) (rival : Rival)
  /-- A name on the way to a table stands for a value. -/
  | wayConflict (name : Bytes) (line : Nat)
  /-- A name that the configuration does not know. -/
  | unknownField (name owner : Bytes)
  /-- A value of the wrong kind for a field of a type; if the field itself is to blame it is
  named, and what is needed is said if it is not plain. -/
  | wrongKind (field : Option Bytes) (kind type : Bytes) (need : Option Bytes)
  /-- A date or a time in a field has a part that is out of range. -/
  | badMoment (field text : Bytes) (part : MomentPart)
  /-- A number in a field is too large. -/
  | tooLarge (field numeral : Bytes)
deriving DecidableEq, Repr, Inhabited

/-- What is wrong with a configuration, and on which line. -/
structure ConfigError where
  line : Nat
  fault : ConfigFault
deriving DecidableEq, Repr, Inhabited

/-- The wording of a rival. -/
def Rival.message : Rival → Bytes
  | value line => "line " ++ Numeral.ofNat line
  | table line => "table in line " ++ Numeral.ofNat line
  | tables line => "array table in line " ++ Numeral.ofNat line

/-- The wording of a conflict of a key with a rival. The line of another key is written in
hexadecimal, with the letter d behind it. -/
def Rival.keyMessage (name : Bytes) : Rival → Bytes
  | value line => "key `" ++ name ++ "' is in conflict with line " ++ Numeral.hexOfNat line ++ "d"
  | table line =>
    "key `" ++ name ++ "' is in conflict with normal table in line " ++ Numeral.ofNat line
  | tables _ =>
    "BUG: key `" ++ name ++ "' is in conflict but it's unknown type `[]*ast.Table'"

/-- The wording of a fault. -/
def ConfigFault.message : ConfigFault → Bytes
  | badText => "invalid TOML syntax"
  | badEscape => "invalid syntax"
  | tableConflict name rival => "table `" ++ name ++ "' is in conflict with " ++ rival.message
  | listConflict name rival => "array table `" ++ name ++ "' is in conflict with " ++ rival.message
  | keyConflict name rival => rival.keyMessage name
  | wayConflict name line =>
    "key `" ++ name ++ "' is in conflict with line " ++ Numeral.ofNat line
  | unknownField name owner => "field '" ++ name ++ "' is not defined in " ++ owner
  | wrongKind field kind type need =>
    around "(" field ") " ++ "cannot unmarshal TOML " ++ kind ++ " into " ++ type ++
      around " (need " need ")"
  | badMoment field text part =>
    around "(" field ") " ++ "parsing time \"" ++ text ++ "\": " ++ part.name ++ " out of range"
  | tooLarge field numeral =>
    around "(" field ") " ++ "strconv.ParseFloat: parsing \"" ++ numeral ++
      "\": value out of range"
where
  /-- A text between two others, if there is one. -/
  around (before : Bytes) (text : Option Bytes) (after : Bytes) : Bytes :=
    match text with
    | some t => before ++ t ++ after
    | none => []

/-- The wording of an error in a file. -/
def ConfigError.message (file : Bytes) (e : ConfigError) : Bytes :=
  file ++ ", line " ++ Numeral.ofNat e.line ++ ": " ++ e.fault.message

/-- Fields with an item under a name, in the place of an earlier item of that name. -/
def putItem (name : Bytes) (item : ConfigItem) : ConfigFields → ConfigFields
  | [] => [(name, item)]
  | (other, old) :: rest =>
    if other = name then (name, item) :: rest else (other, old) :: putItem name item rest

/-- The tree of a configuration while it is built. -/
structure ConfigTree where
  fields : ConfigFields := []
  /-- The names that lead to the current table; in a list of tables the last one is meant. -/
  path : List Bytes := []

/-- Changes the table that some names lead to. Tables on the way that are missing are made. -/
def changeAt (line : Nat) (change : ConfigFields → Except ConfigError ConfigFields) :
    List Bytes → ConfigFields → Except ConfigError ConfigFields
  | [], fields => change fields
  | name :: names, fields =>
    match fields.lookup name with
    | none => do return putItem name (.table line false (← changeAt line change names [])) fields
    | some (.table l hasHeader inner) => do
      return putItem name (.table l hasHeader (← changeAt line change names inner)) fields
    | some (.tables l list) => do
      let last ← changeAt line change names (list.getLast?.getD [])
      return putItem name (.tables l (list.dropLast ++ [last])) fields
    | some (.value l _) => .error ⟨line, .wayConflict name l⟩

/-- Adds a table to its parent. The table is called `title` if it cannot be added. -/
def addTable (line : Nat) (hasHeader : Bool) (title name : Bytes) (fields : ConfigFields) :
    Except ConfigError ConfigFields :=
  match fields.lookup name with
  | none => .ok (putItem name (.table line hasHeader []) fields)
  | some (.table _ false inner) => .ok (putItem name (.table line hasHeader inner) fields)
  | some item => .error ⟨line, .tableConflict title item.rival⟩

/-- Adds a table to a list of tables in its parent. The list is called `title` if it cannot be
added. -/
def addToList (line : Nat) (title name : Bytes) (fields : ConfigFields) :
    Except ConfigError ConfigFields :=
  match fields.lookup name with
  | none => .ok (putItem name (.tables line [[]]) fields)
  | some (.tables l list) => .ok (putItem name (.tables l (list ++ [[]])) fields)
  | some item => .error ⟨line, .listConflict title item.rival⟩

mutual

/-- Adds the tables in the value of a key to the table of the key; inside an array they form lists
of tables. Says whether there was a table, which then stands in the place of the value. -/
def addTables (inArray : Bool) (name : Bytes) :
    ConfigValue → ConfigFields → Except ConfigError (Bool × ConfigFields)
  | .table line pairs, fields => do
    let fields ←
      if inArray then addToList line name name fields else addTable line false name name fields
    return (true, ← changeAt line (addPairs inArray pairs) [name] fields)
  | .array items, fields => addItems name items fields
  | .badString line, _ => .error ⟨line, .badEscape⟩
  | _, fields => .ok (false, fields)

/-- Adds the tables in the items of an array. -/
def addItems (name : Bytes) :
    List ConfigValue → ConfigFields → Except ConfigError (Bool × ConfigFields)
  | [], fields => .ok (false, fields)
  | v :: vs, fields => do
    let (found, fields) ← addTables true name v fields
    let (foundMore, fields) ← addItems name vs fields
    return (found || foundMore, fields)

/-- Adds a pair to a table. -/
def addPair (inArray : Bool) : ConfigPair → ConfigFields → Except ConfigError ConfigFields
  | .mk none keyLine _ _, _ => .error ⟨keyLine, .badEscape⟩
  | .mk (some name) _ v line, fields => do
    let (found, fields) ← addTables inArray name v fields
    if found then return fields
    else match fields.lookup name with
      | none => return putItem name (.value line v) fields
      | some item => .error ⟨line, .keyConflict name item.rival⟩

/-- Adds pairs to a table. -/
def addPairs (inArray : Bool) :
    List ConfigPair → ConfigFields → Except ConfigError ConfigFields
  | [], fields => .ok fields
  | p :: ps, fields => do addPairs inArray ps (← addPair inArray p fields)

end

/-- The tree after one more statement. -/
def ConfigTree.add (t : ConfigTree) : ConfigStatement → Except ConfigError ConfigTree
  | .pair p@(.mk _ _ _ line) => do
    return { t with fields := ← changeAt line (addPair false p) t.path t.fields }
  | .header isList names line =>
    match names.mapM id with
    | none => .error ⟨line, .badEscape⟩
    | some path => do
      let name := path.getLast?.getD []
      let title := Bytes.joinWith "." path
      let change := if isList then addToList line title name else addTable line true title name
      return { fields := ← changeAt line change path.dropLast t.fields, path }

/-- The tree of a text. -/
def readConfig (text : Bytes) : Except ConfigError ConfigFields :=
  match readStatements text with
  | .error line => .error ⟨line, .badText⟩
  | .ok statements => do return (← statements.foldlM ConfigTree.add {}).fields

end KeyScript
