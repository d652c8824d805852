/-
How the statements of a TOML document make up its tables. A statement opens a table, opens a new table in an array of
tables, or gives a key of the open table a value; names may be paths.

A table is explicit when a header named it, dotted when only dotted keys made it, and implicit otherwise. No key gets
two values, no table two headers; a dotted key adds only to tables that dotted keys made, and nothing is ever added to
a value that was written out. Every other document is refused.
-/
import ScriptBridge.Table
import ScriptBridge.Toml.Value

namespace ScriptBridge.Toml

/-- how a table came to be -/
inductive Origin where
  | explicit
  | implicit
  | dotted
deriving DecidableEq, Repr

/-- what a key stands for while a document is read -/
inductive Item where
  | value (v : Toml)
  | table (origin : Origin) (entries : List (String × Item))
  | tables (items : List Item)

/-- the entries of a table that is read -/
abbrev Entries := List (String × Item)

/-- a statement of a document -/
inductive Statement where
  | key (path : List String) (value : Toml)
  | header (path : List String)
  | arrayHeader (path : List String)

/-- replaces the last item of a list by what a function makes of it -/
def changeLast (f : Item → Option Item) : List Item → Option (List Item)
  | [] => none
  | [item] => (f item).map fun i => [i]
  | item :: rest => (changeLast f rest).map fun r => item :: r

/-- gives the key at the end of a path a value. `takes` says whether the table it lands in may take a plain key at
this depth: the table that the path starts from may, and tables made by dotted keys. -/
def assign (value : Toml) (takes : Bool) : List String → Entries → Option Entries
  | [], _ => none
  | [name], entries =>
    if takes && (Table.find? name entries).isNone then some (Table.putEntry name (.value value) entries) else none
  | name :: rest, entries =>
    let inside : Option Item := match Table.find? name entries with
      | none => (assign value true rest []).map (.table .dotted)
      | some (.table .explicit _) => none
      | some (.table origin es) => (assign value (origin == .dotted) rest es).map (.table origin)
      | some (.tables items) =>
        (changeLast (fun
          | .table origin es => (assign value (origin == .dotted) rest es).map (.table origin)
          | _ => none) items).map .tables
      | some (.value _) => none
    inside.map fun item => Table.putEntry name item entries

/-- gives keys their values, one after the other -/
def assignAll (keys : List (List String × Toml)) (entries : Entries) : Option Entries :=
  keys.foldlM (fun es (path, value) => assign value true path es) entries

/-- opens the table of a header, with its keys: a new one, or an implicit one that was not made by dotted keys, which
counts as new in the order of entries -/
def openTable (keys : List (List String × Toml)) (name : String) (entries : Entries) : Option Entries :=
  match Table.find? name entries with
  | none => (assignAll keys []).map fun es => entries ++ [(name, .table .explicit es)]
  | some (.table .implicit es) =>
    (assignAll keys es).map fun es => entries.filter (fun e => e.1 != name) ++ [(name, .table .explicit es)]
  | some _ => none

/-- adds a table with its keys to the array of tables of a header -/
def openElement (keys : List (List String × Toml)) (name : String) (entries : Entries) : Option Entries :=
  match Table.find? name entries with
  | none => (assignAll keys []).map fun es => Table.putEntry name (.tables [.table .explicit es]) entries
  | some (.tables items) =>
    (assignAll keys []).map fun es => Table.putEntry name (.tables (items ++ [.table .explicit es])) entries
  | some _ => none

/-- changes the entries of the table that the last name of a path belongs to; tables on the way are made where they are
missing, and of an array of tables the last one is meant -/
def changeAt (f : String → Entries → Option Entries) : List String → Entries → Option Entries
  | [], _ => none
  | [name], entries => f name entries
  | name :: rest, entries =>
    let inside : Option Item := match Table.find? name entries with
      | none => (changeAt f rest []).map (.table .implicit)
      | some (.table origin es) => (changeAt f rest es).map (.table origin)
      | some (.tables items) =>
        (changeLast (fun
          | .table origin es => (changeAt f rest es).map (.table origin)
          | _ => none) items).map .tables
      | some (.value _) => none
    inside.map fun item => Table.putEntry name item entries

/-- the keys at the start of a list of statements, and the statements from the next header on -/
def leadingKeys : List Statement → List (List String × Toml) × List Statement
  | .key path value :: rest =>
    let (keys, rest) := leadingKeys rest
    ((path, value) :: keys, rest)
  | rest => ([], rest)

theorem length_leadingKeys (l : List Statement) : (leadingKeys l).2.length ≤ l.length := by
  induction l with
  | nil => simp [leadingKeys]
  | cons s l ih => cases s <;> simp [leadingKeys]; omega

/-- adds the tables that headers open -/
def addTables (entries : Entries) : List Statement → Option Entries
  | [] => some entries
  | .key _ _ :: _ => none
  | .header path :: rest =>
    match changeAt (openTable (leadingKeys rest).1) path entries with
    | some entries => addTables entries (leadingKeys rest).2
    | none => none
  | .arrayHeader path :: rest =>
    match changeAt (openElement (leadingKeys rest).1) path entries with
    | some entries => addTables entries (leadingKeys rest).2
    | none => none
termination_by l => l.length
decreasing_by all_goals have := length_leadingKeys rest; simp only [List.length_cons]; omega

mutual

/-- the value that an item has become -/
def Item.toToml : Item → Toml
  | .value v => v
  | .table _ entries => .table (entriesToToml entries)
  | .tables items => .array (itemsToToml items)

def itemsToToml : List Item → List Toml
  | [] => []
  | item :: rest => item.toToml :: itemsToToml rest

def entriesToToml : Entries → List (String × Toml)
  | [] => []
  | (key, item) :: rest => (key, item.toToml) :: entriesToToml rest

end

/-- the top table of a document -/
def ofStatements? (statements : List Statement) : Option (List (String × Toml)) := do
  let (keys, rest) := leadingKeys statements
  return entriesToToml (← addTables (← assignAll keys []) rest)

/-- the table that the keys between braces make up -/
def ofKeys? (keys : List (List String × Toml)) : Option Toml :=
  (assignAll keys []).map fun es => .table (entriesToToml es)

end ScriptBridge.Toml
