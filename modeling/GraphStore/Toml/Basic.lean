import GraphStore.Json.Basic

/-!
# Settings documents

A document in the language TOML is a table of values.  Tables grow line by line, and how a table
came about says what may still be added to it (`Origin`).

* `Toml.define` adds a value under a dotted key;
* `Toml.openTable` and `Toml.openItem` are the headers of tables and of lists of tables;
* `Toml.json` is the document as a JSON value.
-/

namespace GraphStore

/-- How a table came about. -/
inductive Origin where
  | header
  /-- By a header of a table inside it. -/
  | implied
  /-- By a dotted key. -/
  | dotted
  /-- Written out as a value, in one place. -/
  | inline
  deriving DecidableEq

/-- A value of a document. -/
inductive Toml where
  | string (value : String)
  | integer (value : Int)
  /-- A number with a fraction or an exponent; nothing for infinities and for no number. -/
  | float (value : Option Double)
  | boolean (value : Bool)
  /-- A date, a time or both. -/
  | dateTime
  | array (items : List Toml)
  | table (origin : Origin) (entries : List (String × Toml))
  /-- A list of tables with headers, the last one first. -/
  | tables (items : List Toml)

namespace Toml

/-- The entries of a table. -/
abbrev Entries := List (String × Toml)

/-- Change the entries of the table at the end of a path.  Missing tables on the way are made,
as `made`; of a list of tables the last one is meant.  A dotted key does not pass through a
table with a header, and nothing passes through a value. -/
def update (made : Origin) (change : Origin → Entries → Option Entries) :
    List String → Origin → Entries → Option Entries
  | [], origin, entries => change origin entries
  | key :: path, _, entries => do
    let inner ← match Assoc.get? key entries with
      | none => (update made change path made []).map (table made)
      | some (table origin es) =>
        if origin = .inline || (made = .dotted && origin = .header) then none
        else (update made change path origin es).map (table origin)
      | some (tables (table origin es :: earlier)) =>
        (update made change path origin es).map fun es => tables (table origin es :: earlier)
      | some _ => none
    return Assoc.insert key inner entries

/-- Put a value under a key that is still free.  A dotted key ends in a table made by one. -/
def place (dotted : Bool) (key : String) (value : Toml) (origin : Origin) (entries : Entries) :
    Option Entries :=
  if (origin = .dotted) != dotted then none
  else match Assoc.get? key entries with
    | none => some (Assoc.insert key value entries)
    | some _ => none

/-- Split a path at its last key. -/
def splitLast : List String → Option (List String × String)
  | [] => none
  | keys => keys.getLast?.map fun key => (keys.dropLast, key)

/-- Add a value under a dotted key to the entries of a table. -/
def define (keys : List String) (value : Toml) (entries : Entries) : Option Entries := do
  let (path, key) ← splitLast keys
  update .dotted (place (!path.isEmpty) key value) path .header entries

/-- Add a value under a dotted key to the table that the header `under` opened. -/
def defineUnder (under keys : List String) (value : Toml) (entries : Entries) : Option Entries :=
  update .implied (fun _ es => define keys value es) under .header entries

/-- The header of a table: the table must be new or only implied so far. -/
def openTable (keys : List String) (entries : Entries) : Option Entries := do
  let (path, key) ← splitLast keys
  update .implied (fun _ es =>
    match Assoc.get? key es with
    | none => some (Assoc.insert key (table .header []) es)
    | some (table .implied inner) => some (Assoc.insert key (table .header inner) es)
    | some _ => none) path .header entries

/-- The header of one more table in a list of tables. -/
def openItem (keys : List String) (entries : Entries) : Option Entries := do
  let (path, key) ← splitLast keys
  update .implied (fun _ es =>
    match Assoc.get? key es with
    | none => some (Assoc.insert key (tables [table .header []]) es)
    | some (tables items) => some (Assoc.insert key (tables (table .header [] :: items)) es)
    | some _ => none) path .header entries

mutual

/-- The value as JSON.  Dates become objects without fields, for no setting is a date. -/
def json : Toml → Json
  | string s => .str s
  | integer n => .int n
  | float (some x) => .num (.double x)
  -- no setting takes a fraction, so any such number will do
  | float none => .num (.double ⟨false, Double.rankLimit - 1⟩)
  | boolean b => .bool b
  | dateTime => .obj []
  | array items => .arr (jsonItems items)
  | table _ entries => .obj (jsonEntries entries)
  | tables items => .arr (jsonItems items).reverse
termination_by structural v => v

def jsonItems : List Toml → List Json
  | [] => []
  | v :: vs => json v :: jsonItems vs
termination_by structural vs => vs

def jsonEntries : List (String × Toml) → List (String × Json)
  | [] => []
  | e :: es => jsonEntry e :: jsonEntries es
termination_by structural es => es

def jsonEntry : String × Toml → String × Json
  | (k, v) => (k, json v)
termination_by structural e => e

end

end Toml

end GraphStore
