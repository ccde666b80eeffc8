import SensorTasks.Settings.Basic

/-!
The tables of a TOML text while it is read. A table is there because a longer header implies it, or
because its own header states it, or because keys with dots made it. A table is stated once, keys
with dots go only into tables that they made, and nothing is added to a table that was written as a
value.
-/

namespace SensorTasks.Toml

inductive Origin where
  | implied
  | stated
  | dotted
  deriving DecidableEq

inductive Node where
  | value (s : Setting)
  | table (origin : Origin) (entries : List (String × Node))
  /-- The tables under one repeated header; the last one is open. -/
  | series (tables : List (List (String × Node)))

abbrev Entries := List (String × Node)

namespace Entries

/-- The entries with the one under `name` replaced by its image. -/
def change (name : String) (f : Option Node → Option Node) : Entries → Option Entries
  | [] => (f none).map fun node => [(name, node)]
  | (k, node) :: entries =>
    if k = name then (f (some node)).map fun node => (k, node) :: entries
    else (change name f entries).map ((k, node) :: ·)

def changeLast (f : Entries → Option Entries) : List Entries → Option (List Entries)
  | [] => none
  | [t] => (f t).map ([·])
  | t :: ts => (changeLast f ts).map (t :: ·)

/-- The entries with a change in the table that a header names; tables on the way are implied. -/
def inside (f : Entries → Option Entries) : List String → Entries → Option Entries
  | [], entries => f entries
  | name :: path, entries =>
    entries.change name fun
      | none => (inside f path []).map (.table .implied)
      | some (.table origin entries) => (inside f path entries).map (.table origin)
      | some (.series ts) => (changeLast (inside f path) ts).map .series
      | some (.value _) => none

/-- A header. -/
def openTable (path : List String) (name : String) (entries : Entries) : Option Entries :=
  inside (change name fun
    | none => some (.table .stated [])
    | some (.table .implied entries) => some (.table .stated entries)
    | some _ => none) path entries

/-- A header of a series. -/
def openNext (path : List String) (name : String) (entries : Entries) : Option Entries :=
  inside (change name fun
    | none => some (.series [[]])
    | some (.series ts) => some (.series (ts ++ [[]]))
    | some _ => none) path entries

/-- A new entry under keys with dots. It goes into the table it starts from, which is `here`, or
into one that keys with dots made. -/
def put (name : String) (s : Setting) : (here : Bool) → List String → Entries → Option Entries
  | false, [], _ => none
  | true, [], entries => entries.change name fun
    | none => some (.value s)
    | some _ => none
  | _, key :: path, entries => entries.change key fun
    | none => (put name s true path []).map (.table .dotted)
    | some (.table .dotted entries) => (put name s true path entries).map (.table .dotted)
    | some (.table .implied entries) => (put name s false path entries).map (.table .implied)
    | some (.series ts) => (changeLast (put name s false path) ts).map .series
    | some _ => none

end Entries

mutual

def Node.toSetting : Node → Setting
  | .value s => s
  | .table _ entries => .table (settings entries)
  | .series ts => .list (tableSettings ts)

def settings : List (String × Node) → List (String × Setting)
  | [] => []
  | (name, node) :: entries => (name, node.toSetting) :: settings entries

def tableSettings : List (List (String × Node)) → List Setting
  | [] => []
  | t :: ts => .table (settings t) :: tableSettings ts

end

end SensorTasks.Toml
