import SensorTasks.Settings.Basic

/-!
Paths to settings: `messaging.prefetch`, `rules[0].name`. A setting is put at a path by making the
tables and lists on the way; a table that is put where there is one already is merged into it.
-/

namespace SensorTasks

namespace Setting

/-! ### Merging -/

/-- `entries` with what stands under `name` replaced by its image. -/
def mapEntry (name : String) (f : Setting → Setting) :
    List (String × Setting) → List (String × Setting)
  | [] => [(name, f .absent)]
  | (k, s) :: entries =>
    if k = name then (k, f s) :: entries else (k, s) :: mapEntry name f entries

mutual

/-- What is left of `old` when `new` is put in its place: of two tables everything that the new one
does not have. -/
def overlay (old : Setting) : (new : Setting) → Setting
  | .table more => .table (overlayEntries old.entries more)
  | new => new

def overlayEntries (entries : List (String × Setting)) :
    List (String × Setting) → List (String × Setting)
  | [] => entries
  | (name, new) :: more =>
    overlayEntries (mapEntry name (fun old => overlay old new) entries) more

end

end Setting

/-! ### Paths -/

inductive PathStep where
  | name (s : String)
  /-- A place in a list, from the end if it is negative. -/
  | place (i : Int)
  deriving DecidableEq

abbrev Path := List PathStep

namespace Path

def isNameChar (c : Char) : Bool :=
  c.isAlphanum || c == '_' || c == '-'

def takeName? (cs : List Char) : Option (PathStep × List Char) :=
  let name := cs.takeWhile isNameChar
  if name.isEmpty then none else some (.name (String.ofList name), cs.drop name.length)

/-- The place between brackets, after the opening one. -/
def takePlace? (cs : List Char) : Option (PathStep × List Char) := do
  let (inside, rest) ← Text.cut (· == ']') cs
  let isSpace (c : Char) : Bool := c == ' ' || c == '\t'
  let word := ((inside.dropWhile isSpace).reverse.dropWhile isSpace).reverse
  if word.head? == some '+' then none
  let i ← Text.integer? (UInt64.size / 2) word
  pure (.place i, rest)

/-- The steps after the first one. -/
def takeSteps (fuel : Nat) (cs : List Char) : Option Path :=
  match fuel, cs with
  | _, [] => some []
  | 0, _ => none
  | fuel + 1, c :: cs => do
    let (step, rest) ← if c == '.' then takeName? cs else if c == '[' then takePlace? cs else none
    let steps ← takeSteps fuel rest
    pure (step :: steps)

def parse? (text : String) : Option Path := do
  let (first, rest) ← takeName? text.toList
  let steps ← takeSteps rest.length rest
  pure (first :: steps)

end Path

namespace Setting

/-- `items` with the one at a place replaced by its image; the list grows until it has the place. -/
def mapItem (i : Int) (f : Setting → Setting) (items : List Setting) : List Setting :=
  if items.length + i < 0 then
    f .absent :: List.replicate ((-i).toNat - items.length - 1) .absent ++ items
  else
    let k := if i < 0 then (items.length + i).toNat else i.toNat
    let long := items ++ List.replicate (k + 1 - items.length) .absent
    long.modify k f

/-- `value` put at a path. -/
def assign (value : Setting) : Path → Setting → Setting
  | [], old => overlay old value
  | .name name :: path, old => .table (mapEntry name (assign value path) old.entries)
  | .place i :: path, old => .list (mapItem i (assign value path) old.items)

/-- `value` put at the path that a name stands for, or under the name itself if it is no path. -/
def assignNamed (name : String) (value old : Setting) : Setting :=
  assign value ((Path.parse? name).getD [.name name]) old

end Setting

end SensorTasks
