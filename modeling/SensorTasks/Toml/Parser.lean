import SensorTasks.Toml.Scalar
import SensorTasks.Toml.Table

/-!
TOML documents, version 1.0 of the format: lines that assign a value to a key in the current table,
and headers that choose the current table.
-/

namespace SensorTasks.Toml

/-- How deep values may be nested. -/
def maxDepth : Nat := 80

mutual

/-- A value at the front of a text; `fuel` bounds the steps, `depth` the nesting. -/
def takeValue (fuel depth : Nat) (cs : List Char) : Option (Setting × List Char) :=
  match fuel with
  | 0 => none
  | fuel + 1 =>
    match depth, cs with
    | 0, '[' :: _ | 0, '\x7b' :: _ => none
    | depth + 1, '[' :: cs => do
      let (items, rest) ← takeItems fuel depth (← skipLines false cs)
      pure (.list items, rest)
    | depth + 1, '\x7b' :: cs => do
      let cs := skipSpace cs
      if cs.head? == some '\x7d' then pure (.table [], cs.drop 1)
      else
        let (entries, rest) ← takeEntries fuel depth [] cs
        pure (.table (settings entries), rest)
    | _, '"' :: _ | _, '\'' :: _ => do
      let (s, rest) ← takeString cs
      pure (.text (String.ofList s), rest)
    | _, _ => do
      let (word, rest) := takeWord cs
      pure (← ofWord? word, rest)

/-- The items of an array and its end. Lines may end between them, and the last one may have a comma
after it. -/
def takeItems (fuel depth : Nat) (cs : List Char) : Option (List Setting × List Char) :=
  match fuel with
  | 0 => none
  | fuel + 1 =>
    match cs with
    | ']' :: rest => some ([], rest)
    | cs => do
      let (item, rest) ← takeValue fuel depth cs
      match ← skipLines false rest with
      | ',' :: rest =>
        let (items, rest) ← takeItems fuel depth (← skipLines false rest)
        pure (item :: items, rest)
      | ']' :: rest => pure ([item], rest)
      | _ => none

/-- The entries of a table on one line and its end. -/
def takeEntries (fuel depth : Nat) (entries : Entries) (cs : List Char) :
    Option (Entries × List Char) :=
  match fuel with
  | 0 => none
  | fuel + 1 => do
    let (entries, rest) ← takeEntry fuel depth [] entries cs
    match skipSpace rest with
    | ',' :: rest => takeEntries fuel depth entries rest
    | '\x7d' :: rest => pure (entries, rest)
    | _ => none

/-- A key, an equals sign and a value, put into the table under a header. -/
def takeEntry (fuel depth : Nat) (header : List String) (entries : Entries) (cs : List Char) :
    Option (Entries × List Char) :=
  match fuel with
  | 0 => none
  | fuel + 1 => do
    let (keys, rest) ← takeKeys cs.length cs
    match rest with
    | '=' :: rest =>
      let (value, rest) ← takeValue fuel depth (skipSpace rest)
      let put := Entries.put (keys.getLastD "") value true keys.dropLast
      pure (← Entries.inside put header entries, rest)
    | _ => none

end

/-- A header, after its opening brackets: its keys, and what follows the closing ones. -/
def takeHeader (closing : List Char) (cs : List Char) : Option (List String × List Char) := do
  let (keys, rest) ← takeKeys cs.length cs
  if closing.isPrefixOf rest then some (keys, rest.drop closing.length) else none

/-- The lines of a document, from the start of one or from somewhere in the blanks before it. -/
def takeDocument (fuel : Nat) (header : List String) (root : Entries) (cs : List Char) :
    Option Entries :=
  match fuel with
  | 0 => none
  | fuel + 1 => do
    let next (header : List String) (root : Entries) (rest : List Char) : Option Entries :=
      if endsLine rest then takeDocument fuel header root rest else none
    match ← skipLines false cs with
    | [] => pure root
    | '[' :: '[' :: cs =>
      let (keys, rest) ← takeHeader [']', ']'] cs
      next keys (← Entries.openNext keys.dropLast (keys.getLastD "") root) rest
    | '[' :: cs =>
      let (keys, rest) ← takeHeader [']'] cs
      next keys (← Entries.openTable keys.dropLast (keys.getLastD "") root) rest
    | cs =>
      let (root, rest) ← takeEntry (4 * cs.length + 4) maxDepth header root cs
      next header root rest

/-- The settings of a TOML document. -/
def parse? (text : String) : Option Setting :=
  let cs := text.toList
  (takeDocument (cs.length + 1) [] [] cs).map fun root => .table (settings root)

end SensorTasks.Toml
