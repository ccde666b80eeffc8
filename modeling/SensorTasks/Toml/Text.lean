import SensorTasks.Text.Hex

/-!
What stands between the values of a TOML text, and its four kinds of strings. A reader takes
something off the front of a text and gives what follows; there is none if the front is not of its
kind.
-/

namespace SensorTasks.Toml

def isSpace (c : Char) : Bool := c == ' ' || c == '\t'

def skipSpace (cs : List Char) : List Char := cs.dropWhile isSpace

/-- What may stand in a comment or a string without an escape: everything but control characters,
of which only the tab is left. -/
def isPlain (c : Char) : Bool := c == '\t' || (0x20 ≤ c.toNat && c.toNat != 0x7F)

/-- The text after all blanks, line ends and comments; nothing if one of them is not well formed. -/
def skipLines (inComment : Bool) : List Char → Option (List Char)
  | [] => some []
  | '\n' :: cs => skipLines false cs
  | '\r' :: '\n' :: cs => skipLines false cs
  | c :: cs =>
    if inComment then (if isPlain c then skipLines true cs else none)
    else if isSpace c then skipLines false cs
    else if c == '#' then skipLines true cs
    else if c == '\r' then none
    else some (c :: cs)

/-- Nothing but blanks and a comment is left of the line. -/
def endsLine (cs : List Char) : Bool :=
  match skipSpace cs with
  | [] | '\n' :: _ | '\r' :: '\n' :: _ | '#' :: _ => true
  | _ => false

/-! ### Strings -/

/-- The character of a code point that is one. -/
def scalar? (digits : List Char) : Option Char :=
  let n := (digits.filterMap Text.hexValue).foldl (fun n d => n * 16 + d) 0
  if digits.all (fun c => (Text.hexValue c).isSome) && n.isValidChar then some (Char.ofNat n)
  else none

def simpleEscape : Char → Option Char
  | 'b' => some (Char.ofNat 8)
  | 't' => some '\t'
  | 'n' => some '\n'
  | 'f' => some (Char.ofNat 12)
  | 'r' => some '\r'
  | '"' => some '"'
  | '\\' => some '\\'
  | _ => none

/-- The character of an escape, after its backslash. -/
def takeEscape : List Char → Option (Char × List Char)
  | 'u' :: a :: b :: c :: d :: cs => (scalar? [a, b, c, d]).map (·, cs)
  | 'U' :: a :: b :: c :: d :: e :: f :: g :: h :: cs =>
    (scalar? [a, b, c, d, e, f, g, h]).map (·, cs)
  | c :: cs => (simpleEscape c).map (·, cs)
  | [] => none

theorem length_takeEscape {cs rest : List Char} {c : Char} (h : takeEscape cs = some (c, rest)) :
    rest.length < cs.length := by
  unfold takeEscape at h
  split at h <;> simp only [Option.map_eq_some_iff, Prod.mk.injEq, reduceCtorEq] at h <;>
    obtain ⟨_, _, _, rfl⟩ := h <;> simp only [List.length_cons] <;> omega

abbrev Piece := List Char × List Char

def Piece.cons (c : Char) : Option Piece → Option Piece
  | some (s, rest) => some (c :: s, rest)
  | none => none

/-- A string in double quotes, after the opening one. -/
def takeBasic (cs : List Char) : Option Piece :=
  match cs with
  | [] => none
  | '"' :: rest => some ([], rest)
  | '\\' :: rest =>
    match h : takeEscape rest with
    | some (c, rest') =>
      have := length_takeEscape h
      Piece.cons c (takeBasic rest')
    | none => none
  | c :: rest => if isPlain c then Piece.cons c (takeBasic rest) else none
termination_by cs.length

/-- A string in single quotes, after the opening one. -/
def takeLiteral : List Char → Option Piece
  | [] => none
  | '\'' :: rest => some ([], rest)
  | c :: rest => if isPlain c then Piece.cons c (takeLiteral rest) else none

/-- The text without a line end at its front. -/
def dropNewline : List Char → List Char
  | '\n' :: cs => cs
  | '\r' :: '\n' :: cs => cs
  | cs => cs

/-- A backslash before this makes the line end and all blanks after it disappear. -/
def startsBreak (cs : List Char) : Bool :=
  match skipSpace cs with
  | '\n' :: _ | '\r' :: '\n' :: _ => true
  | _ => false

/-- A string in three double quotes, after the opening ones and a line end. Up to two quotes may
stand before the closing ones. While `joining`, blanks and line ends are passed over. -/
def takeLongBasic (joining : Bool) (cs : List Char) : Option Piece :=
  match cs with
  | [] => none
  | '"' :: '"' :: '"' :: '"' :: '"' :: rest => some (['"', '"'], rest)
  | '"' :: '"' :: '"' :: '"' :: rest => some (['"'], rest)
  | '"' :: '"' :: '"' :: rest => some ([], rest)
  | '\n' :: rest =>
    if joining then takeLongBasic true rest else Piece.cons '\n' (takeLongBasic false rest)
  | '\r' :: '\n' :: rest =>
    if joining then takeLongBasic true rest else Piece.cons '\n' (takeLongBasic false rest)
  | '\\' :: rest =>
    if startsBreak rest then takeLongBasic true rest
    else
      match h : takeEscape rest with
      | some (c, rest') =>
        have := length_takeEscape h
        Piece.cons c (takeLongBasic false rest')
      | none => none
  | c :: rest =>
    if joining && isSpace c then takeLongBasic true rest
    else if isPlain c then Piece.cons c (takeLongBasic false rest)
    else none
termination_by cs.length

/-- A string in three single quotes, after the opening ones and a line end. -/
def takeLongLiteral : List Char → Option Piece
  | [] => none
  | '\'' :: '\'' :: '\'' :: '\'' :: '\'' :: rest => some (['\'', '\''], rest)
  | '\'' :: '\'' :: '\'' :: '\'' :: rest => some (['\''], rest)
  | '\'' :: '\'' :: '\'' :: rest => some ([], rest)
  | '\n' :: rest => Piece.cons '\n' (takeLongLiteral rest)
  | '\r' :: '\n' :: rest => Piece.cons '\n' (takeLongLiteral rest)
  | c :: rest => if isPlain c then Piece.cons c (takeLongLiteral rest) else none

/-- A string of any kind. -/
def takeString : List Char → Option Piece
  | '"' :: '"' :: '"' :: cs => takeLongBasic false (dropNewline cs)
  | '\'' :: '\'' :: '\'' :: cs => takeLongLiteral (dropNewline cs)
  | '"' :: cs => takeBasic cs
  | '\'' :: cs => takeLiteral cs
  | _ => none

/-! ### Keys -/

def isBareKey (c : Char) : Bool := c.isAlphanum || c == '_' || c == '-'

/-- A bare key, or a string on one line. -/
def takeSimpleKey : List Char → Option Piece
  | '"' :: cs => takeBasic cs
  | '\'' :: cs => takeLiteral cs
  | cs =>
    let name := cs.takeWhile isBareKey
    if name.isEmpty then none else some (name, cs.drop name.length)

/-- Keys with dots between them. -/
def takeKeys (fuel : Nat) (cs : List Char) : Option (List String × List Char) :=
  match fuel with
  | 0 => none
  | fuel + 1 => do
    let (name, rest) ← takeSimpleKey (skipSpace cs)
    match skipSpace rest with
    | '.' :: rest =>
      let (names, rest) ← takeKeys fuel rest
      pure (String.ofList name :: names, rest)
    | rest => pure ([String.ofList name], rest)

end SensorTasks.Toml
