import SensorTasks.Text.CaseTable

/-!
Upper and lower case of whole texts, after the mappings of the Unicode character database. The one
mapping that looks at its surroundings is that of the capital sigma, which has a form of its own
at the end of a word.
-/

namespace SensorTasks.Text

def inSpans (spans : List (Nat × Nat)) (c : Char) : Bool :=
  spans.any fun (first, last) => first ≤ c.toNat && c.toNat ≤ last

/-- The mapping of one code point by a table of ranges with step and offset. -/
def mapByTable (table : List (Nat × Nat × Nat × Int)) (c : Char) : Char :=
  let n := c.toNat
  match table.find? fun (first, last, step, _) =>
      first ≤ n && n ≤ last && (n - first) % step == 0 with
  | some (_, _, _, offset) => Char.ofNat (n + offset).toNat
  | none => c

def isCased (c : Char) : Bool :=
  c.isAlpha || (c.toNat ≥ 128 && inSpans CaseTable.cased c)

def isCaseIgnorable (c : Char) : Bool :=
  inSpans CaseTable.caseIgnorable c

/-- Whether the nearest character that is not ignorable is a cased one. -/
def meetsCased : List Char → Bool
  | [] => false
  | c :: cs => if isCaseIgnorable c then meetsCased cs else isCased c

/-- Lower case of one character away from the end of a word. -/
def lowerChar (c : Char) : List Char :=
  if c.toNat < 128 then [c.toLower]
  else if c.toNat == 0x130 then ['i', Char.ofNat 0x307]
  else [mapByTable CaseTable.lower c]

/-- `before` holds what was read, the last character first. -/
def lowerFrom (before : List Char) : List Char → List Char
  | [] => []
  | c :: cs =>
    (if c.toNat == 0x3A3 then
        [Char.ofNat (if meetsCased before && !meetsCased cs then 0x3C2 else 0x3C3)]
      else lowerChar c) ++ lowerFrom (c :: before) cs

def toLower (cs : List Char) : List Char :=
  lowerFrom [] cs

def upperChar (c : Char) : List Char :=
  if c.toNat < 128 then [c.toUpper]
  else
    match CaseTable.fullUpper.find? (·.1 == c.toNat) with
    | some (_, several) => several.map Char.ofNat
    | none => [mapByTable CaseTable.upper c]

def toUpper (cs : List Char) : List Char :=
  cs.flatMap upperChar

theorem lowerFrom_ascii {cs before : List Char} (h : ∀ c ∈ cs, c.toNat < 128) :
    lowerFrom before cs = cs.map Char.toLower := by
  induction cs generalizing before with
  | nil => rfl
  | cons c cs ih =>
    have hc := h c (by simp)
    have hne : (c.toNat == 0x3A3) = false := by simp; omega
    simp [lowerFrom, hne, lowerChar, hc, ih fun d hd => h d (by simp [hd])]

end SensorTasks.Text
