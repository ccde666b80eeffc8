/-!
Bytes read as UTF-8 where a fault is no error: every longest beginning of a character that breaks
off becomes one replacement character, and so does every byte that begins none.
-/

namespace SensorTasks.Text.Utf8

def replacement : Char := Char.ofNat 0xFFFD

def isContinuation (b : UInt8) : Bool :=
  0x80 ≤ b && b ≤ 0xBF

/-- The second bytes that may follow a first byte, and how many bytes come after the first. -/
def shape (b : UInt8) : Option (Nat × UInt8 × UInt8) :=
  if 0xC2 ≤ b && b ≤ 0xDF then some (1, 0x80, 0xBF)
  else if b == 0xE0 then some (2, 0xA0, 0xBF)
  else if b == 0xED then some (2, 0x80, 0x9F)
  else if 0xE1 ≤ b && b ≤ 0xEF then some (2, 0x80, 0xBF)
  else if b == 0xF0 then some (3, 0x90, 0xBF)
  else if 0xF1 ≤ b && b ≤ 0xF3 then some (3, 0x80, 0xBF)
  else if b == 0xF4 then some (3, 0x80, 0x8F)
  else none

/-- The bits that a first byte with `more` bytes after it carries. -/
def leadBits (more : Nat) (b : UInt8) : Nat :=
  b.toNat % 1 <<< (6 - more)

/-- Up to `more` further continuation bytes are taken; the value is there if none is missing. -/
def continueChar (more : Nat) (acc : Nat) (bytes : List UInt8) : Option Nat × List UInt8 :=
  match more, bytes with
  | 0, bytes => (some acc, bytes)
  | _ + 1, [] => (none, [])
  | more + 1, b :: bytes =>
    if isContinuation b then continueChar more (acc * 64 + b.toNat % 64) bytes
    else (none, b :: bytes)

theorem length_continueChar (more acc : Nat) (bytes : List UInt8) :
    (continueChar more acc bytes).2.length ≤ bytes.length := by
  induction more generalizing acc bytes with
  | zero => simp [continueChar]
  | succ more ih =>
    cases bytes with
    | nil => simp [continueChar]
    | cons b bytes =>
      simp only [continueChar]
      split
      · have := ih (acc * 64 + b.toNat % 64) bytes
        simp only [List.length_cons]
        omega
      · simp

/-- One character, or the replacement for a broken one, and the bytes after it. -/
def nextChar (b : UInt8) (rest : List UInt8) : Char × List UInt8 :=
  if b < 0x80 then (Char.ofNat b.toNat, rest)
  else
    match shape b, rest with
    | some (more, low, high), c :: rest' =>
      if low ≤ c && c ≤ high then
        match continueChar (more - 1) (leadBits more b * 64 + c.toNat % 64) rest' with
        | (some n, rest) => (Char.ofNat n, rest)
        | (none, rest) => (replacement, rest)
      else (replacement, rest)
    | _, rest => (replacement, rest)

theorem length_nextChar (b : UInt8) (rest : List UInt8) :
    (nextChar b rest).2.length ≤ rest.length := by
  unfold nextChar
  split
  · simp
  · split
    · rename_i more low high c rest' _
      split
      · have h := length_continueChar (more - 1) (leadBits more b * 64 + c.toNat % 64) rest'
        split <;> rename_i heq <;> rw [heq] at h <;> simp only [List.length_cons] at h ⊢ <;> omega
      · simp
    · simp

def decodeChars (bytes : List UInt8) : List Char :=
  match bytes with
  | [] => []
  | b :: rest => (nextChar b rest).1 :: decodeChars (nextChar b rest).2
termination_by bytes.length
decreasing_by
  have := length_nextChar b rest
  simp only [List.length_cons]
  omega

def decode (bytes : List UInt8) : String :=
  String.ofList (decodeChars bytes)

/-- The bytes hold no fault: reading and writing them again gives them back. -/
def isValid (bytes : List UInt8) : Bool :=
  (decode bytes).toUTF8.toList == bytes

end SensorTasks.Text.Utf8
