import SensorTasks.Text.Blank
import SensorTasks.Text.Hex

/-!
Addresses of listening sockets: a host and a number there. A host is four numbers with dots between
them, or in brackets eight groups of up to four hexadecimal digits with colons between them. One run
of zero groups may be left out, and the last two groups may be written as four numbers with dots.
-/

namespace SensorTasks

inductive Host where
  | four (a b c d : UInt8)
  /-- Eight groups, and the number of a zone or zero. -/
  | six (groups : List UInt16) (zone : UInt32) (eight : groups.length = 8)
  deriving DecidableEq

structure SocketAddress where
  host : Host
  portNumber : UInt16
  deriving DecidableEq

/-! ### Reading -/

namespace Host

/-- A number below `limit` in digits of a base, at most `most` of them. -/
def takeNumber (base most limit : Nat) (zeroFirst : Bool) (cs : List Char) :
    Option (Nat × List Char) :=
  let digit? c := (Text.hexValue c).filter (· < base)
  let ds := cs.takeWhile fun c => (digit? c).isSome
  let n := (ds.filterMap digit?).foldl (fun n d => n * base + d) 0
  if ds.isEmpty || most < ds.length || limit ≤ n then none
  else if !zeroFirst && ds.head? == some '0' && ds.length != 1 then none
  else some (n, cs.drop ds.length)

/-- A number without zeros at its front, after a dot if it is not the first. -/
def takeOctet (first : Bool) (cs : List Char) : Option (UInt8 × List Char) :=
  let number (cs : List Char) := (takeNumber 10 3 256 false cs).map fun (n, rest) =>
    (UInt8.ofNat n, rest)
  match first, cs with
  | true, cs => number cs
  | false, '.' :: cs => number cs
  | false, _ => none

def takeOctets (cs : List Char) : Option ((UInt8 × UInt8 × UInt8 × UInt8) × List Char) := do
  let (a, cs) ← takeOctet true cs
  let (b, cs) ← takeOctet false cs
  let (c, cs) ← takeOctet false cs
  let (d, cs) ← takeOctet false cs
  pure ((a, b, c, d), cs)

def group (high low : UInt8) : UInt16 := high.toUInt16 * 256 + low.toUInt16

/-- Up to `room` groups, whether they end in numbers with dots, and what follows. -/
def takeGroups : (room : Nat) → (first : Bool) → List Char → List UInt16 × Bool × List Char
  | 0, _, cs => ([], false, cs)
  | room + 1, first, cs =>
    match (if first then some cs else if cs.head? == some ':' then some (cs.drop 1) else none) with
    | none => ([], false, cs)
    | some start =>
      match (if room = 0 then none else takeOctets start) with
      | some ((a, b, c, d), rest) => ([group a b, group c d], true, rest)
      | none =>
        match takeNumber 16 4 65536 true start with
        | none => ([], false, cs)
        | some (n, rest) =>
          let (groups, dotted, rest) := takeGroups room false rest
          (UInt16.ofNat n :: groups, dotted, rest)

/-- Eight groups, or fewer with a pair of colons in place of the others. -/
def takeSix (cs : List Char) : Option (List UInt16 × List Char) :=
  let (front, dotted, rest) := takeGroups 8 true cs
  if front.length = 8 then some (front, rest)
  else if dotted then none
  else
    match rest with
    | ':' :: ':' :: rest =>
      let (back, _, rest) := takeGroups (7 - front.length) true rest
      some (front ++ List.replicate (8 - front.length - back.length) 0 ++ back, rest)
    | _ => none

def takeZone : List Char → UInt32 × List Char
  | '%' :: cs =>
    match takeNumber 10 cs.length UInt32.size true cs with
    | some (n, rest) => (UInt32.ofNat n, rest)
    | none => (0, '%' :: cs)
  | cs => (0, cs)

/-- A host and what follows it. -/
def take (cs : List Char) : Option (Host × List Char) :=
  match cs with
  | '[' :: cs => do
    let (groups, cs) ← takeSix cs
    let (zone, cs) := takeZone cs
    if h : groups.length = 8 then
      if cs.head? == some ']' then some (.six groups zone h, cs.drop 1) else none
    else none
  | cs => (takeOctets cs).map fun ((a, b, c, d), rest) => (.four a b c d, rest)

end Host

namespace SocketAddress

def parse? (text : String) : Option SocketAddress := do
  let (host, cs) ← Host.take text.toList
  match cs with
  | ':' :: cs =>
    match Host.takeNumber 10 cs.length 65536 true cs with
    | some (n, []) => some ⟨host, UInt16.ofNat n⟩
    | _ => none
  | _ => none

end SocketAddress

/-! ### Writing -/

namespace Host

def groupsText (groups : List UInt16) : String :=
  ":".intercalate (groups.map fun g => String.ofList (Text.hexDigits g.toNat))

def octetsText (a b c d : UInt8) : String :=
  ".".intercalate ([a, b, c, d].map fun n => toString n.toNat)

/-- The length of the run of zeros at the front. -/
def zeros (groups : List UInt16) : Nat := (groups.takeWhile (· == 0)).length

/-- The start and the length of the longest run of zeros, the first one of that length. -/
def longestRun (groups : List UInt16) : Nat × Nat :=
  (List.range groups.length).foldl
    (fun best i => if best.2 < zeros (groups.drop i) then (i, zeros (groups.drop i)) else best)
    (0, 0)

/-- The groups with the longest run of zeros left out, if it has more than one. An address of the
other kind that is written as eight groups keeps its dots. -/
def sixText (groups : List UInt16) : String :=
  match groups with
  | [0, 0, 0, 0, 0, 0xFFFF, g, h] =>
    "::ffff:" ++ octetsText (g / 256).toUInt8 g.toUInt8 (h / 256).toUInt8 h.toUInt8
  | groups =>
    let (start, length) := longestRun groups
    if 1 < length then
      groupsText (groups.take start) ++ "::" ++ groupsText (groups.drop (start + length))
    else groupsText groups

def render : Host → String
  | .four a b c d => octetsText a b c d
  | .six groups zone _ =>
    "[" ++ sixText groups ++ (if zone == 0 then "" else "%" ++ toString zone.toNat) ++ "]"

end Host

def SocketAddress.render (a : SocketAddress) : String :=
  a.host.render ++ ":" ++ toString a.portNumber.toNat

end SensorTasks
