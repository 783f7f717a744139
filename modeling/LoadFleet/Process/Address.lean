import LoadFleet.Text.Blank
/-!
# Network addresses

The address that a worker serves at: an IP address and a port, as in `0.0.0.0:8890` or `[::1]:80`.
An address of eight groups is written with its longest run of zero groups left out, and one that
stands for an address of four bytes ends in those bytes.
-/

namespace LoadFleet

/-- An IP address: four bytes, or eight groups of 16 bits. -/
inductive IpAddress where
  | v4 (bytes : List Nat)
  | v6 (groups : List Nat)
  deriving DecidableEq

/-- An IP address, with the number of a zone if it has one, and a port. -/
structure Address where
  ip : IpAddress
  zone : Nat := 0
  port : Nat
  deriving DecidableEq

namespace Address

/-! ### Reading -/

/-- The value of a digit. -/
def digit? (base : Nat) (c : Char) : Option Nat :=
  let n := c.toNat
  let d :=
    if 48 ≤ n && n ≤ 57 then n - 48
    else if 97 ≤ n && n ≤ 102 then n - 87
    else if 65 ≤ n && n ≤ 70 then n - 55
    else base
  if d < base then some d else none

/-- Splits off the digits at the start of a text. -/
def digits (base : Nat) : List Char → List Nat × List Char
  | [] => ([], [])
  | c :: r =>
    match digit? base c with
    | some d => let (ds, rest) := digits base r; (d :: ds, rest)
    | none => ([], c :: r)

/-- Reads a number that is less than `limit`. There may be a greatest number of digits, and zeros
in front may be forbidden. -/
def number? (base limit : Nat) (maxDigits : Option Nat) (leadingZeros : Bool) (text : List Char) :
    Option (Nat × List Char) :=
  let (ds, rest) := digits base text
  let n := ds.foldl (fun n d => n * base + d) 0
  if ds.isEmpty || maxDigits.any (fun m => m < ds.length) || limit ≤ n ||
    (!leadingZeros && 1 < ds.length && ds.head? = some 0) then none
  else some (n, rest)

/-- Reads one character. -/
def char? (c : Char) : List Char → Option (List Char)
  | d :: r => if c = d then some r else none
  | [] => none

/-- Reads a byte. -/
def byte? : List Char → Option (Nat × List Char) := number? 10 256 (some 3) false

/-- Reads four bytes with points between them. -/
def bytes? (text : List Char) : Option (List Nat × List Char) := do
  let (a, text) ← byte? text
  let (b, text) ← byte? (← char? '.' text)
  let (c, text) ← byte? (← char? '.' text)
  let (d, text) ← byte? (← char? '.' text)
  return ([a, b, c, d], text)

/-- Drops the colon in front of every group but the first. -/
def afterColon? (first : Bool) (text : List Char) : Option (List Char) :=
  if first then some text else char? ':' text

/-- Reads up to `limit` groups with colons between them; the last two may be written as four bytes.
Tells whether they were. -/
def groups (first : Bool) : Nat → List Char → List Nat × Bool × List Char
  | 0, text => ([], false, text)
  | limit + 1, text =>
    let four := if limit = 0 then none else (afterColon? first text).bind bytes?
    match four with
    | some ([a, b, c, d], rest) => ([a * 256 + b, c * 256 + d], true, rest)
    | _ =>
      match (afterColon? first text).bind (number? 16 65536 (some 4) true) with
      | some (g, rest) =>
        let (gs, inBytes, rest) := groups false limit rest
        (g :: gs, inBytes, rest)
      | none => ([], false, text)

/-- Reads eight groups, of which a run of zeros may be left out between two colons. -/
def eightGroups? (text : List Char) : Option (List Nat × List Char) := do
  let (front, inBytes, rest) := groups true 8 text
  if front.length = 8 then return (front, rest)
  else if inBytes then none
  else
    let rest ← char? ':' (← char? ':' rest)
    let (back, _, rest) := groups true (7 - front.length) rest
    return (front ++ List.replicate (8 - front.length - back.length) 0 ++ back, rest)

/-- Reads a port behind its colon. -/
def port? (text : List Char) : Option (Nat × List Char) := do
  number? 10 65536 none true (← char? ':' text)

/-- Reads an address of four bytes. -/
def four? (text : List Char) : Option (Address × List Char) := do
  let (bytes, rest) ← bytes? text
  let (port, rest) ← port? rest
  return ({ ip := .v4 bytes, port }, rest)

/-- Reads the number of a zone, if there is one. -/
def zone? (text : List Char) : Option (Nat × List Char) :=
  match text with
  | '%' :: r => number? 10 0x100000000 none true r
  | r => some (0, r)

/-- Reads an address of eight groups. -/
def eight? (text : List Char) : Option (Address × List Char) := do
  let (groups, rest) ← eightGroups? (← char? '[' text)
  let (zone, rest) ← zone? rest
  let (port, rest) ← port? (← char? ']' rest)
  return ({ ip := .v6 groups, zone, port }, rest)

/-- Reads an address. -/
def read? (text : String) : Option Address :=
  match (four? text.toList).orElse fun _ => eight? text.toList with
  | some (a, []) => some a
  | _ => none

/-! ### Writing -/

/-- Four bytes with points between them. -/
def bytesText (bytes : List Nat) : String := ".".intercalate (bytes.map Nat.repr)

/-- A group in hexadecimal digits. -/
def groupText (n : Nat) : String := String.ofList (Nat.toDigits 16 n)

/-- Groups with colons between them. -/
def groupsText (groups : List Nat) : String := ":".intercalate (groups.map groupText)

/-- The number of zeros at the start. -/
def zeros (groups : List Nat) : Nat := (groups.takeWhile (· = 0)).length

/-- Where the first of the longest runs of zeros starts, and its length. -/
def longestRun (groups : List Nat) : Nat × Nat :=
  ((List.range groups.length).map fun i => (i, zeros (groups.drop i))).foldl
    (fun best run => if best.2 < run.2 then run else best) (0, 0)

/-- An IP address. -/
def ipText : IpAddress → String
  | .v4 bytes => bytesText bytes
  | .v6 groups =>
    match groups with
    | [0, 0, 0, 0, 0, 65535, a, b] =>
      "::ffff:" ++ bytesText [a / 256, a % 256, b / 256, b % 256]
    | groups =>
      let (start, length) := longestRun groups
      if length ≤ 1 then groupsText groups
      else groupsText (groups.take start) ++ "::" ++ groupsText (groups.drop (start + length))

/-- An address. -/
def text (a : Address) : String :=
  match a.ip with
  | .v4 _ => s!"{ipText a.ip}:{a.port}"
  | .v6 _ =>
    let zone := if a.zone = 0 then "" else s!"%{a.zone}"
    s!"[{ipText a.ip}{zone}]:{a.port}"

end Address

end LoadFleet
