import LoadFleet.Wire.Json
/-!
# Reading JSON texts

`Json.read?` reads a whole text as one value. Blanks may stand between the parts of the text and
nothing may follow the value. Nesting is not limited here: how deep a value may go depends on what
it is read for.

A number with a fraction or an exponent is collected into a 64-bit significand, further digits
being dropped, and scaled by one power of ten; `scaleTen?` fixes the order of these roundings.
-/

namespace LoadFleet.Json

/-- Blanks between the parts of a text. -/
def isSpace (c : Char) : Bool := c = ' ' || c = '\n' || c = '\t' || c = '\r'

/-- Drops leading blanks. -/
def skipSpace (text : List Char) : List Char := text.dropWhile isSpace

/-! ### Texts -/

/-- A character of a quoted text, or one half of a pair that stands for a character. -/
inductive TextUnit where
  | char (c : Char)
  | surrogate (n : Nat)

/-- The value of a hexadecimal digit. -/
def hexDigit? (c : Char) : Option Nat :=
  if '0' ≤ c ∧ c ≤ '9' then some (c.toNat - 48)
  else if 'a' ≤ c ∧ c ≤ 'f' then some (c.toNat - 87)
  else if 'A' ≤ c ∧ c ≤ 'F' then some (c.toNat - 55)
  else none

/-- The value of four hexadecimal digits. -/
def hexWord? (a b c d : Char) : Option Nat := do
  return (((← hexDigit? a) * 16 + (← hexDigit? b)) * 16 + (← hexDigit? c)) * 16 + (← hexDigit? d)

/-- The character of an escape of one letter. -/
def unescape? (c : Char) : Option Char :=
  match c with
  | '"' => some '"'
  | '\\' => some '\\'
  | '/' => some '/'
  | 'b' => some (Char.ofNat 8)
  | 'f' => some (Char.ofNat 12)
  | 'n' => some '\n'
  | 'r' => some '\r'
  | 't' => some '\t'
  | _ => none

/-- The unit that a number of four hexadecimal digits stands for. -/
def unitOf (n : Nat) : TextUnit :=
  if 0xD800 ≤ n ∧ n < 0xE000 then .surrogate n else .char (Char.ofNat n)

/-- Reads the units of a text up to its closing quote. -/
def readUnits? : List Char → Option (List TextUnit × List Char)
  | [] => none
  | '"' :: r => some ([], r)
  | '\\' :: 'u' :: a :: b :: c :: d :: r =>
    match hexWord? a b c d with
    | some n => (readUnits? r).map fun (us, rest) => (unitOf n :: us, rest)
    | none => none
  | '\\' :: c :: r =>
    match unescape? c with
    | some e => (readUnits? r).map fun (us, rest) => (.char e :: us, rest)
    | none => none
  | c :: r =>
    if c.toNat < 32 then none
    else (readUnits? r).map fun (us, rest) => (.char c :: us, rest)

/-- Joins the halves of pairs; a half without its other half is no text. -/
def joinUnits? : List TextUnit → Option (List Char)
  | [] => some []
  | .char c :: r => (joinUnits? r).map (c :: ·)
  | .surrogate hi :: .surrogate lo :: r =>
    if hi < 0xDC00 ∧ 0xDC00 ≤ lo then
      (joinUnits? r).map (Char.ofNat (0x10000 + (hi - 0xD800) * 0x400 + (lo - 0xDC00)) :: ·)
    else none
  | .surrogate _ :: _ => none

/-- Reads a text after its opening quote; the text itself is `none` when it is unreadable. -/
def readText? (text : List Char) : Option (Option String × List Char) :=
  (readUnits? text).map fun (us, rest) => ((joinUnits? us).map String.ofList, rest)

/-! ### Numbers -/

/-- Multiplies or divides by a power of ten: by one of at most `10 ^ 308` at once, and by more in
steps, up to `steps` of them. There is no result beyond the floating point range. -/
def scaleTen? : Nat → Float → Int → Option Float
  | 0, x, _ => some x
  | steps + 1, x, exponent =>
    if exponent.natAbs ≤ 308 then
      let power := Float.ofScientific (Nat.pow 10 exponent.natAbs) false 0
      if exponent < 0 then some (x / power)
      else if (x * power).isInf then none else some (x * power)
    else if x == 0 then some x
    else if exponent < 0 then scaleTen? steps (x / 1e308) (exponent + 308)
    else none

/-- Collects digits into a 64-bit significand; from the first digit that does not fit on, they are
only counted. -/
def collectDigits : Nat → Nat → List Char → Nat × Nat
  | significand, dropped, [] => (significand, dropped)
  | significand, dropped, c :: r =>
    let next := significand * 10 + (c.toNat - 48)
    if dropped = 0 ∧ next ≤ wordMax then collectDigits next 0 r
    else collectDigits significand (dropped + 1) r

/-- The floating point number of a sign, whole digits, digits after the point and an exponent. -/
def floatOf? (minus : Bool) (whole fraction : List Char) (exponent : Int) : Option Float := do
  let (significand, dropped) := collectDigits 0 0 whole
  let (full, droppedFraction) := collectDigits significand 0 fraction
  let scale := exponent + dropped - (fraction.length - droppedFraction : Nat)
  let x ← scaleTen? 1200 full.toUInt64.toFloat
    (if scale < -350000 then -350000 else if 350000 < scale then 350000 else scale)
  return if minus then -x else x

/-- A number of digits. -/
def natOf (digits : List Char) : Nat := digits.foldl (fun n c => n * 10 + (c.toNat - 48)) 0

/-- The value of a number without fraction and exponent. -/
def integerOf (minus : Bool) (digits : List Char) : Json :=
  let n := natOf digits
  if n ≤ wordMax ∧ !minus then .nat n.toUInt64
  else if 0 < n ∧ n ≤ 0x8000000000000000 ∧ minus then .negative n.toUInt64
  else ((floatOf? minus digits [] 0).map Json.float).getD .unreadable

/-- Splits off the digits at the start. -/
def digitsOf (text : List Char) : List Char × List Char :=
  (text.takeWhile Char.isDigit, text.dropWhile Char.isDigit)

/-- Splits off a sign, which may be left out: whether it is a minus, and what follows it. -/
def signOf : List Char → Bool × List Char
  | '-' :: r => (true, r)
  | '+' :: r => (false, r)
  | r => (false, r)

/-- Splits off a minus. -/
def minusOf : List Char → Bool × List Char
  | '-' :: r => (true, r)
  | r => (false, r)

/-- Reads an exponent after its `e`. -/
def readExponent? (text : List Char) : Option (Int × List Char) :=
  let (minus, text) := signOf text
  let (digits, rest) := digitsOf text
  if digits.isEmpty then none
  else some (if minus then -(natOf digits : Int) else natOf digits, rest)

/-- The floating point number of a decimal text as a whole, correctly rounded, with an optional
sign, fraction and exponent; it is infinite beyond the range of such numbers. -/
def decimal? (text : List Char) : Option Float :=
  let (minus, text) := signOf text
  let (whole, rest) := digitsOf text
  let (fraction, rest) := match rest with
    | '.' :: r => digitsOf r
    | r => ([], r)
  if whole.isEmpty && fraction.isEmpty then none
  else do
    let (exponent, rest) ← match rest with
      | 'e' :: r | 'E' :: r => readExponent? r
      | r => some ((0 : Int), r)
    if !rest.isEmpty then none
    else
      let scale := exponent - fraction.length
      let x := Float.ofScientific (natOf (whole ++ fraction)) (scale < 0) scale.natAbs
      return if minus then -x else x

/-- Reads the digits after the point of a number, if there is a point. -/
def fractionOf? : List Char → Option (Option (List Char) × List Char)
  | '.' :: r => if (digitsOf r).1.isEmpty then none else some (some (digitsOf r).1, (digitsOf r).2)
  | r => some (none, r)

/-- Reads the exponent of a number, if it has one. -/
def exponentOf? : List Char → Option (Option Int × List Char)
  | 'e' :: r | 'E' :: r => (readExponent? r).map fun (n, rest) => (some n, rest)
  | r => some (none, r)

/-- Reads a number. A number does not start with a superfluous zero, and a point and an `e` are
followed by digits. -/
def readNumber? (text : List Char) : Option (Json × List Char) := do
  let (minus, text) := minusOf text
  let (whole, rest) := digitsOf text
  if whole.isEmpty ∨ (whole.head? = some '0' ∧ 1 < whole.length) then none
  else
    let (fraction, rest) ← fractionOf? rest
    let (exponent, rest) ← exponentOf? rest
    if fraction.isNone ∧ exponent.isNone then return (integerOf minus whole, rest)
    else
      let x := floatOf? minus whole (fraction.getD []) (exponent.getD 0)
      return ((x.map Json.float).getD .unreadable, rest)

/-! ### Values -/

/-- Reads a literal word. -/
def readWord? (word : List Char) (value : Json) (text : List Char) : Option (Json × List Char) :=
  if word.isPrefixOf text then some (value, text.drop word.length) else none

/-- Whether a name is made of digits that are not all written out. Such a name is no number. -/
def hidesDigits (name : String) (written : List Char) : Bool :=
  name.toList.all Char.isDigit && (written.takeWhile (· ≠ '"')).contains '\\'

/-- The name of a member; the flag is set where it hides digits. -/
structure Name where
  text : String
  hidesDigits : Bool

/-- Reads the name of a member after its opening quote; it is `none` when it is unreadable. -/
def readName? (text : List Char) : Option (Option Name × List Char) :=
  (readText? text).map fun (name, rest) => (name.map fun s => ⟨s, hidesDigits s text⟩, rest)

/-- An object of members read so far, in reverse; it is unreadable if a name is. -/
def objectOf (members : List (Option Name × Json)) : Json :=
  match members.reverse.mapM fun (name, j) => name.map fun n => (n, j) with
  | some ms =>
    if ms.any fun m => m.1.hidesDigits then .keyed (ms.map fun m => (.str m.1.text, m.2))
    else .obj (ms.map fun m => (m.1.text, m.2))
  | none => .unreadable

mutual

/-- Reads one value. The step count bounds the calls; every second call takes a character. -/
def readValue? : Nat → List Char → Option (Json × List Char)
  | 0, _ => none
  | steps + 1, text =>
    match skipSpace text with
    | '"' :: r => (readText? r).map fun (s, rest) => ((s.map Json.str).getD .unreadable, rest)
    | '[' :: r =>
      match skipSpace r with
      | ']' :: rest => some (.arr [], rest)
      | r => readItems? steps [] r
    | '\x7b' :: r =>
      match skipSpace r with
      | '\x7d' :: rest => some (.obj [], rest)
      | r => readMembers? steps [] r
    | 't' :: r => readWord? "rue".toList (.bool true) r
    | 'f' :: r => readWord? "alse".toList (.bool false) r
    | 'n' :: r => readWord? "ull".toList .null r
    | r => readNumber? r

/-- Reads the items of an array, given those read so far in reverse. -/
def readItems? : Nat → List Json → List Char → Option (Json × List Char)
  | 0, _, _ => none
  | steps + 1, items, text =>
    match readValue? steps text with
    | none => none
    | some (j, rest) =>
      match skipSpace rest with
      | ',' :: r => readItems? steps (j :: items) r
      | ']' :: r => some (.arr (j :: items).reverse, r)
      | _ => none

/-- Reads the members of an object, given those read so far in reverse. -/
def readMembers? : Nat → List (Option Name × Json) → List Char → Option (Json × List Char)
  | 0, _, _ => none
  | steps + 1, members, text =>
    match skipSpace text with
    | '"' :: r =>
      match readName? r with
      | none => none
      | some (name, rest) =>
        match skipSpace rest with
        | ':' :: r =>
          match readValue? steps r with
          | none => none
          | some (j, rest) =>
            match skipSpace rest with
            | ',' :: r => readMembers? steps ((name, j) :: members) r
            | '\x7d' :: r => some (objectOf ((name, j) :: members), r)
            | _ => none
        | _ => none
    | _ => none

end

/-- Reads a whole text as one value. -/
def read? (text : String) : Option Json :=
  match readValue? (2 * text.toList.length + 2) text.toList with
  | some (j, rest) => if (skipSpace rest).isEmpty then some j else none
  | none => none

end LoadFleet.Json
