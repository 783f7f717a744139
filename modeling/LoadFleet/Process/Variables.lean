import LoadFleet.Process.Layers
import LoadFleet.Text.Blank
import LoadFleet.Text.Bytes
/-!
# Settings in the environment

A variable whose name starts with `FB__` is a setting. The rest of the name is its path, with two
underscores between the parts and without regard to letter case. The text of the variable is a
value: a truth value, a number, a list in brackets, a tree in braces or a text. What cannot be read
as one of these is a text as a whole.
-/

namespace LoadFleet.Variables

/-! ### Values -/

/-- Whether a character ends a bare value. -/
def isSeparator (c : Char) : Bool := [',', '\x7b', '\x7d', '[', ']'].contains c

/-- Whether a character belongs to a bare name. -/
def isNameChar (c : Char) : Bool := c.isAlphanum || c = '_' || c = '-'

/-- Whether a character may stand around a value. -/
def isSpace (c : Char) : Bool := c = ' ' || (9 ≤ c.toNat && c.toNat ≤ 13 && c.toNat ≠ 11)

/-- Drops the space at the start. -/
def skipSpace (text : List Char) : List Char := text.dropWhile isSpace

/-- The text inside quotes as it is written, after the opening quote. -/
def inner? : List Char → Option (List Char × List Char)
  | [] => none
  | '"' :: r => some ([], r)
  | '\\' :: c :: r => (inner? r).map fun (cs, rest) => ('\\' :: c :: cs, rest)
  | c :: r => (inner? r).map fun (cs, rest) => (c :: cs, rest)

/-- The character of an escape of one letter. -/
def unescape? (c : Char) : Option Char :=
  match c with
  | 'b' => some (Char.ofNat 8)
  | 'f' => some (Char.ofNat 12)
  | 'n' => some '\n'
  | 't' => some '\t'
  | 'r' => some '\r'
  | '"' => some '"'
  | '\\' => some '\\'
  | _ => none

/-- The character that a row of digits stands for. -/
def numbered? (digits : List Char) : Option Char :=
  (Yaml.natIn? 16 digits).bind fun n => if n.isValidChar then some (Char.ofNat n) else none

/-- What a text with escapes stands for. Control characters have to be escaped, but for the tab. -/
def unescaped? : List Char → Option (List Char)
  | [] => some []
  | '\\' :: 'u' :: a :: b :: c :: d :: r =>
    (numbered? [a, b, c, d]).bind fun e => (unescaped? r).map (e :: ·)
  | '\\' :: 'U' :: a :: b :: c :: d :: e :: f :: g :: h :: r =>
    (numbered? [a, b, c, d, e, f, g, h]).bind fun e => (unescaped? r).map (e :: ·)
  | '\\' :: c :: r => (unescape? c).bind fun e => (unescaped? r).map (e :: ·)
  | c :: r =>
    if c = '\t' || (32 ≤ c.toNat && c.toNat ≠ 127) then (unescaped? r).map (c :: ·) else none

/-- Reads a quoted text after its opening quote. Of what stands in front of the first escape, as
many bytes are kept as there are characters. -/
def quoted? (text : List Char) : Option (List Char × List Char) :=
  (inner? text).bind fun (written, rest) =>
    (unescaped? written).map fun cs =>
      let plain := written.takeWhile (· ≠ '\\')
      if plain.length = written.length then (cs, rest)
      else (takeBytes plain.length plain ++ cs.drop plain.length, rest)

/-- A whole number with an optional plus sign. -/
def natural? (text : List Char) : Option Nat :=
  let digits := match text with
    | '+' :: r => r
    | r => r
  if digits.isEmpty || !digits.all Char.isDigit then none else some (Json.natOf digits)

/-- A whole number that fits a word, with or without a sign. -/
def integer? (text : List Char) : Option Json :=
  match text with
  | '-' :: r =>
    if r.isEmpty || !r.all Char.isDigit then none
    else
      let n := Json.natOf r
      if n ≤ 0x8000000000000000 then some (.negative n.toUInt64) else none
  | r => (natural? r).bind fun n => if n ≤ wordMax then some (.nat n.toUInt64) else none

/-- What a bare value stands for. Only a number with a point is a floating point number. -/
def bare (text : List Char) : Json :=
  let number := if text.contains '.' then (Json.decimal? text).map Json.float else none
  match number.orElse fun _ => integer? text with
  | some j => j
  | none => .str (String.ofList text)

mutual

/-- Reads a value, with the space around it. Every level takes a step. -/
def value? : Nat → List Char → Option (Json × List Char)
  | 0, _ => none
  | steps + 1, text => do
    let text := skipSpace text
    let (j, rest) ←
      if let some r := afterStart? "true".toList text then some (Json.bool true, r)
      else if let some r := afterStart? "false".toList text then some (Json.bool false, r)
      else match text with
        | '\x7b' :: r => tree? steps [] r
        | '[' :: r => list? steps [] r
        | '"' :: r => (quoted? r).map fun (cs, rest) => (Json.str (String.ofList cs), rest)
        | '\'' :: c :: '\'' :: r => some (.letter c, r)
        | '\'' :: _ => none
        | text =>
          let word := text.takeWhile fun c => !isSeparator c
          some (bare (trimmed (String.ofList word)).toList, text.drop word.length)
    return (j, skipSpace rest)

/-- Reads the items of a list after its opening bracket; the items read so far come last first. -/
def list? : Nat → List Json → List Char → Option (Json × List Char)
  | 0, _, _ => none
  | _, items, ']' :: r => some (.arr items.reverse, r)
  | steps + 1, items, text => do
    let (j, rest) ← value? steps text
    match rest with
    | ',' :: r => list? steps (j :: items) r
    | ']' :: r => return (.arr (j :: items).reverse, r)
    | _ => none

/-- Reads the members of a tree after its opening brace. -/
def tree? : Nat → List (String × Json) → List Char → Option (Json × List Char)
  | 0, _, _ => none
  | _, members, '\x7d' :: r => some (.obj members, r)
  | steps + 1, members, text => do
    let (name, rest) ← match skipSpace text with
      | '"' :: r => quoted? r
      | r =>
        let word := r.takeWhile isNameChar
        if word.isEmpty then none else some (word, r.drop word.length)
    match skipSpace rest with
    | '=' :: r =>
      let (j, rest) ← value? steps r
      let members := Layers.put (String.ofList name) j members
      match rest with
      | ',' :: r => tree? steps members r
      | '\x7d' :: r => return (.obj members, r)
      | _ => none
    | _ => none

end

/-- What the text of a variable stands for. -/
def read (text : String) : Json :=
  match value? (text.length + 2) text.toList with
  | some (j, []) => j
  | _ => .str text

/-! ### Names -/

/-- The start of the names of variables that are settings. -/
def nameStart : String := "FB__"

/-- Puts a point in the place of two underscores. -/
def pointed : List Char → List Char
  | '_' :: '_' :: r => '.' :: pointed r
  | c :: r => c :: pointed r
  | [] => []

/-- The path that the name of a variable stands for, if it is a setting. -/
def path? (name : String) : Option (List String) := do
  let lower := (trimmed name).toList.map Char.toLower
  let rest ← afterStart? (nameStart.toList.map Char.toLower) lower
  let path := splitAtAll (· = '.') (trimmed (String.ofList (pointed rest))).toList
  if path.any List.isEmpty then none else some (path.map String.ofList)

/-- The layer of the environment. -/
def layer (environment : List (String × String)) : Json :=
  environment.foldl (fun settings (name, text) =>
    match path? name with
    | some path => Layers.overlay settings (Layers.nest (read text) path)
    | none => settings) (.obj [])

end LoadFleet.Variables
