import LoadFleet.Number.Decimal
/-!
# JSON values

A `Json` value is what a JSON text says, with the members of an object in the order of the text
and repeated names kept. Whole numbers that fit a 64-bit word, with or without a sign, stay whole;
every other number is floating point.

Values that can be skipped but not used stand as `unreadable`: a text with an unpaired surrogate,
an object with such a name, and a number beyond the floating point range.

A `keyed` value is a map with keys that are no names, such as numbers. A JSON text has such a map
only where the digits of a name are spelled with escapes, which keeps them from being read as a
number; a plan file may have any value as a key.
-/

namespace LoadFleet

/-- A JSON value. -/
inductive Json where
  | null
  | bool (b : Bool)
  | nat (n : UInt64)
  /-- A number with a minus sign, of a magnitude that is at most half the range of a word. -/
  | negative (magnitude : UInt64)
  | float (x : Float)
  | str (s : String)
  /-- A text of one character that is written as a character. -/
  | letter (c : Char)
  | arr (items : List Json)
  | obj (members : List (String × Json))
  | keyed (entries : List (Json × Json))
  | unreadable
  deriving Inhabited

namespace Json

/-- An optional value, written as `null` when absent. -/
def option {α : Type} (f : α → Json) : Option α → Json
  | some a => f a
  | none => .null

/-- A whole number of a small range. -/
def int (n : Int) : Json :=
  if n < 0 then .negative n.natAbs.toUInt64 else .nat n.natAbs.toUInt64

/-- The name that a key is, if it is one. -/
def keyName? : Json → Option String
  | .str s => some s
  | _ => none

/-- A map with the given entries, which is an object if all its keys are names. -/
def ofEntries (entries : List (Json × Json)) : Json :=
  match entries.mapM fun e => (keyName? e.1).map fun name => (name, e.2) with
  | some members => .obj members
  | none => .keyed entries

/-- The member list of an optional value that is left out when absent. -/
def member? {α : Type} (name : String) (f : α → Json) : Option α → List (String × Json)
  | some a => [(name, f a)]
  | none => []

/-! ### Writing -/

/-- The escape of a character inside a text, which is the character itself for most. -/
def escape (c : Char) : List Char :=
  match c with
  | '"' => ['\\', '"']
  | '\\' => ['\\', '\\']
  | '\n' => ['\\', 'n']
  | '\r' => ['\\', 'r']
  | '\t' => ['\\', 't']
  | _ =>
    if c.toNat = 8 then ['\\', 'b']
    else if c.toNat = 12 then ['\\', 'f']
    else if c.toNat < 32 then
      ['\\', 'u', '0', '0', Nat.digitChar (c.toNat / 16), Nat.digitChar (c.toNat % 16)]
    else [c]

/-- A text in quotes. -/
def quote (s : String) : List Char := '"' :: s.toList.flatMap escape ++ ['"']

/-- A floating point number; one that is not finite has no text of its own. -/
def floatText (x : Float) : List Char :=
  match Decimal.shortest? x with
  | some d => d.scientific.toList
  | none => "null".toList

mutual

/-- The text of a value, without blanks. -/
def write : Json → List Char
  | null => "null".toList
  | bool true => "true".toList
  | bool false => "false".toList
  | nat n => (Nat.repr n.toNat).toList
  | negative n => '-' :: (Nat.repr n.toNat).toList
  | float x => floatText x
  | str s => quote s
  | letter c => quote (String.singleton c)
  | arr items => '[' :: writeItems items
  | obj members => '\x7b' :: writeMembers members
  | keyed entries => '\x7b' :: writeEntries entries
  | unreadable => "null".toList

/-- The items of an array and its closing bracket. -/
def writeItems : List Json → List Char
  | [] => [']']
  | [j] => write j ++ [']']
  | j :: k :: r => write j ++ ',' :: writeItems (k :: r)

/-- The members of an object and its closing brace. -/
def writeMembers : List (String × Json) → List Char
  | [] => ['\x7d']
  | [(name, j)] => quote name ++ ':' :: write j ++ ['\x7d']
  | (name, j) :: m :: r => quote name ++ ':' :: write j ++ ',' :: writeMembers (m :: r)

/-- The entries of a map and its closing brace. -/
def writeEntries : List (Json × Json) → List Char
  | [] => ['\x7d']
  | [(key, j)] => write key ++ ':' :: write j ++ ['\x7d']
  | (key, j) :: e :: r => write key ++ ':' :: write j ++ ',' :: writeEntries (e :: r)

end

/-- The text of a value, without blanks. -/
def compact (j : Json) : String := String.ofList j.write

/-- A new line, indented by two blanks a level. -/
def newLine (level : Nat) : List Char := '\n' :: List.replicate (2 * level) ' '

mutual

/-- The text of a value at a nesting level, with a line for every item and member. -/
def writeLines (level : Nat) : Json → List Char
  | arr [] => ['[', ']']
  | obj [] => ['\x7b', '\x7d']
  | arr (j :: r) =>
    '[' :: newLine (level + 1) ++ writeLines (level + 1) j ++ writeMoreItems level r
  | obj ((name, j) :: r) =>
    '\x7b' :: newLine (level + 1) ++ quote name ++ ':' :: ' ' :: writeLines (level + 1) j ++
      writeMoreMembers level r
  | j => j.write

/-- The items after the first, and the closing bracket. -/
def writeMoreItems (level : Nat) : List Json → List Char
  | [] => newLine level ++ [']']
  | j :: r => ',' :: newLine (level + 1) ++ writeLines (level + 1) j ++ writeMoreItems level r

/-- The members after the first, and the closing brace. -/
def writeMoreMembers (level : Nat) : List (String × Json) → List Char
  | [] => newLine level ++ ['\x7d']
  | (name, j) :: r =>
    ',' :: newLine (level + 1) ++ quote name ++ ':' :: ' ' :: writeLines (level + 1) j ++
      writeMoreMembers level r

end

/-- The text of a value with a line for every item and member. -/
def pretty (j : Json) : String := String.ofList (j.writeLines 0)

/-! ### Nesting -/

mutual

/-- How many arrays and objects stand inside each other. -/
def depth : Json → Nat
  | arr items => depthItems items + 1
  | obj members => depthMembers members + 1
  | keyed entries => depthEntries entries + 1
  | _ => 0

/-- The greatest depth of the items. -/
def depthItems : List Json → Nat
  | [] => 0
  | j :: r => max (depth j) (depthItems r)

/-- The greatest depth of the members. -/
def depthMembers : List (String × Json) → Nat
  | [] => 0
  | (_, j) :: r => max (depth j) (depthMembers r)

/-- The greatest depth of the keys and values. -/
def depthEntries : List (Json × Json) → Nat
  | [] => 0
  | (key, j) :: r => max (max (depth key) (depth j)) (depthEntries r)

end

mutual

/-- Whether no part of the value is unreadable. -/
def readable : Json → Bool
  | arr items => readableItems items
  | obj members => readableMembers members
  | keyed entries => readableEntries entries
  | unreadable => false
  | _ => true

/-- Whether no part of the items is unreadable. -/
def readableItems : List Json → Bool
  | [] => true
  | j :: r => readable j && readableItems r

/-- Whether no part of the members is unreadable. -/
def readableMembers : List (String × Json) → Bool
  | [] => true
  | (_, j) :: r => readable j && readableMembers r

/-- Whether no part of the entries is unreadable. -/
def readableEntries : List (Json × Json) → Bool
  | [] => true
  | (key, j) :: r => readable key && readable j && readableEntries r

end

end Json

end LoadFleet
