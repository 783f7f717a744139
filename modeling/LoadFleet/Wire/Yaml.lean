import LoadFleet.Wire.JsonReader
/-!
# Plan files

Plans and configuration files are YAML texts of block and flow collections with plain and quoted
scalars. A `Yaml` value keeps scalars as they are written; what a plain scalar means is decided by
whoever reads it: `Yaml.text?` takes its text, `Yaml.toJson` resolves it to null, a truth value, a
number or a text. Keys are values like any other.
-/

namespace LoadFleet

/-- A value in a plan file. -/
inductive Yaml where
  | plain (text : String)
  | quoted (text : String)
  | list (items : List Yaml)
  | map (entries : List (Yaml × Yaml))
  deriving Inhabited

namespace Yaml

/-! ### Scalars -/

/-- The value of a digit of some base up to sixteen. -/
def digit? (base : Nat) (c : Char) : Option Nat :=
  (Json.hexDigit? c).bind fun d => if d < base then some d else none

/-- A number in some base. At least one digit has to be there. -/
def natIn? (base : Nat) (digits : List Char) : Option Nat :=
  if digits.isEmpty then none
  else digits.foldlM (fun n c => (digit? base c).map (n * base + ·)) 0

/-- Whether a text is a row of digits with a superfluous zero in front, which is no number. -/
def hasLeadingZero (digits : List Char) : Bool :=
  1 < digits.length && digits.head? = some '0' && digits.all Char.isDigit

/-- A whole number: decimal, or in another base after `0x`, `0o` or `0b`. -/
def magnitude? (text : List Char) : Option Nat :=
  match text with
  | '0' :: 'x' :: r => natIn? 16 r
  | '0' :: 'o' :: r => natIn? 8 r
  | '0' :: 'b' :: r => natIn? 2 r
  | r => if hasLeadingZero r then none else natIn? 10 r

/-- A decimal text within the range of floating point numbers. -/
def finite? (text : List Char) : Option Json :=
  (Json.decimal? text).bind fun x => if x.isFinite then some (.float x) else none

/-- The special floating point numbers. -/
def special? (text : String) : Option Float :=
  if [".inf", ".Inf", ".INF", "+.inf", "+.Inf", "+.INF"].contains text then some (1.0 / 0.0)
  else if ["-.inf", "-.Inf", "-.INF"].contains text then some (-1.0 / 0.0)
  else if [".nan", ".NaN", ".NAN"].contains text then some (0.0 / 0.0)
  else none

/-- A text without one plus sign in front, unless another sign follows. -/
def withoutPlus? (text : List Char) : Option (List Char) :=
  match text with
  | '+' :: '+' :: _ | '+' :: '-' :: _ => none
  | '+' :: r => some r
  | r => some r

/-- The number that a plain scalar stands for. A whole number that takes more than 64 bits but not
more than 128 cannot be used. -/
def number? (text : String) : Option Json := do
  let body ← withoutPlus? text.toList
  match body with
  | '-' :: r =>
    match magnitude? r with
    | some n =>
      if n ≤ 0x8000000000000000 then return .negative n.toUInt64
      else if n ≤ 0x80000000000000000000000000000000 then return .unreadable
      else finite? body
    | none => if hasLeadingZero r then none else finite? body
  | r =>
    match magnitude? r with
    | some n =>
      if n ≤ wordMax then return .nat n.toUInt64
      else if n ≤ 0xffffffffffffffffffffffffffffffff then return .unreadable
      else finite? body
    | none => if hasLeadingZero r then none else finite? body

/-- Whether a plain scalar stands for nothing. -/
def isNull (text : String) : Bool := ["", "~", "null", "Null", "NULL"].contains text

/-- What a plain scalar stands for. -/
def resolve (text : String) : Json :=
  if isNull text then .null
  else if ["true", "True", "TRUE"].contains text then .bool true
  else if ["false", "False", "FALSE"].contains text then .bool false
  else ((number? text).orElse fun _ => (special? text).map .float).getD (.str text)

/-- The text of a scalar, whatever it stands for. -/
def text? : Yaml → Option String
  | plain text | quoted text => some text
  | _ => none

mutual

/-- The value with all plain scalars resolved. -/
def toJson : Yaml → Json
  | plain text => resolve text
  | quoted text => .str text
  | list items => .arr (listToJson items)
  | map entries => Json.ofEntries (entriesToJson entries)

/-- The items with all plain scalars resolved. -/
def listToJson : List Yaml → List Json
  | [] => []
  | y :: r => toJson y :: listToJson r

/-- The keys and values with all plain scalars resolved. -/
def entriesToJson : List (Yaml × Yaml) → List (Json × Json)
  | [] => []
  | (key, y) :: r => (toJson key, toJson y) :: entriesToJson r

end

/-! ### Nesting -/

mutual

/-- How many collections stand inside each other. -/
def depth : Yaml → Nat
  | list items => depthItems items + 1
  | map entries => depthEntries entries + 1
  | _ => 0

/-- The greatest depth of the items. -/
def depthItems : List Yaml → Nat
  | [] => 0
  | y :: r => max (depth y) (depthItems r)

/-- The greatest depth of the keys and values. -/
def depthEntries : List (Yaml × Yaml) → Nat
  | [] => 0
  | (key, y) :: r => max (max (depth key) (depth y)) (depthEntries r)

end

/-- How many collections may stand inside each other where a value is read as a whole. -/
def room : Nat := 128

end Yaml

end LoadFleet
