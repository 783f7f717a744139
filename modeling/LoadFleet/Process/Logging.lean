import LoadFleet.Text.Blank
import LoadFleet.Text.Bytes
import LoadFleet.Text.Letter
import LoadFleet.Text.Pattern
import LoadFleet.Wire.Record
/-!
# Logging

What is logged depends on a level, and on a filter that may ask for more or less of single parts of
the program. A filter is a list of directives separated by commas, such as
`warn,store=debug`. A directive may be about a span, too, as in `store[read{key=1}]=debug`. A
directive that cannot be read is left out.
-/

namespace LoadFleet

/-- How much is logged. -/
inductive LogLevel where
  | off
  | error
  | warn
  | info
  | debug
  | trace
  deriving DecidableEq

namespace LogLevel

/-- All levels, from nothing to everything. -/
def all : List LogLevel := [off, error, warn, info, debug, trace]

/-- The name of a level. -/
def name : LogLevel → String
  | off => "off"
  | error => "error"
  | warn => "warn"
  | info => "info"
  | debug => "debug"
  | trace => "trace"

/-- The position that a text of digits names, with an optional plus sign. -/
def position? (text : String) : Option Nat :=
  let digits := match text.toList with
    | '+' :: r => r
    | r => r
  if digits.isEmpty || !digits.all Char.isDigit then none else some (Json.natOf digits)

/-- The level of a name in any letter case, or of a position. Nothing at all asks for errors. -/
def read? (text : String) : Option LogLevel :=
  match (position? text).bind (all[·]?) with
  | some level => some level
  | none => if text = "" then some error else all.find? fun level => sameLetters text level.name

end LogLevel

/-- What log lines look like. -/
inductive LogFormat where
  /-- Pretty on a terminal, and simplified elsewhere. -/
  | auto
  | pretty
  | simplified
  | json
  deriving DecidableEq

namespace LogFormat

/-- All formats. -/
def all : List LogFormat := [auto, pretty, simplified, json]

/-- The name of a format. -/
def name : LogFormat → String
  | auto => "auto"
  | pretty => "pretty"
  | simplified => "simplified"
  | json => "json"

/-- The format of a name in lower case. -/
def ofName? (name : String) : Option LogFormat := all.find? fun f => f.name = name

/-- The wording of a refusal. -/
def refusal (text : String) : String :=
  "error parsing \"" ++ text ++ "\" as format: expected one of " ++
    ", ".intercalate (all.map fun f => "\"" ++ f.name ++ "\"")

/-- The format of a name in any letter case; nothing at all leaves the choice open. -/
def read? (text : String) : Except String LogFormat :=
  if text = "" then .ok auto
  else
    match all.find? fun f => sameLetters text f.name with
    | some f => .ok f
    | none => .error (refusal text)

end LogFormat

/-! ### Filters -/

/-- What a field of a span has to hold. -/
inductive FieldValue where
  | truth (b : Bool)
  | natural (n : Nat)
  | integer (n : Int)
  | real (x : Float)
  | notANumber
  /-- A text that matches a pattern. -/
  | pattern (text : String)
  deriving BEq

namespace FieldValue

/-- The text of a value. -/
def text : FieldValue → String
  | truth true => "true"
  | truth false => "false"
  | natural n => Nat.repr n
  | integer n => toString n
  | real x => plainText x
  | notANumber => "NaN"
  | pattern text => text

/-- A whole number with an optional sign that fits a word. -/
def whole? (text : String) : Option FieldValue :=
  match text.toList with
  | '-' :: r =>
    if r.isEmpty || !r.all Char.isDigit || 0x8000000000000000 < Json.natOf r then none
    else some (integer (-(Json.natOf r : Int)))
  | _ => (LogLevel.position? text).bind fun n => if n ≤ wordMax then some (natural n) else none

/-- A floating point number, which may be infinite or no number at all. -/
def real? (text : String) : Option FieldValue :=
  let (minus, magnitude) := match text.toList with
    | '-' :: r => (true, String.ofList r)
    | '+' :: r => (false, String.ofList r)
    | r => (false, String.ofList r)
  if sameLetters magnitude "nan" then some notANumber
  else if sameLetters magnitude "inf" || sameLetters magnitude "infinity" then
    some (real (if minus then -1.0 / 0.0 else 1.0 / 0.0))
  else (Json.decimal? text.toList).map real

/-- Reads a value: a truth value, a number, or else a pattern. -/
def read? (text : String) : Option FieldValue :=
  if text = "true" then some (truth true)
  else if text = "false" then some (truth false)
  else
    match (whole? text).orElse fun _ => real? text with
    | some value => some value
    | none => if Pattern.isPattern text then some (pattern text) else none

end FieldValue

/-- A field that a span has to have. -/
structure LogField where
  name : String
  value : Option FieldValue
  deriving BEq

namespace LogField

/-- The text of a field. -/
def text (f : LogField) : String :=
  match f.value with
  | some value => f.name ++ "=" ++ value.text
  | none => f.name

/-- Reads a field. What follows a second equals sign does not count. -/
def read? (text : String) : Option LogField :=
  match splitAtAll (· = '=') text.toList with
  | name :: value :: _ =>
    (FieldValue.read? (String.ofList value)).map fun value => ⟨String.ofList name, some value⟩
  | name :: [] => if name.isEmpty then none else some ⟨String.ofList name, none⟩
  | [] => none

end LogField

/-- What a filter says about a part of the program, or about everything when it names none. -/
structure LogDirective where
  target : Option String
  /-- Only what is inside a span of this name. -/
  span : Option String := none
  /-- Only what is inside a span with these fields. -/
  fields : List LogField := []
  level : LogLevel

namespace LogDirective

/-- Whether two directives are about the same thing. -/
def sameSubject (d e : LogDirective) : Bool :=
  d.target == e.target && d.span == e.span && d.fields == e.fields

/-- The fields of a directive in braces. -/
def fieldsText (fields : List LogField) : String :=
  if fields.isEmpty then ""
  else "\x7b" ++ ",".intercalate (fields.map LogField.text) ++ "\x7d"

/-- The text of a directive. -/
def text (d : LogDirective) : String :=
  let spanText :=
    if d.span.isNone && d.fields.isEmpty then ""
    else "[" ++ d.span.getD "" ++ fieldsText d.fields ++ "]"
  let subject := d.target.getD "" ++ spanText
  if d.target.isNone && spanText = "" then d.level.name else subject ++ "=" ++ d.level.name

/-- Whether a directive also holds outside of spans: it asks for fields by name alone. -/
def alsoOutside (d : LogDirective) : Bool :=
  d.span.isNone && !d.fields.isEmpty && d.fields.all fun f => f.value.isNone

/-- Whether a directive may start with a character. -/
def mayStart (c : Char) : Bool := ['-', ':', '_', '['].contains c || isAlphanumeric c

/-- The level after an equals sign; nothing at all asks for everything. -/
def levelAfter? (text : String) : Option LogLevel :=
  if text = "" then some .trace else LogLevel.read? text

/-- Where the reading of a directive stands: in front of it, or behind the start of one of its
parts. -/
inductive Reading where
  | start
  | subject (start : Nat)
  | span (start : Nat)
  | field (start : Nat)
  | fieldsClosed
  | closed
  | level (start : Nat)

/-- Reads on by one character at a position. Positions count from the start of `written`, which is
the directive with the blanks around it. -/
def step? (written : List Char) (d : LogDirective) (i : Nat) (c : Char) :
    Reading → Option (LogDirective × Reading)
  | .start => if c = '[' then some (d, .span (i + 1)) else if mayStart c then some (d, .subject i)
    else none
  | .subject s =>
    if c = '=' then some ({ d with target := some (sliceBytes s i written) }, .level (i + 1))
    else if c = '[' then some ({ d with target := some (sliceBytes s i written) }, .span (i + 1))
    else some (d, .subject s)
  | .span s =>
    if c = ']' then some ({ d with span := some (sliceBytes s i written) }, .closed)
    else if c = '\x7b' then
      let name := sliceBytes s i written
      some ({ d with span := if name = "" then none else some name }, .field (i + 1))
    else some (d, .span s)
  | .field s =>
    if c = '\x7d' then
      (LogField.read? (sliceBytes s i written)).map fun field =>
        ({ d with fields := d.fields ++ [field] }, .fieldsClosed)
    else some (d, .field s)
  | .fieldsClosed => if c = ']' then some (d, .closed) else none
  | .closed => if c = '=' then some (d, .level (i + 1)) else none
  | .level s => some (d, .level s)

/-- Reads the characters from a position on. -/
def readFrom? (written : List Char) : LogDirective → Reading → Nat → List Char →
    Option (LogDirective × Reading)
  | d, reading, _, [] => some (d, reading)
  | d, reading, i, c :: r => do
    let (d, reading) ← step? written d i c reading
    readFrom? written d reading (i + c.utf8Size) r

/-- Reads a directive. A lone word is a level if it names one, and otherwise the part of the program
of which everything is asked for. -/
def read? (text : String) : Option LogDirective := do
  let written := text.toList
  let (d, reading) ← readFrom? written { target := none, level := .trace } .start 0
    (trimmed text).toList
  match reading with
  | .subject s =>
    let word := String.ofList (dropBytes s written)
    match LogLevel.read? word with
    | some level => return { d with level }
    | none => return { d with target := some word }
  | .level s => return { d with level := ← levelAfter? (String.ofList (dropBytes s written)) }
  | .closed => return d
  | _ => none

end LogDirective

/-- The directives of a filter, no two of them about the same thing. -/
abbrev LogFilter := List LogDirective

namespace LogFilter

/-- Adds a directive, in the place of one about the same thing. -/
def add (d : LogDirective) : LogFilter → LogFilter
  | [] => [d]
  | e :: r => if e.sameSubject d then d :: r else e :: add d r

/-- The filter of a text. Without any directive only errors are logged. -/
def read (text : String) : LogFilter :=
  let directives := (splitAtAll (· = ',') text.toList).filterMap fun piece =>
    if piece.isEmpty then none else LogDirective.read? (String.ofList piece)
  match directives.foldl (fun filter d => add d filter) [] with
  | [] => [{ target := none, level := .error }]
  | filter => filter

/-- The text of a filter. A directive that also holds outside of spans is written twice. -/
def text (filter : LogFilter) : String :=
  ",".intercalate (filter.flatMap fun d => if d.alsoOutside then [d.text, d.text] else [d.text])

/-- The parts of the program itself. -/
def ownParts : List String :=
  ["fleetbench_coordinator", "fleetbench_worker", "fleetbench_stats", "fleetbench_types"]

/-- The filter unless another is asked for: all of the program itself, and what matters of the
rest. -/
def default : LogFilter :=
  { target := none, level := .info } ::
    ownParts.map fun part => { target := some part, level := .trace }

/-- The level and the filter that the environment asks for. A level by itself overrides the
configured one; anything else is taken as a filter, and then the level lets everything pass. -/
def resolve (configured : LogLevel) (wanted : Option String) : LogLevel × LogFilter :=
  match wanted with
  | none => (configured, default)
  | some text =>
    match LogLevel.read? text with
    | some level => (level, default)
    | none => (.trace, read text)

end LogFilter

end LoadFleet
