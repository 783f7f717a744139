import LoadFleet.Collection.OrderedMap
import LoadFleet.Time.Readable
import LoadFleet.Wire.JsonReader
/-!
# Records, choices and maps in JSON

A record is written as an object and may also be read from an array of its fields in order.
Unknown members of an object are skipped, a repeated field is an error. `Slot` is what a record
holds for one field; the functions on it say what happens when the field is absent.

A choice between alternatives with settings of their own is written as a record with a tag that
names the alternative; it may also be read from an array that starts with the tag. Because the
rest of a choice is put aside until its tag is known, all of it has to be readable, and it may
not nest deeper than its place allows. What has been put aside may be written more freely than the
rest of a text: a number among the keys of a record is the position of a field. Only a character is
not taken for a text there.
-/

namespace LoadFleet

/-- What a record holds for a field: a value, nothing in an object, or nothing in an array. -/
inductive Slot where
  | value (j : Json)
  | noMember
  | noItem

namespace Json

/-- The slot of a field in an object; a repeated field is an error. -/
def memberSlot? (members : List (String × Json)) (name : String) : Option Slot :=
  match members.filter fun m => m.1 = name with
  | [] => some .noMember
  | [m] => some (.value m.2)
  | _ => none

/-- The members of a record that entries stand for: a number is the position of a field, and of
other keys only names can be read. Positions beyond the last field are skipped. -/
def named? (fields : List String) : List (Json × Json) → Option (List (String × Json))
  | [] => some []
  | (str s, j) :: r => (named? fields r).map ((s, j) :: ·)
  | (nat n, j) :: r =>
    match fields[n.toNat]? with
    | some name => (named? fields r).map ((name, j) :: ·)
    | none => named? fields r
  | _ :: _ => none

/-- The slots of the fields of a record, in the order of the fields. -/
def record? (fields : List String) : Json → Option (List Slot)
  | obj members => fields.mapM (memberSlot? members)
  | keyed entries => (named? fields entries).bind fun members => fields.mapM (memberSlot? members)
  | arr items =>
    if items.length ≤ fields.length then
      some (items.map .value ++ List.replicate (fields.length - items.length) .noItem)
    else none
  | _ => none

/-! ### Plain values -/

/-- A text. -/
def str? : Json → Option String
  | str s => some s
  | letter c => some (String.singleton c)
  | _ => none

/-- A truth value. -/
def bool? : Json → Option Bool
  | bool b => some b
  | _ => none

/-- A whole number of 64 bits, which may be zero with a minus sign. -/
def word? : Json → Option UInt64
  | nat n => some n
  | negative 0 => some 0
  | _ => none

/-- A whole number of 32 bits. -/
def halfWord? (j : Json) : Option UInt32 :=
  (word? j).bind fun n => if n.toNat < 0x100000000 then some n.toUInt32 else none

/-- A whole number of 32 bits with a sign. -/
def signedHalfWord? : Json → Option Int
  | nat n => if n.toNat < 0x80000000 then some n.toNat else none
  | negative n => if n.toNat ≤ 0x80000000 then some (-(n.toNat : Int)) else none
  | _ => none

/-- A floating point number, which may be written as a whole one. -/
def float? : Json → Option Float
  | nat n => some n.toFloat
  | negative n => some (0 - n.toFloat)
  | float x => some x
  | _ => none

/-- A span, written as people write spans. -/
def span? (j : Json) : Option Span := j.str?.bind Span.read?

/-- A list. -/
def list? {α : Type} (read : Json → Option α) : Json → Option (List α)
  | arr items => items.mapM read
  | _ => none

/-- A value that may be `null`. -/
def nullable? {α : Type} (read : Json → Option α) : Json → Option (Option α)
  | null => some none
  | j => (read j).map some

/-! ### Maps and sets -/

/-- A set, read from a list. -/
def set? {K : Type} [Ord K] [Std.TransOrd K] [Std.LawfulEqOrd K] (read : Json → Option K)
    (j : Json) : Option (OrderedSet K) :=
  (list? read j).map OrderedSet.ofList

/-- A set as the list of its members. -/
def set {K : Type} [Ord K] (write : K → Json) (s : OrderedSet K) : Json :=
  arr (s.toList.map write)

/-- A map with names as keys; of entries with the same name the last counts. -/
def map? {V : Type} (read : Json → Option V) : Json → Option (OrderedMap String V)
  | obj members =>
    (members.mapM fun m => (read m.2).map fun v => (m.1, v)).map OrderedMap.ofList
  | keyed entries =>
    (entries.mapM fun e => (keyName? e.1).bind fun name => (read e.2).map fun v => (name, v)).map
      OrderedMap.ofList
  | _ => none

/-- A map with names as keys. -/
def map {V : Type} (write : V → Json) (m : OrderedMap String V) : Json :=
  obj (m.entries.map fun e => (e.1, write e.2))

/-- A 64-bit word written in decimal digits, without superfluous zeros. -/
def keyWord? (key : String) : Option UInt64 :=
  let digits := key.toList
  if digits.isEmpty || !digits.all Char.isDigit || (digits.head? = some '0' && 1 < digits.length)
  then none
  else if natOf digits ≤ wordMax then some (natOf digits).toUInt64 else none

/-- A map with numbers as keys, which are written as texts. -/
def wordMap? {V : Type} (read : Json → Option V) : Json → Option (OrderedMap UInt64 V)
  | obj members =>
    (members.mapM fun m => (keyWord? m.1).bind fun k => (read m.2).map fun v => (k, v)).map
      OrderedMap.ofList
  | _ => none

/-- A map with numbers as keys. -/
def wordMap {V : Type} (write : V → Json) (m : OrderedMap UInt64 V) : Json :=
  obj (m.entries.map fun e => (Nat.repr e.1.toNat, write e.2))

/-! ### Places -/

/-- Where a value stands, which decides how freely it may be written. -/
inductive Place where
  /-- In a text, with room for a number of arrays and objects inside each other. -/
  | text (room : Nat)
  /-- In layers of settings, where nothing limits the nesting. -/
  | settings
  /-- In what a choice has put aside. -/
  | aside

/-- The place of a JSON text as a whole. -/
def Place.json : Place := .text 127

/-- The place of a value that stands inside `levels` more arrays and objects. -/
def Place.deeper (levels : Nat) : Place → Place
  | .text room => .text (room - levels)
  | place => place

/-- The slots of the fields of a record at a place. In settings, the items of an array after those
of the last field are skipped. -/
def recordAt? (place : Place) (fields : List String) (j : Json) : Option (List Slot) :=
  match place, j with
  | .settings, arr items => record? fields (arr (items.take fields.length))
  | _, j => record? fields j

/-! ### Named values -/

/-- Whether a value stands for nothing; an empty object does where a choice has put it aside. -/
def isNothing (place : Place) : Json → Bool
  | null => true
  | obj [] =>
    match place with
    | .aside => true
    | _ => false
  | _ => false

/-- The member of an object that stands for a named value: the only one, or in settings the first by
name. -/
def nameMember? (place : Place) : List (String × Json) → Option (String × Json)
  | [] => none
  | [m] => some m
  | m :: r =>
    match place with
    | .settings => some (r.foldl (fun a b => if b.1 < a.1 then b else a) m)
    | _ => none

/-- One of a number of named values. A value may also be written as an object that holds nothing
under the name, or under the position of the value. -/
def name? {α : Type} (all : List α) (read : String → Option α) (place : Place) : Json → Option α
  | str s => read s
  | obj members =>
    (nameMember? place members).bind fun m => if isNothing place m.2 then read m.1 else none
  | keyed [(nat n, j)] => if isNothing place j then all[n.toNat]? else none
  | _ => none

/-! ### Choices -/

/-- Whether a value at a place may be put aside. -/
def mayPutAside (place : Place) (j : Json) : Bool :=
  match place with
  | .text room => j.readable && j.depth ≤ room
  | .settings => j.readable
  | .aside => true

/-- The alternative that a tag names. Outside of texts, a tag may also be the position of the
alternative in the list of names. -/
def tag? (names : List String) (place : Place) : Json → Option String
  | str s => if names.contains s then some s else none
  | nat n =>
    match place with
    | .text _ => none
    | _ => names[n.toNat]?
  | _ => none

mutual

/-- What is left of a value when it is put aside: a character can no longer be used. -/
def putAside : Json → Json
  | letter _ => unreadable
  | arr items => arr (putItemsAside items)
  | obj members => obj (putMembersAside members)
  | keyed entries => keyed (putEntriesAside entries)
  | j => j

/-- What is left of items. -/
def putItemsAside : List Json → List Json
  | [] => []
  | j :: r => putAside j :: putItemsAside r

/-- What is left of members. -/
def putMembersAside : List (String × Json) → List (String × Json)
  | [] => []
  | (name, j) :: r => (name, putAside j) :: putMembersAside r

/-- What is left of entries. -/
def putEntriesAside : List (Json × Json) → List (Json × Json)
  | [] => []
  | (key, j) :: r => (putAside key, putAside j) :: putEntriesAside r

end

/-- Whether a key is a name. -/
def isName (name : String) (key : Json) : Bool := keyName? key = some name

/-- The tag of a choice and a record of the rest. -/
def choice? (tagName : String) (names : List String) (place : Place) (j : Json) :
    Option (String × Json) :=
  if mayPutAside place j then
    match j.putAside with
    | obj members =>
      match members.filter fun m => m.1 = tagName with
      | [m] => do
        return (← tag? names place m.2, obj (members.filter fun m => m.1 ≠ tagName))
      | _ => none
    | keyed entries =>
      match entries.filter fun e => isName tagName e.1 with
      | [e] => do
        return (← tag? names place e.2, keyed (entries.filter fun e => !isName tagName e.1))
      | _ => none
    | arr (t :: rest) => do return (← tag? names place t, arr rest)
    | _ => none
  else none

end Json

namespace Slot

/-- A field that has to be there. -/
def required {α : Type} (read : Json → Option α) : Slot → Option α
  | value j => read j
  | _ => none

/-- A field that may be `null`, and missing from an object but not from an array. -/
def optional {α : Type} (read : Json → Option α) : Slot → Option (Option α)
  | value j => j.nullable? read
  | noMember => some none
  | noItem => none

/-- A field with a default. -/
def orElse {α : Type} (default : α) (read : Json → Option α) : Slot → Option α
  | value j => read j
  | _ => some default

end Slot

end LoadFleet
