import LoadFleet.Collection.OrderedMap
/-!
# Operations of a store

A store keeps named containers of entries. It is asked to read, write and remove single entries,
and to hand out cursors that pass over the entries of a container. What goes wrong is a
`StoreError`.
-/

namespace LoadFleet

/-- A value that a store keeps. -/
abbrev Bytes := Array UInt8

/-- The bytes of a text. -/
def Bytes.ofString (s : String) : Bytes := s.toUTF8.data

/-- A value of zero bytes only. -/
def Bytes.zeros (size : Nat) : Bytes := Array.replicate size 0

/-- An entry of a container. -/
structure Entry where
  key : String
  value : Bytes
  deriving DecidableEq

/-- A request for a single entry. -/
inductive Operation where
  | get (key : String)
  | put (key : String) (value : Bytes)
  | remove (key : String)
  deriving DecidableEq

/-- The name of an operation in statistics and messages. -/
def Operation.name : Operation → String
  | get _ => "GET"
  | put _ _ => "PUT"
  | remove _ => "REMOVE"

/-- The key that a request is for. -/
def Operation.key : Operation → String
  | get key | put key _ | remove key => key

/-- The answer to a request for a single entry. -/
inductive Response where
  | value (value : Option Bytes)
  | stored
  /-- Whether there was an entry to remove. -/
  | removed (present : Bool)
  deriving DecidableEq

/-- Why a store could not do what it was asked for. -/
inductive StoreError where
  | unknownContainer (container : String)
  | unsupported (what : String)
  | unavailable (reason : String)
  /-- Any other trouble, with what lies behind it. -/
  | generic (context : String) (causes : List String)
  deriving DecidableEq

namespace StoreError

/-- The wording of an error, without its causes. -/
def message : StoreError → String
  | unknownContainer container => s!"unknown container `{container}`"
  | unsupported what => s!"unsupported: {what}"
  | unavailable reason => s!"store unavailable: {reason}"
  | generic context _ => s!"store error: {context}"

/-- The wording of an error and of its causes. -/
def chain (e : StoreError) : List String :=
  e.message ::
    match e with
    | generic _ causes => causes
    | _ => []

end StoreError

/-- The calls that a store answers. -/
inductive StoreCall where
  | invoke
  | iterate
  | hasNext
  | next
  | close
  | totalSize
  | members
  deriving DecidableEq

namespace StoreCall

/-- All calls. -/
def all : List StoreCall := [invoke, iterate, hasNext, next, close, totalSize, members]

/-- The name of a call in messages. -/
def name : StoreCall → String
  | invoke => "invoke"
  | iterate => "iterate"
  | hasNext => "has_next"
  | next => "next"
  | close => "close"
  | totalSize => "total_size"
  | members => "members"

/-- The call of a name. -/
def ofName? (name : String) : Option StoreCall := all.find? fun c => c.name = name

end StoreCall

end LoadFleet
