import LoadFleet.Store.Operation
import LoadFleet.Text.Blank
/-!
# The store in memory

`InMemory` keeps containers as ordered maps. For every kind of call it has a counter of faults that
are still to be injected: a call with an armed fault counts it down, fails, and does nothing else.

A cursor passes over the entries that were there when it was opened, in the order of their keys.
-/

namespace LoadFleet

/-- The calls into which faults can be injected. -/
inductive FaultKind where
  | invoke
  | iterate
  | hasNext
  | next
  | close
  deriving DecidableEq

/-- The kind of fault that a call can have. -/
def FaultKind.ofCall? : StoreCall → Option FaultKind
  | .invoke => some invoke
  | .iterate => some iterate
  | .hasNext => some hasNext
  | .next => some next
  | .close => some close
  | _ => none

/-- How many faults are still to be injected, by kind of call. -/
structure Faults where
  invoke : UInt32 := 0
  iterate : UInt32 := 0
  hasNext : UInt32 := 0
  next : UInt32 := 0
  close : UInt32 := 0
  deriving DecidableEq

namespace Faults

/-- The number of faults of a kind. -/
def get (f : Faults) : FaultKind → UInt32
  | .invoke => f.invoke
  | .iterate => f.iterate
  | .hasNext => f.hasNext
  | .next => f.next
  | .close => f.close

/-- Sets the number of faults of a kind. -/
def set (f : Faults) (kind : FaultKind) (n : UInt32) : Faults :=
  match kind with
  | .invoke => { f with invoke := n }
  | .iterate => { f with iterate := n }
  | .hasNext => { f with hasNext := n }
  | .next => { f with next := n }
  | .close => { f with close := n }

/-- Counts down the faults of a kind, if there is one left. -/
def take? (f : Faults) (kind : FaultKind) : Option Faults :=
  if f.get kind = 0 then none else some (f.set kind (f.get kind - 1))

/-- A number that is set is seen under its own kind and nowhere else. -/
theorem get_set (f : Faults) (kind other : FaultKind) (n : UInt32) :
    (f.set kind n).get other = if other = kind then n else f.get other := by
  cases kind <;> cases other <;> rfl

end Faults

/-- The entries of a container. -/
abbrev Container := OrderedMap String Bytes

/-- The container that is meant when none is named. -/
def defaultContainer : String := "default"

/-- The container that a call is for. -/
def containerName (container : Option String) : String := container.getD defaultContainer

/-- A store in memory. -/
structure InMemory where
  containers : OrderedMap String Container
  faults : Faults
  running : Bool
  deriving DecidableEq

namespace InMemory

/-- A store with an empty default container. -/
def empty : InMemory :=
  ⟨OrderedMap.empty.insert defaultContainer .empty, {}, true⟩

/-- The key of the entry with a number. -/
def keyOf (i : Nat) : String := "key" ++ Nat.repr i

/-- The keys of the first entries in ascending order. -/
def firstKeys (count : Nat) : List String :=
  ((List.range count).map keyOf).mergeSort fun a b => (compare a b).isLE

/-- Fills a container, which is created if it is missing, with entries of zero bytes. They are
inserted from the last one on, each in front of those that are there already. -/
def populate (s : InMemory) (container : String) (count : UInt64) (size : UInt64) : InMemory :=
  let known := (s.containers.find? container).getD .empty
  let value := Bytes.zeros size.toNat
  let filled := (firstKeys count.toNat).foldr (fun key m => m.insert key value) known
  { s with containers := s.containers.insert container filled }

/-- The number of entries of a container. -/
def size (s : InMemory) (container : String) : Nat :=
  (s.containers.find? container).elim 0 OrderedMap.size

/-- Arms faults of a kind. -/
def arm (s : InMemory) (kind : FaultKind) (count : UInt32) : InMemory :=
  { s with faults := s.faults.set kind count }

/-- Fails if a fault of the kind is armed, and goes on otherwise. -/
def unlessFault {α : Type} (s : InMemory) (kind : FaultKind) (reason : String)
    (go : Except StoreError α × InMemory) : Except StoreError α × InMemory :=
  match s.faults.take? kind with
  | some faults => (.error (.unavailable reason), { s with faults })
  | none => go

/-! ### Single entries -/

/-- What a request does to a container, and its answer. -/
def Container.serve (m : Container) : Operation → Response × Container
  | .get key => (.value (m.find? key), m)
  | .put key value => (.stored, m.insert key value)
  | .remove key => (.removed (m.contains key), m.erase key)

/-- Answers a request for a single entry. -/
def invoke (s : InMemory) (container : Option String) (operation : Operation) :
    Except StoreError Response × InMemory :=
  s.unlessFault .invoke s!"injected {operation.name} failure" <|
    let name := containerName container
    match s.containers.find? name with
    | none => (.error (.unknownContainer name), s)
    | some m =>
      let (response, after) := Container.serve m operation
      (.ok response, { s with containers := s.containers.insert name after })

/-! ### Cursors -/

/-- The entries that a cursor has still to pass. -/
abbrev Cursor := List Entry

/-- The start of the keys that a filter asks for. -/
def filterStart? (filter : Option String) : Except StoreError (List Char) :=
  match filter with
  | none => .ok []
  | some text =>
    match afterStart? "prefix:".toList text.toList with
    | some start => .ok start
    | none => .error (.unsupported s!"filter `{text}`")

/-- Whether a converter puts the key in the place of the value. -/
def yieldsKeys? (converter : Option String) : Except StoreError Bool :=
  match converter with
  | none | some "identity" => .ok false
  | some "key" => .ok true
  | some other => .error (.unsupported s!"converter `{other}`")

/-- The entries of a container whose key starts with a text, in the order of their keys. -/
def snapshot (m : Container) (start : List Char) (keys : Bool) : Cursor :=
  (m.entries.filter fun e => start.isPrefixOf e.1.toList).map fun (key, value) =>
    ⟨key, if keys then Bytes.ofString key else value⟩

/-- The cursor that a call for one gets, without faults. -/
def cursor? (s : InMemory) (container filter converter : Option String) :
    Except StoreError Cursor := do
  let start ← filterStart? filter
  let keys ← yieldsKeys? converter
  let name := containerName container
  match s.containers.find? name with
  | some m => return snapshot m start keys
  | none => throw (.unknownContainer name)

/-- Opens a cursor. -/
def iterate (s : InMemory) (container filter converter : Option String) :
    Except StoreError Cursor × InMemory :=
  s.unlessFault .iterate "injected iterator failure"
    (s.cursor? container filter converter, s)

/-- Whether a cursor has an entry left. -/
def hasNext (s : InMemory) (c : Cursor) : Except StoreError Bool × InMemory :=
  s.unlessFault .hasNext "injected has_next failure" (.ok !c.isEmpty, s)

/-- The next entry of a cursor, and the cursor after it. A failed call leaves the cursor where it
is. -/
def next (s : InMemory) (c : Cursor) : Except StoreError (Entry × Cursor) × InMemory :=
  s.unlessFault .next "injected next failure" <|
    match c with
    | [] => (.error (.unavailable "cursor is exhausted"), s)
    | e :: r => (.ok (e, r), s)

/-- Closes a cursor. -/
def close (s : InMemory) : Except StoreError Unit × InMemory :=
  s.unlessFault .close "injected close failure" (.ok (), s)

/-- What a cursor gave when it was asked for everything: entries and failures in turn, and why it
was not asked any more if something went wrong. -/
structure Drained where
  steps : List (Except StoreError Entry)
  stopped : Option StoreError
  after : InMemory

/-- Asks a cursor for entries as long as it has more. A failure to step does not end this, so there
may be as many rounds as entries and failures together. -/
def drainFor : Nat → InMemory → Cursor → Drained
  | 0, s, _ => ⟨[], none, s⟩
  | rounds + 1, s, c =>
    match s.hasNext c with
    | (.error e, s) => ⟨[], some e, s⟩
    | (.ok false, s) => ⟨[], none, s⟩
    | (.ok true, s) =>
      match s.next c with
      | (.ok (e, c), s) => let d := drainFor rounds s c; { d with steps := .ok e :: d.steps }
      | (.error e, s) => let d := drainFor rounds s c; { d with steps := .error e :: d.steps }

/-- Asks a cursor for everything. -/
def drain (s : InMemory) (c : Cursor) : Drained :=
  drainFor (c.length + s.faults.next.toNat + 1) s c

/-- The number of entries of a container. -/
def totalSize (s : InMemory) (container : Option String) : Except StoreError (Option UInt64) :=
  let name := containerName container
  match s.containers.find? name with
  | some m => .ok (some m.size.toUInt64)
  | none => .error (.unknownContainer name)

end InMemory

end LoadFleet
