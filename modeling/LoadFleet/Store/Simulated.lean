import LoadFleet.Store.Class
import LoadFleet.Time.Span
/-!
# A simulated store

A `Simulated` store is a store in memory with manners: each kind of call takes its time, and may
then hang, crash or fail instead of reaching the store. Cursors may be scripted to hold given
numbers of entries, whatever is stored.
-/

namespace LoadFleet

/-- What becomes of a call once its time is up. -/
inductive CallFate where
  /-- The store answers. -/
  | answered
  /-- No answer ever comes. -/
  | hangs
  /-- The caller crashes. -/
  | crashes (message : String)
  | fails (error : StoreError)
  deriving DecidableEq

/-- The manners of a simulated store. -/
structure Manners where
  /-- How long each call takes. -/
  delays : List (StoreCall × Span) := []
  hanging : List StoreCall := []
  crashing : List StoreCall := []
  /-- Calls that fail, and what lies behind it. -/
  failing : List (StoreCall × String) := []
  /-- The numbers of entries of scripted cursors, in the order of opening. -/
  script : Option (List UInt64) := none
  /-- Whether the store tells its topology. -/
  tellsTopology : Bool := true
  /-- What the store tells as the size of every container. -/
  claimedSize : Option (Option UInt64) := none

namespace Manners

/-- How long a call takes. -/
def delay (m : Manners) (call : StoreCall) : Span := (m.delays.lookup call).getD .zero

/-- What becomes of a call. -/
def fate (m : Manners) (call : StoreCall) : CallFate :=
  if m.hanging.contains call then .hangs
  else if m.crashing.contains call then .crashes s!"{call.name} exploded"
  else
    match m.failing.lookup call with
    | some cause => .fails (.generic s!"calling {call.name}" [cause])
    | none => .answered

end Manners

/-- A store in memory with manners. -/
structure Simulated where
  name : String
  manners : Manners
  /-- The number of scripted cursors opened so far. -/
  opened : Nat
  memory : InMemory

namespace Simulated

/-- A cursor over entries of the store, or one with a scripted number of entries left. -/
inductive Cursor where
  | stored (entries : InMemory.Cursor)
  | scripted (left : Nat)

/-- A store with good manners. -/
def plain (name : String) (memory : InMemory) : Simulated := ⟨name, {}, 0, memory⟩

/-- Puts the memory after a call into the place of the memory before it. -/
def withMemory {α : Type} (s : Simulated) (r : α × InMemory) : α × Simulated :=
  (r.1, { s with memory := r.2 })

/-- Opens a cursor. A scripted cursor takes the place of the one that the store hands out. -/
def iterate (s : Simulated) (container filter converter : Option String) :
    Except StoreError Cursor × Simulated :=
  let (r, after) := s.withMemory (s.memory.iterate container filter converter)
  match r, s.manners.script with
  | .error e, _ => (.error e, after)
  | .ok c, none => (.ok (.stored c), after)
  | .ok _, some counts =>
    (.ok (.scripted ((counts[s.opened]?).getD 0).toNat), { after with opened := s.opened + 1 })

/-- Whether a cursor has an entry left. -/
def hasNext (s : Simulated) : Cursor → Except StoreError Bool × Simulated
  | .stored c => s.withMemory (s.memory.hasNext c)
  | .scripted left => (.ok (0 < left), s)

/-- The next entry of a cursor, and the cursor after it. -/
def next (s : Simulated) : Cursor → Except StoreError (Entry × Cursor) × Simulated
  | .stored c =>
    let (r, s) := s.withMemory (s.memory.next c)
    (r.map fun (e, c) => (e, .stored c), s)
  | .scripted left => (.ok (⟨InMemory.keyOf (left - 1), .empty⟩, .scripted (left - 1)), s)

/-- Closes a cursor. -/
def close (s : Simulated) : Cursor → Except StoreError Unit × Simulated
  | .stored _ => s.withMemory s.memory.close
  | .scripted _ => (.ok (), s)

/-- What the store tells as the size of a container. -/
def totalSize (s : Simulated) (container : Option String) :
    Except StoreError (Option UInt64) :=
  match s.manners.claimedSize with
  | some size => .ok size
  | none => s.memory.totalSize container

instance : Store Simulated Cursor where
  invoke s container operation := s.withMemory (s.memory.invoke container operation)
  iterate := iterate
  hasNext := hasNext
  next := next
  close := close

end Simulated

end LoadFleet
