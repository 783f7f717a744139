import LoadFleet.Store.InMemory
/-!
# Stores in general

A stressor needs five calls of a store. Anything that answers them is a `Store`: its state changes
with every call, and its cursors stay with whoever opened them.
-/

namespace LoadFleet

/-- The calls of a stressor that a state of type `T`, with cursors of type `C`, can answer. -/
class Store (T : Type) (C : outParam Type) where
  /-- Answers a request for a single entry. -/
  invoke : T → Option String → Operation → Except StoreError Response × T
  /-- Opens a cursor over a container, with a filter and a converter. -/
  iterate : T → Option String → Option String → Option String → Except StoreError C × T
  /-- Whether a cursor has an entry left. -/
  hasNext : T → C → Except StoreError Bool × T
  /-- The next entry of a cursor, and the cursor after it. -/
  next : T → C → Except StoreError (Entry × C) × T
  /-- Closes a cursor. -/
  close : T → C → Except StoreError Unit × T

instance : Store InMemory InMemory.Cursor where
  invoke := InMemory.invoke
  iterate := InMemory.iterate
  hasNext := InMemory.hasNext
  next := InMemory.next
  close s _ := s.close

end LoadFleet
