import LoadFleet.Proofs.ByteOrder
import LoadFleet.Stressor.Ask
import Mathlib.Data.Finmap
/-!
# Calls of a store in memory

All handles of a store in memory share it, so that calls through any of them are calls of one store,
one after the other. An `Ideal` store is what such a store is about: a finite map from names of
containers to finite maps, and for each kind of call a number of faults that are armed.

* `Ideal.Serves`: how an ideal store serves a call, with one case for each thing that may happen.
* `InMemory.lists_snapshot`: the entries of a cursor, in the order of the bytes of their keys.
* `InMemory.serve_of_armed`: a call with an armed fault.
* `InMemory.serve_refines`: a store in memory serves each call as the ideal store does.
-/

namespace LoadFleet

/-! ### Finite maps -/

namespace OrderedMap

variable {K V W : Type} [Ord K] [Std.TransOrd K] [Std.LawfulEqOrd K] [DecidableEq K]

omit [Std.TransOrd K] [Std.LawfulEqOrd K] in
/-- The finite map with the entries of an ordered one, whose values are taken over. -/
def toFinmap (f : V → W) (m : OrderedMap K V) : Finmap fun _ : K => W :=
  (m.entries.map fun e => (⟨e.1, f e.2⟩ : Sigma fun _ : K => W)).toFinmap

omit [Std.TransOrd K] in
theorem lookup_toFinmap (f : V → W) (m : OrderedMap K V) (k : K) :
    (m.toFinmap f).lookup k = (m.find? k).map f := by
  rw [toFinmap, Finmap.dlookup_list_toFinmap, find?]
  induction m.entries with
  | nil => rfl
  | cons e r ih =>
    rw [List.map_cons, lookup]
    by_cases same : k = e.1
    · subst same
      rw [List.dlookup_cons_eq, if_pos Std.ReflCmp.compare_self]
      rfl
    · rw [List.dlookup_cons_ne _ _ same, ih,
        if_neg fun eq => same (Std.LawfulEqCmp.eq_of_compare eq)]

theorem card_keys_toFinmap (f : V → W) (m : OrderedMap K V) :
    (m.toFinmap f).keys.card = m.size := by
  have keys : (m.toFinmap f).keys = m.keys.toFinset := by
    ext k
    rw [Finmap.mem_keys, ← Finmap.lookup_isSome, lookup_toFinmap, List.mem_toFinset, mem_keys_iff,
      Option.isSome_map, Option.isSome_iff_exists]
  rw [keys, List.toFinset_card_of_nodup m.nodup_keys, OrderedMap.keys, List.length_map, size]

end OrderedMap

/-! ### Finite maps of entries -/

/-- The finite map that a container is about. -/
abbrev Table := Finmap fun _ : String => Bytes

namespace Table

/-- What a request is answered. -/
def answer (t : Table) : Operation → Response
  | .get key => .value (t.lookup key)
  | .put _ _ => .stored
  | .remove key => .removed (key ∈ t)

/-- What a request leaves. -/
def after (t : Table) : Operation → Table
  | .get _ => t
  | .put key value => t.insert key value
  | .remove key => t.erase key

theorem lookup_after_of_ne (t : Table) {operation : Operation} {key : String}
    (apart : key ≠ operation.key) : (t.after operation).lookup key = t.lookup key := by
  cases operation with
  | get => rfl
  | put => exact Finmap.lookup_insert_of_ne _ apart
  | remove => exact Finmap.lookup_erase_ne apart

/-- A table after the first entries were filled in, each of so many zero bytes. -/
structure Fills (count size : UInt64) (old new : Table) : Prop where
  filled : ∀ i < count.toNat, new.lookup (InMemory.keyOf i) = some (Bytes.zeros size.toNat)
  kept : ∀ key, (∀ i < count.toNat, key ≠ InMemory.keyOf i) → new.lookup key = old.lookup key

/-- A cursor is to pass over the entries of a table whose key starts with a text, each once, in the
order of the bytes of their keys. It may be to give the bytes of the key in place of the value. -/
structure Lists (t : Table) (start : String) (keys : Bool) (c : InMemory.Cursor) : Prop where
  mem_iff : ∀ e, e ∈ c ↔ start.toList <+: e.key.toList ∧
    ∃ value, t.lookup e.key = some value ∧
      e.value = if keys then Bytes.ofString e.key else value
  ascending : c.Pairwise fun a b => (Bytes.ofString a.key).toList < (Bytes.ofString b.key).toList

end Table

namespace Container

/-- The finite map of a container. -/
def table (m : Container) : Table := m.toFinmap id

@[simp] theorem lookup_table (m : Container) (key : String) :
    m.table.lookup key = m.find? key := by
  rw [table, OrderedMap.lookup_toFinmap, Option.map_id, id]

theorem card_keys_table (m : Container) : m.table.keys.card = m.size :=
  OrderedMap.card_keys_toFinmap id m

theorem mem_table (m : Container) (key : String) : key ∈ m.table ↔ m.contains key := by
  rw [← Finmap.lookup_isSome, lookup_table, OrderedMap.contains]

open InMemory.Container in
/-- A container serves a request as its finite map does. -/
theorem serve_eq (m : Container) (operation : Operation) :
    (serve m operation).1 = m.table.answer operation ∧
      Container.table (serve m operation).2 = m.table.after operation := by
  cases operation with
  | get key => exact ⟨congrArg Response.value (m.lookup_table key).symm, rfl⟩
  | put key value =>
    refine ⟨rfl, Finmap.ext_lookup fun other => ?_⟩
    rw [serve, Table.after, lookup_table]
    by_cases same : other = key
    · rw [same, OrderedMap.find?_insert_self, Finmap.lookup_insert]
    · rw [OrderedMap.find?_insert_of_ne m value same, Finmap.lookup_insert_of_ne _ same,
        lookup_table]
  | remove key =>
    refine ⟨?_, Finmap.ext_lookup fun other => ?_⟩
    · simp only [serve, Table.answer, mem_table, Bool.decide_eq_true]
    · rw [serve, Table.after, lookup_table]
      by_cases same : other = key
      · rw [same, OrderedMap.find?_erase_self, Finmap.lookup_erase]
      · rw [OrderedMap.find?_erase_of_ne m same, Finmap.lookup_erase_ne same, lookup_table]

end Container

/-! ### What is asked for -/

namespace InMemory

/-- A filter asks for the keys that start with a text. -/
def Asks (filter : Option String) (start : String) : Prop :=
  filter = none ∧ start = "" ∨ filter = some ("prefix:" ++ start)

theorem filterStart?_of_asks {filter : Option String} {start : String} (asks : Asks filter start) :
    filterStart? filter = .ok start.toList := by
  rcases asks with ⟨rfl, rfl⟩ | rfl
  · rfl
  · rw [filterStart?, String.toList_append, afterStart?_append]

/-- A converter puts the key in the place of the value, or leaves the value. -/
def Converts (converter : Option String) (keys : Bool) : Prop :=
  (converter = none ∨ converter = some "identity") ∧ keys = false ∨
    converter = some "key" ∧ keys = true

/-- A filter that asks for nothing is not supported. -/
theorem filterStart?_of_not_asks {filter : String} (other : ∀ start, ¬ Asks (some filter) start) :
    filterStart? (some filter) = .error (.unsupported s!"filter `{filter}`") := by
  rw [filterStart?]
  split
  · next start split =>
    have whole : filter = "prefix:" ++ String.ofList start :=
      String.toList_inj.1 ((eq_append_of_afterStart? split).trans (by simp))
    exact absurd (.inr (congrArg some whole)) (other (String.ofList start))
  · rfl

theorem yieldsKeys?_of_converts {converter : Option String} {keys : Bool}
    (converts : Converts converter keys) : yieldsKeys? converter = .ok keys := by
  rcases converts with ⟨rfl | rfl, rfl⟩ | ⟨rfl, rfl⟩ <;> rfl

/-- A converter that does neither is not supported. -/
theorem yieldsKeys?_of_not_converts {converter : String}
    (other : ∀ keys, ¬ Converts (some converter) keys) :
    yieldsKeys? (some converter) = .error (.unsupported s!"converter `{converter}`") := by
  rw [yieldsKeys?]
  · exact fun same => other false (.inl ⟨.inr (congrArg some same), rfl⟩)
  · exact fun same => other true (.inr ⟨congrArg some same, rfl⟩)

/-- The entries of a container whose key starts with a text are what a cursor passes over. -/
theorem lists_snapshot (m : Container) (start : String) (keys : Bool) :
    m.table.Lists start keys (snapshot m start.toList keys) where
  mem_iff e := by
    simp only [snapshot, List.mem_map, List.mem_filter, List.isPrefixOf_iff_prefix,
      Container.lookup_table, OrderedMap.find?_eq_some_iff, Prod.exists]
    constructor
    · rintro ⟨key, value, ⟨there, starts⟩, rfl⟩
      exact ⟨starts, value, there, rfl⟩
    · rintro ⟨starts, value, there, same⟩
      exact ⟨e.key, value, ⟨there, starts⟩, same ▸ rfl⟩
  ascending := by
    refine List.pairwise_map.2 ((m.ascending.sublist List.filter_sublist).imp fun less => ?_)
    exact Bytes.ofString_lt_of_compare less

/-! ### Calls -/

/-- A call of a store in memory. The calls of a cursor are made with what it has still to pass. -/
inductive Call where
  | populate (container : String) (count size : UInt64)
  | arm (kind : FaultKind) (count : UInt32)
  | invoke (container : Option String) (operation : Operation)
  | iterate (container filter converter : Option String)
  | totalSize (container : Option String)
  | hasNext (cursor : Cursor)
  | next (cursor : Cursor)
  | close

/-- The answer to a call. -/
inductive Answer where
  | done
  | response (r : Except StoreError Response)
  | cursor (r : Except StoreError Cursor)
  | size (r : Except StoreError (Option UInt64))
  | more (r : Except StoreError Bool)
  | entry (r : Except StoreError (Entry × Cursor))
  | closed (r : Except StoreError Unit)

namespace Call

/-- What is called, if faults can be injected into some such calls. -/
def kind? : Call → Option StoreCall
  | populate _ _ _ | arm _ _ => none
  | invoke _ _ => some .invoke
  | iterate _ _ _ => some .iterate
  | totalSize _ => some .totalSize
  | hasNext _ => some .hasNext
  | next _ => some .next
  | close => some .close

/-- The kind of fault that a call can have. -/
def fault? (call : Call) : Option FaultKind := call.kind?.bind FaultKind.ofCall?

/-- The answer to a call that fails. -/
def failure (error : StoreError) : Call → Answer
  | populate _ _ _ | arm _ _ => .done
  | invoke _ _ => .response (.error error)
  | iterate _ _ _ => .cursor (.error error)
  | totalSize _ => .size (.error error)
  | hasNext _ => .more (.error error)
  | next _ => .entry (.error error)
  | close => .closed (.error error)

end Call

/-- The answer to a call, and the store after it. -/
def serve (s : InMemory) : Call → Answer × InMemory
  | .populate container count size => (.done, s.populate container count size)
  | .arm kind count => (.done, s.arm kind count)
  | .invoke container operation => (s.invoke container operation).map .response id
  | .iterate container filter converter => (s.iterate container filter converter).map .cursor id
  | .totalSize container => (.size (s.totalSize container), s)
  | .hasNext cursor => (s.hasNext cursor).map .more id
  | .next cursor => (s.next cursor).map .entry id
  | .close => s.close.map .closed id

section

variable {s : InMemory} {call : Call} {kind : FaultKind} {α : Type} {reason : String}
  {go : Except StoreError α × InMemory}

theorem unlessFault_of_armed (kind : FaultKind) (armed : s.faults.get kind ≠ 0) :
    s.unlessFault kind reason go =
      (.error (.unavailable reason), s.arm kind (s.faults.get kind - 1)) := by
  rw [unlessFault, Faults.take?, if_neg armed]
  rfl

theorem unlessFault_of_unarmed (kind : FaultKind) (unarmed : s.faults.get kind = 0) :
    s.unlessFault kind reason go = go := by
  rw [unlessFault, Faults.take?, if_pos unarmed]

theorem toNat_faults_sub_one (kind : FaultKind) (armed : s.faults.get kind ≠ 0) :
    (s.faults.get kind - 1).toNat + 1 = (s.faults.get kind).toNat := by
  have some : 1 ≤ (s.faults.get kind).toNat :=
    Nat.one_le_iff_ne_zero.2 fun none => armed (UInt32.toNat_inj.1 none)
  have one : 1 ≤ s.faults.get kind := UInt32.le_iff_toNat_le.2 some
  rw [UInt32.toNat_sub_of_le _ _ one]
  exact Nat.sub_add_cancel some

/-- **A call with an armed fault** counts it down, fails, and does nothing else. -/
theorem serve_of_armed (fault : call.fault? = some kind) (armed : s.faults.get kind ≠ 0) :
    ∃ reason, s.serve call =
      (call.failure (.unavailable reason), s.arm kind (s.faults.get kind - 1)) := by
  cases call with
  | populate | arm | totalSize => cases fault
  | invoke | iterate | hasNext | next | close =>
    cases fault
    exact ⟨_, congrArg (Prod.map _ id) (unlessFault_of_armed _ armed)⟩

/-- A call has a fault that is armed, or none. -/
theorem armed_or_unarmed (s : InMemory) (call : Call) :
    (∃ kind, call.fault? = some kind ∧ s.faults.get kind ≠ 0) ∨
      ∀ kind, call.fault? = some kind → s.faults.get kind = 0 := by
  by_cases faulted : ∃ kind, call.fault? = some kind ∧ s.faults.get kind ≠ 0
  · exact .inl faulted
  · refine .inr fun kind fault => ?_
    by_contra armed
    exact faulted ⟨kind, fault, armed⟩

end

end InMemory

/-! ### The ideal store -/

/-- What a store in memory is about: finite maps by the names of their containers, and how many
faults are armed for each kind of call. -/
@[ext] structure Ideal where
  tables : Finmap fun _ : String => Table
  armed : FaultKind → Nat

namespace Ideal

open InMemory (Asks Converts Call Answer)

/-- A new store, with the default container and no faults. -/
def new : Ideal := ⟨Finmap.singleton defaultContainer ∅, fun _ => 0⟩

/-- Puts a table into the place of the one of a container. -/
def hold (i : Ideal) (container : String) (t : Table) : Ideal :=
  { i with tables := i.tables.insert container t }

/-- Arms so many faults of a kind. -/
def arm (i : Ideal) (kind : FaultKind) (count : Nat) : Ideal :=
  { i with armed := Function.update i.armed kind count }

/-- A call has no fault that is armed. -/
def Unarmed (i : Ideal) (call : Call) : Prop := ∀ kind, call.fault? = some kind → i.armed kind = 0

/-- Why a call without a fault cannot be served. -/
inductive Refuses (i : Ideal) : Call → StoreError → Prop where
  | request {container : Option String} {operation : Operation}
    (missing : containerName container ∉ i.tables) :
    Refuses i (.invoke container operation) (.unknownContainer (containerName container))
  | filter {container converter : Option String} {filter : String}
    (other : ∀ start, ¬ Asks (some filter) start) :
    Refuses i (.iterate container (some filter) converter) (.unsupported s!"filter `{filter}`")
  | converter {container filter : Option String} {start converter : String}
    (asks : Asks filter start) (other : ∀ keys, ¬ Converts (some converter) keys) :
    Refuses i (.iterate container filter (some converter))
      (.unsupported s!"converter `{converter}`")
  | cursor {container filter converter : Option String} {start : String} {keys : Bool}
    (asks : Asks filter start) (converts : Converts converter keys)
    (missing : containerName container ∉ i.tables) :
    Refuses i (.iterate container filter converter) (.unknownContainer (containerName container))
  | size {container : Option String} (missing : containerName container ∉ i.tables) :
    Refuses i (.totalSize container) (.unknownContainer (containerName container))
  | exhausted : Refuses i (.next []) (.unavailable "cursor is exhausted")

/-- How a store serves a call: the answer, and the store after it. -/
inductive Serves (i : Ideal) : Call → Answer → Ideal → Prop where
  | fault {call : Call} {kind : FaultKind} {reason : String} (fault : call.fault? = some kind)
    (armed : i.armed kind ≠ 0) :
    Serves i call (call.failure (.unavailable reason)) (i.arm kind (i.armed kind - 1))
  | refuse {call : Call} {error : StoreError} (unarmed : i.Unarmed call)
    (refuses : i.Refuses call error) : Serves i call (call.failure error) i
  | populate {container : String} {count size : UInt64} {t : Table}
    (fills : Table.Fills count size ((i.tables.lookup container).getD ∅) t) :
    Serves i (.populate container count size) .done (i.hold container t)
  | arm {kind : FaultKind} {count : UInt32} :
    Serves i (.arm kind count) .done (i.arm kind count.toNat)
  | invoke {container : Option String} {operation : Operation} {t : Table}
    (unarmed : i.armed .invoke = 0)
    (known : i.tables.lookup (containerName container) = some t) :
    Serves i (.invoke container operation) (.response (.ok (t.answer operation)))
      (i.hold (containerName container) (t.after operation))
  | iterate {container filter converter : Option String} {start : String} {keys : Bool} {t : Table}
    {c : InMemory.Cursor} (unarmed : i.armed .iterate = 0) (asks : Asks filter start)
    (converts : Converts converter keys)
    (known : i.tables.lookup (containerName container) = some t) (lists : t.Lists start keys c) :
    Serves i (.iterate container filter converter) (.cursor (.ok c)) i
  | totalSize {container : Option String} {t : Table}
    (known : i.tables.lookup (containerName container) = some t) :
    Serves i (.totalSize container) (.size (.ok (some t.keys.card.toUInt64))) i
  | hasNext {c : InMemory.Cursor} (unarmed : i.armed .hasNext = 0) :
    Serves i (.hasNext c) (.more (.ok !c.isEmpty)) i
  | next {e : Entry} {c : InMemory.Cursor} (unarmed : i.armed .next = 0) :
    Serves i (.next (e :: c)) (.entry (.ok (e, c))) i
  | close (unarmed : i.armed .close = 0) : Serves i .close (.closed (.ok ())) i

end Ideal

namespace InMemory

/-- What a store is about. -/
def ideal (s : InMemory) : Ideal where
  tables := s.containers.toFinmap Container.table
  armed kind := (s.faults.get kind).toNat

section

variable {s : InMemory}

theorem lookup_ideal (s : InMemory) (container : String) :
    s.ideal.tables.lookup container = (s.containers.find? container).map Container.table :=
  OrderedMap.lookup_toFinmap ..

theorem not_mem_ideal {container : String} :
    container ∉ s.ideal.tables ↔ s.containers.find? container = none := by
  rw [← Finmap.lookup_eq_none, lookup_ideal, Option.map_eq_none_iff]

theorem size_eq_card (s : InMemory) (container : String) :
    s.size container = (s.ideal.tables.lookup container).elim 0 fun t => t.keys.card := by
  rw [size, lookup_ideal]
  cases s.containers.find? container with
  | none => rfl
  | some m => exact m.card_keys_table.symm

theorem armed_ideal (s : InMemory) (kind : FaultKind) :
    s.ideal.armed kind = 0 ↔ s.faults.get kind = 0 :=
  UInt32.toNat_inj (b := 0)

theorem ideal_empty : empty.ideal = .new := by
  refine Ideal.ext (Finmap.ext_lookup fun container => ?_) (funext fun kind => ?_)
  swap
  · cases kind <;> rfl
  rw [lookup_ideal, empty, Ideal.new]
  by_cases same : container = defaultContainer
  · rw [same, OrderedMap.find?_insert_self, Finmap.lookup_singleton_eq]
    rfl
  · rw [OrderedMap.find?_insert_of_ne _ _ same, eq_comm]
    exact Finmap.lookup_eq_none.2 (mt (Finmap.mem_singleton ..).1 same)

theorem ideal_hold (s : InMemory) (container : String) (m : Container) :
    ({ s with containers := s.containers.insert container m } : InMemory).ideal =
      s.ideal.hold container m.table := by
  refine Ideal.ext (Finmap.ext_lookup fun other => ?_) rfl
  rw [lookup_ideal, Ideal.hold]
  by_cases same : other = container
  · rw [same, OrderedMap.find?_insert_self, Finmap.lookup_insert]
    rfl
  · rw [OrderedMap.find?_insert_of_ne _ _ same, Finmap.lookup_insert_of_ne _ same, lookup_ideal]

theorem ideal_arm (s : InMemory) (kind : FaultKind) (count : UInt32) :
    (s.arm kind count).ideal = s.ideal.arm kind count.toNat := by
  refine Ideal.ext rfl (funext fun other => ?_)
  by_cases same : other = kind
  · simp [ideal, arm, Ideal.arm, Faults.get_set, same]
  · simp [ideal, arm, Ideal.arm, Faults.get_set, same, Function.update_of_ne]

theorem mem_firstKeys {count : Nat} {key : String} :
    key ∈ firstKeys count ↔ ∃ i < count, key = keyOf i := by
  simp [firstKeys, List.mem_mergeSort, eq_comm]

theorem find?_foldr_insert (keys : List String) (value : Bytes) (m : Container) (key : String) :
    OrderedMap.find? (keys.foldr (fun key m => m.insert key value) m) key =
      if key ∈ keys then some value else m.find? key := by
  induction keys with
  | nil => rfl
  | cons first r ih =>
    rw [List.foldr_cons]
    by_cases same : key = first
    · rw [same, OrderedMap.find?_insert_self, if_pos List.mem_cons_self]
    · rw [OrderedMap.find?_insert_of_ne _ _ same, ih]
      simp only [List.mem_cons, same, false_or]

/-- Filling in the first entries fills them into the finite map, and nothing else. -/
theorem fills_populate (m : Container) (count size : UInt64) :
    Table.Fills count size m.table
      (Container.table ((firstKeys count.toNat).foldr
        (fun key m => m.insert key (Bytes.zeros size.toNat)) m)) where
  filled i below := by
    rw [Container.lookup_table, find?_foldr_insert, if_pos (mem_firstKeys.2 ⟨i, below, rfl⟩)]
  kept key other := by
    have new : key ∉ firstKeys count.toNat := fun known => by
      obtain ⟨i, below, same⟩ := mem_firstKeys.1 known
      exact other i below same
    rw [Container.lookup_table, find?_foldr_insert, if_neg new, Container.lookup_table]

theorem cursor?_of_known {container filter converter : Option String} {start : String} {keys : Bool}
    {m : Container} (asks : Asks filter start) (converts : Converts converter keys)
    (known : s.containers.find? (containerName container) = some m) :
    s.cursor? container filter converter = .ok (snapshot m start.toList keys) := by
  rw [cursor?, filterStart?_of_asks asks, yieldsKeys?_of_converts converts]
  simp only [bind, Except.bind, known]
  rfl

/-- A cursor that is opened lists what was asked for, or there is a reason for it not to be. -/
theorem cursor?_refines (s : InMemory) (container filter converter : Option String) :
    (∃ start keys t c, Asks filter start ∧ Converts converter keys ∧
      s.ideal.tables.lookup (containerName container) = some t ∧ t.Lists start keys c ∧
      s.cursor? container filter converter = .ok c) ∨
    ∃ error, s.ideal.Refuses (.iterate container filter converter) error ∧
      s.cursor? container filter converter = .error error := by
  by_cases known : ∃ start, Asks filter start
  swap
  · cases filter with
    | none => exact absurd ⟨"", .inl ⟨rfl, rfl⟩⟩ known
    | some filter =>
      have other (start : String) : ¬ Asks (some filter) start := fun asks => known ⟨start, asks⟩
      exact .inr ⟨_, .filter other, by rw [cursor?, filterStart?_of_not_asks other]; rfl⟩
  obtain ⟨start, asks⟩ := known
  by_cases known : ∃ keys, Converts converter keys
  swap
  · cases converter with
    | none => exact absurd ⟨false, .inl ⟨.inl rfl, rfl⟩⟩ known
    | some converter =>
      have other (keys : Bool) : ¬ Converts (some converter) keys := fun does => known ⟨keys, does⟩
      refine .inr ⟨_, .converter asks other, ?_⟩
      rw [cursor?, filterStart?_of_asks asks, yieldsKeys?_of_not_converts other]
      rfl
  obtain ⟨keys, converts⟩ := known
  cases known : s.containers.find? (containerName container) with
  | none =>
    refine .inr ⟨_, .cursor asks converts (not_mem_ideal.2 known), ?_⟩
    rw [cursor?, filterStart?_of_asks asks, yieldsKeys?_of_converts converts]
    simp only [bind, Except.bind, known]
    rfl
  | some m =>
    exact .inl ⟨start, keys, m.table, _, asks, converts, by rw [lookup_ideal, known]; rfl,
      lists_snapshot m start keys, cursor?_of_known asks converts known⟩

/-- **A store in memory serves each call as the ideal store does.** -/
theorem serve_refines (s : InMemory) (call : Call) :
    s.ideal.Serves call (s.serve call).1 (s.serve call).2.ideal := by
  rcases s.armed_or_unarmed call with ⟨kind, fault, armed⟩ | unarmed
  · obtain ⟨reason, served⟩ := serve_of_armed fault armed
    have less : (s.faults.get kind - 1).toNat = s.ideal.armed kind - 1 :=
      Nat.eq_sub_of_add_eq (toNat_faults_sub_one kind armed)
    rw [served, ideal_arm, less]
    exact .fault fault (mt (armed_ideal s kind).1 armed)
  have idle : s.ideal.Unarmed call := fun kind fault => (armed_ideal s kind).2 (unarmed kind fault)
  cases call with
  | populate container count size =>
    rw [serve, populate, ideal_hold]
    refine .populate ?_
    rw [lookup_ideal]
    cases s.containers.find? container with
    | none => exact fills_populate .empty count size
    | some m => exact fills_populate m count size
  | arm kind count =>
    rw [serve, ideal_arm]
    exact .arm
  | invoke container operation =>
    rw [serve, invoke, unlessFault_of_unarmed .invoke (unarmed .invoke rfl)]
    dsimp only
    cases known : s.containers.find? (containerName container) with
    | none => exact .refuse idle (.request (not_mem_ideal.2 known))
    | some m =>
      obtain ⟨answer, after⟩ := m.serve_eq operation
      simp only [Prod.map, id]
      rw [ideal_hold, answer, after]
      exact .invoke (idle .invoke rfl) (by rw [lookup_ideal, known]; rfl)
  | iterate container filter converter =>
    rw [serve, iterate, unlessFault_of_unarmed .iterate (unarmed .iterate rfl)]
    rcases s.cursor?_refines container filter converter with
      ⟨start, keys, t, c, asks, converts, known, lists, found⟩ | ⟨error, refuses, found⟩
    · rw [found]
      exact .iterate (idle .iterate rfl) asks converts known lists
    · rw [found]
      exact .refuse idle refuses
  | totalSize container =>
    rw [serve, totalSize]
    dsimp only
    cases known : s.containers.find? (containerName container) with
    | none => exact .refuse idle (.size (not_mem_ideal.2 known))
    | some m =>
      dsimp only
      rw [← m.card_keys_table]
      exact .totalSize (by rw [lookup_ideal, known]; rfl)
  | hasNext c =>
    rw [serve, hasNext, unlessFault_of_unarmed .hasNext (unarmed .hasNext rfl)]
    exact .hasNext (idle .hasNext rfl)
  | next c =>
    cases c with
    | nil =>
      rw [serve, next, unlessFault_of_unarmed .next (unarmed .next rfl)]
      exact .refuse idle .exhausted
    | cons e c =>
      rw [serve, next, unlessFault_of_unarmed .next (unarmed .next rfl)]
      exact .next (idle .next rfl)
  | close =>
    rw [serve, close, unlessFault_of_unarmed .close (unarmed .close rfl)]
    exact .close (idle .close rfl)

end

end InMemory

/-! ### Calls of stressors -/

namespace Ask

variable {S : Type}

/-- The call of a store in memory that a stressor makes. -/
def call : Ask InMemory.Cursor S → InMemory.Call
  | invoke container operation _ => .invoke container operation
  | iterate container filter converter _ => .iterate container filter converter
  | hasNext cursor _ => .hasNext cursor
  | next cursor _ => .next cursor
  | close _ _ => .close

/-- What a stressor makes of the answer is up to it, and not to the store. -/
theorem answer_snd (ask : Ask InMemory.Cursor S) (store : InMemory) (now : Instant) :
    (ask.answer store now).2 = (store.serve ask.call).2 := by
  cases ask <;> rfl

end Ask

end LoadFleet
