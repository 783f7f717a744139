import LoadFleet.Proofs.StoreHistory
import LoadFleet.Proofs.Validity
/-!
# What a stress test leaves behind

The stressors of a stress test share a store in memory, in whatever order they come and whichever
faults are armed meanwhile. They make requests for the first keys of one container only, and put
zero bytes only. So this is all that is changed.

* `Stress.drawn_draw`: what is drawn with valid settings.
* `Stress.Scene.Next`: a step of the stressors or of the store.
* `Stress.Footprint.invoke`: a request that was drawn keeps to what may be changed.
* `Stress.Scene.Next.footprint`: by cases on a step, this holds of each.
* `Stress.footprint_of_runs`: the main statement, by induction over a run.
-/

namespace LoadFleet.Stress

open InMemory (Call Answer keyOf)

/-! ### What is drawn -/

/-- A key is one of those that are drawn. -/
def InRange (settings : StressSettings) (key : String) : Prop :=
  ∃ j < settings.numEntries.toNat, key = keyOf j

/-- A request may be drawn. -/
inductive Drawn (t : Trial) : Operation → Prop where
  | get {key : String} (inRange : InRange t.settings key) : Drawn t (.get key)
  | put {key : String} (inRange : InRange t.settings key) (ratio : t.settings.putRatio ≠ 0) :
    Drawn t (.put key t.value)
  | remove {key : String} (inRange : InRange t.settings key)
    (ratio : t.settings.removeRatio ≠ 0) : Drawn t (.remove key)

theorem Drawn.inRange {t : Trial} {operation : Operation} (drawn : Drawn t operation) :
    InRange t.settings operation.key := by
  cases drawn <;> assumption

/-- Only an operation that has some weight is picked. -/
theorem Weights.pick_cases (w : Weights) (positive : w.get + w.put + w.remove ≠ 0) (roll : Nat)
    (key : String) (value : Bytes) :
    w.pick roll key value = .get key ∨ w.pick roll key value = .put key value ∧ w.put ≠ 0 ∨
      w.pick roll key value = .remove key ∧ w.remove ≠ 0 := by
  have below := Nat.mod_lt roll (Nat.pos_of_ne_zero positive)
  rw [pick]
  split
  · exact .inl rfl
  · split
    · exact .inr (.inl ⟨rfl, by omega⟩)
    · exact .inr (.inr ⟨rfl, by omega⟩)

theorem eq_of_weights? {settings : StressSettings} {w : Weights}
    (weighed : weights? settings = .ok w) :
    w = ⟨settings.getRatio.toNat, settings.putRatio.toNat, settings.removeRatio.toNat⟩ ∧
      settings.ratioSum ≠ 0 := by
  rw [weights?] at weighed
  split at weighed
  · cases weighed
  · split at weighed
    · cases weighed
    · next some => exact ⟨(Except.ok.inj weighed).symm, some⟩

/-- **A draw** is for one of the first keys, and never an operation whose ratio is zero. -/
theorem drawn_draw {t : Trial} {w : Weights} (entries : 0 < t.settings.numEntries)
    (weighed : weights? t.settings = .ok w) (i k : Nat) : Drawn t ((t.setup w i).draw k) := by
  obtain ⟨rfl, some⟩ := eq_of_weights? weighed
  have inRange : InRange t.settings (keyOf ((t.dice i k).key % t.settings.numEntries.toNat)) :=
    ⟨_, Nat.mod_lt _ (UInt64.lt_iff_toNat_lt.1 entries), rfl⟩
  have ratio {n : UInt32} (some : n.toNat ≠ 0) : n ≠ 0 := fun zero => some (zero ▸ rfl)
  have picked := Weights.pick_cases
    ⟨t.settings.getRatio.toNat, t.settings.putRatio.toNat, t.settings.removeRatio.toNat⟩ some
    (t.dice i k).operation (keyOf ((t.dice i k).key % t.settings.numEntries.toNat)) t.value
  rcases picked with pick | ⟨pick, put⟩ | ⟨pick, remove⟩
  · exact (congrArg (Drawn t) pick).mpr (.get inRange)
  · exact (congrArg (Drawn t) pick).mpr (.put inRange (ratio put))
  · exact (congrArg (Drawn t) pick).mpr (.remove inRange (ratio remove))

/-! ### Scenes -/

/-- The phases of a stressor whose request, if it has one, was drawn. -/
inductive Draws (t : Trial) : Phase → Prop where
  | ready {s : State} : Draws t (.ready s)
  | claimed {operation : Operation} {goOn : Except StoreError Response → Instant → State}
    (drawn : Drawn t operation) : Draws t (.claimed (.invoke t.settings.container operation goOn))
  | calling {operation : Operation} {goOn : Except StoreError Response → Instant → State}
    (drawn : Drawn t operation) : Draws t (.calling (.invoke t.settings.container operation goOn))
  | returned {result : Result} : Draws t (.returned result)
  | lost : Draws t .lost

/-- What one stressor does next keeps to what can be drawn. -/
theorem Moment.Passes.draws {t : Trial} {n : Nat} {i : Fin n} {c c' : Completion} {p p' : Phase}
    {h : Happening n} (passes : Passes t i c p h c' p') (valid : t.settings.validate = .ok ())
    (draws : Draws t p) : Draws t p' := by
  obtain ⟨-, -, entries, ratios, -⟩ := StressSettings.validate_eq_ok.1 valid
  obtain ⟨w, weighed⟩ := weights?_isOk_iff.2 ratios
  cases passes with
  | @claim _ s now stopping ask turn =>
    rw [t.step_of_weights weighed] at turn
    rcases s.turn_cases (t.setup w i) now stopping c with
      ⟨-, finish⟩ | ⟨-, ⟨-, call⟩ | ⟨-, finish⟩⟩
    · cases finish.symm.trans turn
    · cases call.symm.trans turn
      exact .claimed (drawn_draw entries weighed i s.drawn)
    · cases finish.symm.trans turn
  | finish => exact .returned
  | call =>
    cases draws with
    | claimed drawn => exact .calling drawn
  | answer => exact .ready
  | lose => exact .lost

/-- A moment of a stress test and the store that the stressors share. -/
structure Scene (n : Nat) where
  moment : Moment n
  store : InMemory

/-- What may happen next. The store answers a stressor that has called it; some stressor does
anything else; or faults are armed. -/
inductive Scene.Next {n : Nat} (t : Trial) (c : Scene n) : Scene n → Prop where
  | answered {i : Fin n} {container : Option String} {operation : Operation}
    {goOn : Except StoreError Response → Instant → State} {m : Moment n}
    (calling : c.moment.phases i = .calling (.invoke container operation goOn))
    (next : c.moment.Next t (.answered i (c.store.invoke container operation).1) m) :
    Next t c ⟨m, (c.store.invoke container operation).2⟩
  | quiet {h : Happening n} {m : Moment n} (next : c.moment.Next t h m)
    (unanswered : ∀ i response, h ≠ .answered i response) : Next t c ⟨m, c.store⟩
  | arm (kind : FaultKind) (count : UInt32) : Next t c { c with store := c.store.arm kind count }

/-! ### What may be changed -/

/-- What a stress test may have changed in a store. -/
structure Footprint (settings : StressSettings) (before after : InMemory) : Prop where
  /-- No container comes into being or goes away. -/
  known : ∀ container, container ∈ after.ideal.tables ↔ container ∈ before.ideal.tables
  others : ∀ container, container ≠ containerName settings.container →
    after.ideal.tables.lookup container = before.ideal.tables.lookup container
  outside : ∀ key, ¬ InRange settings key →
    after.ideal.value? (containerName settings.container) key =
      before.ideal.value? (containerName settings.container) key
  inside : ∀ key, InRange settings key →
    after.ideal.value? (containerName settings.container) key = none ∨
      after.ideal.value? (containerName settings.container) key =
        before.ideal.value? (containerName settings.container) key ∨
      after.ideal.value? (containerName settings.container) key =
        some (Bytes.zeros settings.entrySize.toNat)
  unremoved : settings.removeRatio = 0 → ∀ key,
    (before.ideal.value? (containerName settings.container) key).isSome →
      (after.ideal.value? (containerName settings.container) key).isSome
  unwritten : settings.putRatio = 0 → ∀ key value,
    after.ideal.value? (containerName settings.container) key = some value →
      before.ideal.value? (containerName settings.container) key = some value

namespace Footprint

variable {t : Trial} {settings : StressSettings} {before s : InMemory} {operation : Operation}

theorem refl (settings : StressSettings) (s : InMemory) : Footprint settings s s where
  known _ := .rfl
  others _ _ := rfl
  outside _ _ := rfl
  inside _ _ := .inr (.inl rfl)
  unremoved _ _ := id
  unwritten _ _ _ := id

theorem arm (footprint : Footprint settings before s) (kind : FaultKind) (count : UInt32) :
    Footprint settings before (s.arm kind count) :=
  ⟨footprint.known, footprint.others, footprint.outside, footprint.inside, footprint.unremoved,
    footprint.unwritten⟩

/-- **A request that was drawn** keeps to what may be changed, whether it is served or fails. -/
theorem invoke (footprint : Footprint t.settings before s) (drawn : Drawn t operation) :
    Footprint t.settings before (s.invoke t.settings.container operation).2 := by
  have serves := s.serve_refines (.invoke t.settings.container operation)
  change s.ideal.Serves _ _ (s.invoke t.settings.container operation).2.ideal at serves
  generalize (s.serve (.invoke t.settings.container operation)).1 = answer at serves
  generalize (s.invoke t.settings.container operation).2 = after at serves ⊢
  -- what the request writes is a value of zero bytes
  have written {container key : String} {value : Bytes}
      (writes : InMemory.Event.Writes ⟨.invoke t.settings.container operation, answer⟩ container key
        value) : value = t.value ∧ t.settings.putRatio ≠ 0 := by
    cases writes
    cases drawn with
    | put _ ratio => exact ⟨rfl, ratio⟩
  have removed {container key : String}
      (removes : InMemory.Event.Removes ⟨.invoke t.settings.container operation, answer⟩ container
        key) : t.settings.removeRatio ≠ 0 := by
    cases removes
    cases drawn with
    | remove _ ratio => exact ratio
  refine ⟨fun container => ?_, fun container apart => ?_, fun key out => ?_, fun key inRange => ?_,
    fun ratio key there => ?_, fun ratio key value there => ?_⟩
  · rw [serves.mem_iff, ← footprint.known]
    simp
  · rw [serves.lookup_of_ne apart, footprint.others container apart]
  · rw [serves.value?_of_not_touches fun touches => ?_, footprint.outside key out]
    exact out ((InMemory.Event.touches_invoke touches).2.1 ▸ drawn.inRange)
  · by_cases touches : InMemory.Event.Touches ⟨.invoke t.settings.container operation, answer⟩
        (containerName t.settings.container) key
    · rcases touches with ⟨value, writes⟩ | removes
      · refine .inr (.inr ?_)
        rw [serves.value?_of_writes writes, (written writes).1, Trial.value]
      · exact .inl (serves.value?_of_removes removes)
    · rw [serves.value?_of_not_touches touches]
      exact footprint.inside key inRange
  · by_cases touches : InMemory.Event.Touches ⟨.invoke t.settings.container operation, answer⟩
        (containerName t.settings.container) key
    · rcases touches with ⟨value, writes⟩ | removes
      · rw [serves.value?_of_writes writes]
        rfl
      · exact absurd ratio (removed removes)
    · rw [serves.value?_of_not_touches touches]
      exact footprint.unremoved ratio key there
  · refine footprint.unwritten ratio key value ?_
    rcases (serves.value?_eq_some_iff _ key value).1 there with writes | ⟨-, same⟩
    · exact absurd ratio (written writes).2
    · exact same

/-- The container has no more new keys than there are keys that are drawn. -/
theorem size_le {after : InMemory} (footprint : Footprint settings before after) :
    after.size (containerName settings.container) ≤
      before.size (containerName settings.container) + settings.numEntries.toNat := by
  rw [InMemory.size_eq_card, InMemory.size_eq_card]
  cases now : after.ideal.tables.lookup (containerName settings.container) with
  | none => exact Nat.zero_le _
  | some table =>
    obtain ⟨old, known⟩ := Finmap.mem_iff.1 ((footprint.known _).1 (Ideal.mem_of_known now))
    rw [known]
    have covered : table.keys ⊆
        old.keys ∪ (Finset.range settings.numEntries.toNat).image keyOf := fun key there => by
      by_cases inRange : InRange settings key
      · obtain ⟨j, below, rfl⟩ := inRange
        exact Finset.mem_union_right _ (Finset.mem_image_of_mem _ (Finset.mem_range.2 below))
      · refine Finset.mem_union_left _ ?_
        have same := footprint.outside key inRange
        rw [Ideal.value?_of_known key now, Ideal.value?_of_known key known] at same
        rwa [Finmap.mem_keys, ← Finmap.lookup_isSome, ← same, Finmap.lookup_isSome,
          ← Finmap.mem_keys]
    calc table.keys.card
        ≤ (old.keys ∪ (Finset.range settings.numEntries.toNat).image keyOf).card :=
          Finset.card_le_card covered
      _ ≤ old.keys.card + ((Finset.range settings.numEntries.toNat).image keyOf).card :=
          Finset.card_union_le _ _
      _ ≤ old.keys.card + settings.numEntries.toNat :=
          Nat.add_le_add_left (Finset.card_image_le.trans_eq (Finset.card_range _)) _

end Footprint

/-! ### Runs -/

section

variable {t : Trial} {n : Nat} (valid : t.settings.validate = .ok ())

include valid

theorem Moment.Next.draws {m m' : Moment n} {h : Happening n} (next : Next t m h m')
    (draws : ∀ i, Draws t (m.phases i)) (i : Fin n) : Draws t (m'.phases i) := by
  obtain @⟨j, _, _, p, passes⟩ := next
  by_cases same : i = j
  · subst same
    simpa using passes.draws valid (draws i)
  · simpa [Function.update_of_ne same] using draws i

/-- The requests of all stressors were drawn. -/
theorem Scene.Next.draws {c c' : Scene n} (next : Scene.Next t c c')
    (draws : ∀ i, Draws t (c.moment.phases i)) : ∀ i, Draws t (c'.moment.phases i) := by
  cases next with
  | answered _ next => exact next.draws valid draws
  | quiet next => exact next.draws valid draws
  | arm => exact draws

end

/-- **A step keeps to what may be changed.** -/
theorem Scene.Next.footprint {t : Trial} {n : Nat} {c c' : Scene n} {before : InMemory}
    (next : Scene.Next t c c') (draws : ∀ i, Draws t (c.moment.phases i))
    (footprint : Footprint t.settings before c.store) : Footprint t.settings before c'.store := by
  cases next with
  | @answered i _ _ _ _ calling =>
    have drawn := draws i
    rw [calling] at drawn
    cases drawn with
    | calling drawn => exact footprint.invoke drawn
  | quiet => exact footprint
  | arm kind count => exact footprint.arm kind count

/-- What happened from one scene up to another one. -/
abbrev Scene.Runs {n : Nat} (t : Trial) : Scene n → Scene n → Prop :=
  Relation.ReflTransGen (Scene.Next t)

/-- The requests of all stressors were drawn. -/
theorem Scene.Runs.draws {t : Trial} (valid : t.settings.validate = .ok ()) {now : Nat → Instant}
    {s : InMemory} {c : Scene t.size} (run : Scene.Runs t ⟨Moment.opening t now, s⟩ c) :
    ∀ i, Draws t (c.moment.phases i) := by
  induction run with
  | refl => exact fun _ => .ready
  | tail _ next ih => exact next.draws valid ih

/-- **What a stress test leaves behind.** From any moment of a stress test to any later one, only
the container is changed that the settings name, there only keys that are drawn, and all that was
written are zero bytes. Without removals no key goes away, and without writes none is new. -/
theorem footprint_of_runs {t : Trial} (valid : t.settings.validate = .ok ())
    {now : Nat → Instant} {s : InMemory} {c c' : Scene t.size}
    (earlier : Scene.Runs t ⟨Moment.opening t now, s⟩ c) (later : Scene.Runs t c c') :
    Footprint t.settings c.store c'.store ∧
      c'.store.size (containerName t.settings.container) ≤
        c.store.size (containerName t.settings.container) + t.settings.numEntries.toNat := by
  have run : Footprint t.settings c.store c'.store ∧ ∀ i, Draws t (c'.moment.phases i) := by
    induction later with
    | refl => exact ⟨.refl _ _, earlier.draws valid⟩
    | tail _ next ih => exact ⟨next.footprint ih.2 ih.1, next.draws valid ih.2⟩
  exact ⟨run.1, run.1.size_le⟩

/-- A stressor writes one of two keys. -/
theorem footprint_of_one_write :
    let settings : StressSettings :=
      { test := { threads := 1 }, numRequests := 1, numEntries := 2, entrySize := 3,
        getRatio := 0, putRatio := 1, removeRatio := 0 }
    let t : Trial := ⟨settings, fun i => ⟨i, .ofNanos 0⟩, fun _ _ => ⟨0, 7⟩, 0⟩
    ∃ c, Scene.Runs t ⟨Moment.opening t fun _ => 0, .empty⟩ c ∧
      c.store = (InMemory.empty.invoke none (.put (keyOf 1) (Bytes.zeros 3))).2 ∧
      Footprint settings .empty c.store ∧
      c.store.size "default" ≤ InMemory.empty.size "default" + 2 := by
  intro settings t
  let a : Fin t.size := ⟨0, by decide⟩
  let setup := t.setup ⟨0, 1, 0⟩ 0
  let ask : Ask Simulated.Cursor State :=
    .invoke none (setup.draw 0) ((t.start 0 0).onResponse setup (setup.draw 0) 5)
  let opening : Moment t.size := Moment.opening t fun _ => 0
  let claimed : Moment t.size := ⟨.requests 0, Function.update opening.phases a (.claimed ask)⟩
  let calling : Moment t.size := ⟨.requests 0, Function.update claimed.phases a (.calling ask)⟩
  have asks : claimed.phases a = .claimed ask := Function.update_self a _ opening.phases
  have calls : calling.phases a = .calling ask := Function.update_self a _ claimed.phases
  have used : settings.numRequests - 1 = 0 := by decide
  have turn : t.step a (t.start 0 0) 5 false opening.completion = (.call ask, .requests 0) :=
    congrArg (fun left => (Turn.call ask, Completion.requests left)) used
  have drawn : setup.draw 0 = .put (keyOf 1) (Bytes.zeros 3) := by decide
  have start : Scene.Runs t ⟨opening, .empty⟩ ⟨opening, .empty⟩ := .refl
  have run : Scene.Runs t ⟨opening, .empty⟩ ⟨claimed, .empty⟩ :=
    start.tail (.quiet (h := .claimed a) (.pass (.claim turn)) nofun)
  have run : Scene.Runs t ⟨opening, .empty⟩ ⟨calling, .empty⟩ :=
    run.tail (.quiet (h := .called a (setup.draw 0)) (.pass (asks ▸ .call)) nofun)
  have answered := @Moment.Passes.answer _ t a calling.completion none (setup.draw 0)
    ((t.start 0 0).onResponse setup (setup.draw 0) 5)
    (InMemory.empty.invoke none (setup.draw 0)).1 8
  have run := run.tail (.answered calls (.pass (calls ▸ answered)))
  obtain ⟨footprint, size⟩ := footprint_of_runs (t := t) (by decide) start run
  exact ⟨_, run, drawn ▸ rfl, footprint, size⟩

end LoadFleet.Stress
