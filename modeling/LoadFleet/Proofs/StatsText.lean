import LoadFleet.Proofs.Contents
import LoadFleet.Proofs.StageText
import LoadFleet.Stats.Wire
/-!
# Reading the text of statistics

Statistics read from what is written for them, as long as their floating point numbers read back and
the form of their sketches is faithful. A number that is not finite is written as `null`, and so is
what an empty sketch holds. So neither would read back; but statistics that are filled by recording
have no such parts.

* `Json.map?_map`, `Json.wordMap?_wordMap`: maps read from what is written for them.
* `Accumulator.ofJson?_toJson`: an accumulator reads as it was, by cases on its kind.
* `Statistics.Arises.written`: what comes about by recording can be written so that it reads back.
* `Statistics.ofJson?_toJson`: the main statement.
-/

namespace LoadFleet

/-- A map is the map of its entries. -/
theorem OrderedMap.ofList_entries {K V : Type} [Ord K] [Std.TransOrd K] [Std.LawfulEqOrd K]
    (m : OrderedMap K V) : ofList m.entries = m :=
  ext_find? fun k => Option.ext fun v => by
    rw [find?_ofList_iff m.nodup_keys, find?_eq_some_iff]

namespace Json

/-! ### Maps -/

variable {V : Type} {read : Json → Option V} {write : V → Json}

theorem map?_map {m : OrderedMap String V} (reads : ∀ e ∈ m.entries, read (write e.2) = some e.2) :
    map? read (map write m) = some m := by
  rw [map, map?, mapM_map_eq_some (g := id), List.map_id, Option.map_some,
    OrderedMap.ofList_entries]
  intro e he
  rw [reads e he]
  rfl

/-- The digits of a word read as the word. -/
theorem keyWord?_repr (n : UInt64) : keyWord? (Nat.repr n.toNat) = some n := by
  have small : n.toNat ≤ wordMax := Nat.le_of_lt_succ n.toNat_lt
  have digits : (Nat.toDigits 10 n.toNat).all Char.isDigit = true :=
    List.all_eq_true.2 fun _ => isDigit_of_mem_numeral
  have first : ((Nat.toDigits 10 n.toNat).head? = some '0' &&
      1 < (Nat.toDigits 10 n.toNat).length) = false := by
    by_cases zero : n.toNat = 0
    · rw [zero]
      rfl
    · simp [head?_toDigits_ne zero]
  rw [keyWord?, Nat.toList_repr]
  simp [digits, first, natOf_toDigits, small, Nat.toDigits_ne_nil]

theorem wordMap?_wordMap {m : OrderedMap UInt64 V}
    (reads : ∀ e ∈ m.entries, read (write e.2) = some e.2) :
    wordMap? read (wordMap write m) = some m := by
  rw [wordMap, wordMap?, mapM_map_eq_some (g := id), List.map_id, Option.map_some,
    OrderedMap.ofList_entries]
  intro e he
  rw [keyWord?_repr, reads e he]
  rfl

theorem list?_map {α : Type} {read : Json → Option α} {write : α → Json} {l : List α}
    (reads : ∀ a ∈ l, read (write a) = some a) :
    list? read (.arr (l.map write)) = some l := by
  rw [list?, mapM_map_eq_some (g := id) reads, List.map_id]

namespace Fits

variable {n : Nat}

theorem float {x : Float} (h : Rereads x) : Fits n (.float x) := ⟨.float h, Nat.zero_le n⟩

theorem list {α : Type} {write : α → Json} {l : List α} (h : ∀ a ∈ l, Fits n (write a)) :
    Fits (n + 1) (.arr (l.map write)) :=
  arr fun _ hj => by
    obtain ⟨a, ha, rfl⟩ := List.mem_map.1 hj
    exact h a ha

theorem map {m : OrderedMap String V} (h : ∀ e ∈ m.entries, Fits n (write e.2)) :
    Fits (n + 1) (Json.map write m) :=
  obj fun _ hm => by
    obtain ⟨e, he, rfl⟩ := List.mem_map.1 hm
    exact h e he

theorem wordMap {m : OrderedMap UInt64 V} (h : ∀ e ∈ m.entries, Fits n (write e.2)) :
    Fits (n + 1) (Json.wordMap write m) :=
  obj fun _ hm => by
    obtain ⟨e, he, rfl⟩ := List.mem_map.1 hm
    exact h e he

theorem mono {k : Nat} {j : Json} (h : Fits n j) (le : n ≤ k) : Fits k j :=
  ⟨h.plain, h.shallow.trans le⟩

end Fits

/-! ### Places -/

/-- A place has room for a number of arrays and objects inside each other. -/
def Place.Roomy (levels : Nat) : Place → Prop
  | .text room => levels ≤ room
  | _ => True

theorem Place.Roomy.deeper {levels more : Nat} {place : Place} (h : place.Roomy (levels + more)) :
    (place.deeper more).Roomy levels := by
  cases place with
  | text room => exact Nat.le_sub_of_add_le h
  | settings | aside => trivial

/-- What fits into a place may be put aside there. -/
theorem Fits.mayPutAside {levels : Nat} {j : Json} (h : Fits levels j) {place : Place}
    (room : place.Roomy levels) : Json.mayPutAside place j := by
  cases place with
  | text room' => simpa [Json.mayPutAside, h.plain.readable] using h.shallow.trans room
  | settings => exact h.plain.readable
  | aside => rfl

end Json

/-! ### Points of time -/

namespace WallTime

theorem toJson_fits {n : Nat} (t : WallTime) : Json.Fits (n + 1) t.toJson := .obj (by simp)

theorem ofNanos?_nanos (t : WallTime) : ofNanos? t.nanos = some t := dif_pos t.bounded

/-- The fields of a point of time read as its nanoseconds. -/
theorem nanos?_toJson (t : WallTime) : (t.toJson.record? fields).bind nanos? = some t.nanos := by
  have bounded := t.bounded
  have whole : t.nanos / nanosPerSecond < 2 ^ 64 := by
    rw [Nat.div_lt_iff_lt_mul (by decide)]
    exact bounded.trans (by decide)
  have part : t.nanos % nanosPerSecond < 0x100000000 :=
    (Nat.mod_lt _ (by decide)).trans (by decide)
  have seconds : (t.nanos / nanosPerSecond).toUInt64.toNat = t.nanos / nanosPerSecond :=
    UInt64.toNat_ofNat_of_lt' whole
  have nanoseconds : (t.nanos % nanosPerSecond).toUInt64.toNat = t.nanos % nanosPerSecond :=
    UInt64.toNat_ofNat_of_lt' (part.trans (by decide))
  have half : Json.halfWord? (.nat (t.nanos % nanosPerSecond).toUInt64) =
      some (t.nanos % nanosPerSecond).toUInt64.toUInt32 := by
    simp [Json.halfWord?, Json.word?, nanoseconds, part]
  have halfValue :
      (t.nanos % nanosPerSecond).toUInt64.toUInt32.toNat = t.nanos % nanosPerSecond := by
    rw [UInt64.toNat_toUInt32, nanoseconds, Nat.mod_eq_of_lt part]
  rw [toJson, Json.record?_written (by rfl) (by decide), Option.bind_some]
  simp only [nanos?, List.map_cons, List.map_nil, Slot.required_value, Json.word?_nat, half,
    Option.bind_eq_bind, Option.bind_some, seconds, halfValue, Nat.div_add_mod', Option.pure_def]

@[simp] theorem ofJson?_toJson (t : WallTime) : ofJson? t.toJson = some t := by
  have only : onlyFields t.toJson = true := by simp [onlyFields, toJson, fields]
  rw [ofJson?, if_pos only, t.nanos?_toJson]
  exact t.ofNanos?_nanos

end WallTime

/-! ### Accumulators -/

namespace Json

/-- A whole number that reads back is written as it is. -/
theorem Fits.int {k : Nat} {n : Int} (h : signedHalfWord? (.int n) = some n) : Fits k (.int n) := by
  rw [Json.int] at h ⊢
  split at h
  · next negative =>
    rw [if_pos negative]
    rw [signedHalfWord?] at h
    split at h
    · next small =>
      refine ⟨.negative (fun zero => ?_) (small.trans (by decide)), Nat.zero_le k⟩
      rw [zero] at h
      cases h
      exact absurd negative (by decide)
    · cases h
  · next positive =>
    rw [if_neg positive]
    exact .nat _

end Json

/-- A window of bins that reads back is written as it is. -/
theorem BinStore.toJson_fits {s : BinStore} (reads : ofJson? s.toJson = some s) :
    Json.Fits 2 s.toJson := by
  have bins : Json.Fits 1 (.arr (s.bins.toList.map .nat)) := .list fun _ _ => .nat _
  rw [ofJson?, toJson, Json.record?_written (by rfl) (by decide)] at reads
  simp only [List.map_cons, List.map_nil, Option.bind_eq_bind, Option.bind_some,
    Slot.required_value, Option.bind_eq_some_iff] at reads
  obtain ⟨_, -, _, -, minKey, least, maxKey, greatest, offset, start, _, -, _, -, same⟩ := reads
  cases same
  refine .obj (List.forall_mem_cons.2 ⟨bins, ?_⟩)
  simp [Json.Fits.int least, Json.Fits.int greatest, Json.Fits.int start]

theorem SketchConfig.toJson_fits {c : SketchConfig} (reads : ofJson? c.toJson = some c)
    (gamma : Json.Rereads c.gamma) (gammaLn : Json.Rereads c.gammaLn)
    (minValue : Json.Rereads c.minValue) : Json.Fits 2 c.toJson := by
  rw [ofJson?, toJson, Json.record?_written (by rfl) (by decide)] at reads
  simp only [List.map_cons, List.map_nil, Option.bind_eq_bind, Option.bind_some,
    Slot.required_value, Option.bind_eq_some_iff] at reads
  obtain ⟨_, -, _, -, _, -, _, -, offset, start, same⟩ := reads
  cases same
  refine .obj ?_
  simp [Json.Fits.int start, Json.Fits.float gamma, Json.Fits.float gammaLn,
    Json.Fits.float minValue]

namespace Sketch

/-- The floating point numbers in a sketch. -/
def numbers (s : Sketch) : List Float :=
  [s.config.gamma, s.config.gammaLn, s.config.minValue, s.least, s.greatest, s.sum]

/-- What is written for a sketch is faithful: its numbers read back, and so does the sketch. -/
structure Faithful (s : Sketch) : Prop where
  numbers : ∀ x ∈ s.numbers, Json.Rereads x
  reads : ofJson? s.toJson = some s

theorem faithful_iff {s : Sketch} :
    s.Faithful ↔ (∀ x ∈ s.numbers, Json.Rereads x) ∧ ofJson? s.toJson = some s :=
  ⟨fun h => ⟨h.numbers, h.reads⟩, fun h => ⟨h.1, h.2⟩⟩

instance (s : Sketch) : Decidable s.Faithful := decidable_of_iff _ faithful_iff.symm

/-- A faithful sketch is written as it is. -/
theorem Faithful.toJson_fits {s : Sketch} (h : s.Faithful) : Json.Fits 3 s.toJson := by
  obtain ⟨numbers, reads⟩ := h
  simp only [Sketch.numbers, List.forall_mem_cons] at numbers
  obtain ⟨gamma, gammaLn, minValue, least, greatest, sum, -⟩ := numbers
  rw [ofJson?, toJson, Json.record?_written (by rfl) (by decide)] at reads
  simp only [List.map_cons, List.map_nil, Option.bind_eq_bind, Option.bind_some,
    Slot.required_value, Option.bind_eq_some_iff] at reads
  obtain ⟨config, settings, store, bins, negativeStore, negative, _, -, _, -, _, -, _, -, same⟩ :=
    reads
  cases same
  refine .obj ?_
  simp [SketchConfig.toJson_fits settings gamma gammaLn minValue, BinStore.toJson_fits bins,
    BinStore.toJson_fits negative, Json.Fits.float least, Json.Fits.float greatest,
    Json.Fits.float sum]

end Sketch

namespace Moments

theorem ofJson?_members (m : Moments Float) : ofJson? (.obj m.members) = some m := by
  rw [ofJson?, members, Json.record?_written]
  · simp [Json.float?]
  · rfl
  · decide

end Moments

theorem Samples.ofJson?_members (s : Samples) : ofJson? (.obj s.members) = some s := by
  have samples : Json.list? Json.word? (.arr (s.toList.map .nat)) = some s.toList :=
    Json.list?_map fun _ _ => Json.word?_nat _
  rw [ofJson?, members, Json.record?_written]
  · simp only [List.map_cons, List.map_nil, Option.bind_eq_bind, Option.bind_some,
      Slot.required_value, samples, Json.word?_nat]
    rfl
  · rfl
  · decide

namespace Accumulator

/-- The numbers of an accumulator and its sketch read back. -/
def Written : OperationStats → Prop
  | basic m => Json.Rereads m.mean ∧ Json.Rereads m.deviation
  | recording _ => True
  | sketch s _ => s.Faithful

/-- Finite numbers of an accumulator read back, and so does a sketch that holds something. -/
def Legible : OperationStats → Prop
  | basic m =>
    (m.mean.isFinite → Json.Rereads m.mean) ∧ (m.deviation.isFinite → Json.Rereads m.deviation)
  | recording _ => True
  | sketch s _ => s.count ≠ 0 → s.Faithful

instance (a : OperationStats) : Decidable a.Legible :=
  match a with
  | basic _ => inferInstanceAs (Decidable (_ ∧ _))
  | recording _ => .isTrue trivial
  | sketch _ _ => inferInstanceAs (Decidable (_ → _))

/-- What something was recorded in can be written so that it reads back. -/
theorem written_of_proper {a : OperationStats} (proper : a.Proper) (legible : a.Legible) :
    a.Written := by
  cases a with
  | basic m =>
    have bounded := proper.bounded m rfl
    exact ⟨legible.1 bounded.mean_finite, legible.2 bounded.deviation_finite⟩
  | recording s => trivial
  | sketch s errors =>
    refine legible fun none => ?_
    have some : 0 < s.count.toNat := proper.some
    rw [none] at some
    exact absurd some (Nat.lt_irrefl 0)

variable {a : OperationStats}

theorem Written.members_fit (h : a.Written) : ∀ m ∈ a.members, Json.Fits 3 m.2 := by
  cases a with
  | basic m =>
    have mean : Json.Fits 3 (.float m.mean) := .float h.1
    have deviation : Json.Fits 3 (.float m.deviation) := .float h.2
    simp [members, Moments.members, mean, deviation]
  | recording s =>
    have samples : Json.Fits 3 (.arr (s.toList.map .nat)) := .list fun _ _ => .nat _
    simp [members, Samples.members, samples]
  | sketch s errors =>
    simp [members, Sketch.Faithful.toJson_fits h]

theorem Written.toJson_fits (h : a.Written) : Json.Fits 4 a.toJson :=
  .obj (List.forall_mem_cons.2 ⟨.str _, h.members_fit⟩)

theorem kind_not_mem (a : OperationStats) : "kind" ∉ a.members.map (·.1) := by
  cases a with
  | basic m => simp [members, Moments.members]
  | recording s => simp [members, Samples.members]
  | sketch s errors => simp [members]

/-- An accumulator reads as it was where there is room for it. -/
theorem Written.ofJson?_toJson (h : a.Written) {place : Json.Place} (room : place.Roomy 4) :
    ofJson? place a.toJson = some a := by
  have known : a.kind.name ∈ StatsKind.all.map StatsKind.name :=
    List.mem_map_of_mem (by cases a <;> simp [kind, StatsKind.all])
  have settings : Json.Fits 4 (.obj a.members) := .obj h.members_fit
  rw [ofJson?, toJson, StatsKind.toJson, Json.choice?_of_mayPutAside known settings.plain
    a.kind_not_mem (h.toJson_fits.mayPutAside room), Option.bind_eq_bind, Option.bind_some]
  cases a with
  | basic m =>
    change (Moments.ofJson? (.obj m.members)).map basic = _
    rw [m.ofJson?_members, Option.map_some]
  | recording s =>
    change (Samples.ofJson? (.obj s.members)).map recording = _
    rw [s.ofJson?_members, Option.map_some]
  | sketch s errors =>
    change sketchOfJson? (.obj [("sketch", s.toJson), ("errors", .nat errors)]) = _
    rw [sketchOfJson?, Json.record?_written (by rfl) (by decide)]
    simp [h.reads]

end Accumulator

/-! ### Statistics -/

namespace Statistics

/-- The accumulators of statistics read back. -/
def Written (s : RunStatistics) : Prop := ∀ e ∈ s.operations.entries, e.2.Written

/-- Finite numbers in statistics read back, and so do sketches that hold something. -/
def Legible (s : RunStatistics) : Prop := ∀ e ∈ s.operations.entries, e.2.Legible

instance (s : RunStatistics) : Decidable s.Legible :=
  inferInstanceAs (Decidable (∀ e ∈ s.operations.entries, e.2.Legible))

variable {s : RunStatistics}

/-- What comes about by recording can be written so that it reads back. -/
theorem Arises.written (h : s.Arises) (legible : s.Legible) : s.Written := fun e he =>
  Accumulator.written_of_proper
    (h.proper e.1 e.2 (OrderedMap.find?_eq_some_iff.2 he)) (legible e he)

theorem Written.toJson_fits (h : s.Written) : Json.Fits 6 s.toJson := by
  have operations : Json.Fits 5 (.map Accumulator.toJson s.operations) :=
    .map fun e he => (h e he).toJson_fits
  have begun := Json.Fits.option (WallTime.toJson_fits (n := 4)) s.begun
  have ended := Json.Fits.option (WallTime.toJson_fits (n := 4)) s.ended
  refine .obj ?_
  simp [StatsKind.toJson, operations, begun, ended]

/-- **Statistics read as they were** where there is room for them. -/
theorem Written.ofJson?_toJson (h : s.Written) {place : Json.Place} (room : place.Roomy 6) :
    ofJson? place s.toJson = some s := by
  have operations : Json.map? (Accumulator.ofJson? (place.deeper 2))
      (.map Accumulator.toJson s.operations) = some s.operations :=
    Json.map?_map fun e he => (h e he).ofJson?_toJson room.deeper
  have time := Json.nullable?_option WallTime.ofJson?_toJson nofun
  rw [ofJson?, toJson, Json.record?_written (by rfl) (by decide)]
  simp [Slot.optional, time, operations]

end Statistics

end LoadFleet
