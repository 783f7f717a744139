import LoadFleet.Proofs.JsonText
import LoadFleet.Proofs.SpanText
import LoadFleet.Process.Service
/-!
# Reading the text of a stage

Every stage reads from its JSON text as it was. Each value reads from what is written for it, a
setting that is left out has the default it is read with, and no member is written twice. The kind
of a stage is put aside until its tag is known; since it is written plainly and nests no deeper than
a few levels, that changes nothing.

* `Json.record?_written`: a record of all its fields reads as these fields.
* `Json.choice?_written`: a choice reads as its tag and the rest of its members.
* `Json.Fits`: what is written plainly, with so many arrays and objects inside each other.
* `StageKind.ofJson?_toJson`: a kind reads as it was, by cases on the kinds.
* `Stage.plain_toJson`: what is written for a stage can be read as a text.
* `Stage.read?_compact_toJson`: the main statement.
* `Service.stage?_compact`: a worker gets the stage that was sent to it.
-/

namespace LoadFleet

/-! ### Values -/

namespace Slot

variable {α : Type} (default : α) (read : Json → Option α) (j : Json)

@[simp] theorem orElse_value : (value j).orElse default read = read j := rfl

@[simp] theorem orElse_noMember : noMember.orElse default read = some default := rfl

@[simp] theorem required_value : (value j).required read = read j := rfl

end Slot

namespace Json

@[simp] theorem str?_str (s : String) : str? (.str s) = some s := rfl

@[simp] theorem bool?_bool (b : Bool) : bool? (.bool b) = some b := rfl

@[simp] theorem word?_nat (n : UInt64) : word? (.nat n) = some n := rfl

@[simp] theorem halfWord?_half (n : UInt32) : halfWord? (half n) = some n := by
  have small : n.toNat < 0x100000000 := n.toNat_lt
  simp [halfWord?, half, small]

@[simp] theorem span?_toJson (a : Span) : span? a.toJson = some a := a.read?_readable

theorem nullable?_of_read {α : Type} {read : Json → Option α} {j : Json} {a : α}
    (h : read j = some a) (value : j ≠ .null) : nullable? read j = some (some a) := by
  rw [nullable?, h]
  · rfl
  · exact value

/-- An optional value reads from what is written for it, unless `null` is written for a value. -/
theorem nullable?_option {α : Type} {read : Json → Option α} {write : α → Json}
    (reads : ∀ a, read (write a) = some a) (value : ∀ a, write a ≠ .null) :
    (o : Option α) → nullable? read (option write o) = some o
  | none => rfl
  | some a => nullable?_of_read (reads a) (value a)

@[simp] theorem nullable?_text (s : Option String) : nullable? str? (text? s) = some s :=
  nullable?_option str?_str nofun s

@[simp] theorem nullable?_span (a : Span) : nullable? span? a.toJson = some (some a) :=
  nullable?_of_read (span?_toJson a) nofun

end Json

/-- A set is the set of its members. -/
theorem OrderedSet.ofList_toList {K : Type} [Ord K] [Std.TransOrd K] [Std.LawfulEqOrd K]
    (s : OrderedSet K) : ofList s.toList = s := by
  refine OrderedMap.ext_find? fun k => Option.ext fun v => ?_
  have distinct : ((s.toList.map fun k => (k, ())).map (·.1)).Nodup := by
    rw [List.map_map, Function.comp_def, List.map_id']
    exact OrderedMap.nodup_keys s
  rw [ofList, OrderedMap.find?_ofList_iff distinct, OrderedMap.find?_eq_some_iff]
  cases v
  simp only [toList, OrderedMap.keys, List.mem_map, Prod.mk.injEq, and_true, exists_eq_right]
  constructor
  · rintro ⟨e, h, rfl⟩
    exact h
  · exact fun h => ⟨_, h, rfl⟩

namespace Json

theorem set?_set {K : Type} [Ord K] [Std.TransOrd K] [Std.LawfulEqOrd K] {read : Json → Option K}
    {write : K → Json} (reads : ∀ k, read (write k) = some k) (s : OrderedSet K) :
    set? read (set write s) = some s := by
  rw [set?, set, list?, mapM_map_eq_some fun k _ => reads k, List.map_id', Option.map_some,
    OrderedSet.ofList_toList]

@[simp] theorem nullable?_workers (workers : OrderedSet WorkerIndex) :
    nullable? (set? word?) (set .nat workers) = some (some workers) :=
  nullable?_of_read (set?_set word?_nat workers) nofun

/-! ### Records and choices -/

/-- A member that is written once is found. -/
theorem memberSlot?_of_mem {members : List (String × Json)} (distinct : (members.map (·.1)).Nodup)
    {m : String × Json} (h : m ∈ members) : memberSlot? members m.1 = some (.value m.2) := by
  have once : members.filter (fun n => n.1 = m.1) = [m] := by
    induction members with
    | nil => cases h
    | cons n r ih =>
      obtain ⟨fresh, distinct⟩ := List.nodup_cons.1 distinct
      rcases List.mem_cons.1 h with rfl | h
      · rw [List.filter_cons_of_pos (by simp), List.cons_eq_cons, List.filter_eq_nil_iff]
        refine ⟨rfl, fun n hn same => fresh ?_⟩
        exact List.mem_map.2 ⟨n, hn, by simpa using same⟩
      · have other : n.1 ≠ m.1 := fun same => fresh (List.mem_map.2 ⟨m, h, same.symm⟩)
        rw [List.filter_cons_of_neg (by simpa using other), ih distinct h]
  rw [memberSlot?, once]

/-- A record of all its fields reads as these fields. -/
theorem record?_written {fields : List String} {members : List (String × Json)}
    (names : members.map (·.1) = fields) (distinct : fields.Nodup) :
    record? fields (.obj members) = some (members.map fun m => .value m.2) := by
  subst names
  exact mapM_map_eq_some fun m hm => memberSlot?_of_mem distinct hm

theorem putItemsAside_eq {items : List Json} (h : ∀ j ∈ items, j.putAside = j) :
    putItemsAside items = items := by
  induction items with
  | nil => rfl
  | cons j r ih =>
    obtain ⟨here, others⟩ := List.forall_mem_cons.1 h
    rw [putItemsAside, here, ih others]

theorem putMembersAside_eq {members : List (String × Json)}
    (h : ∀ m ∈ members, m.2.putAside = m.2) : putMembersAside members = members := by
  induction members with
  | nil => rfl
  | cons m r ih =>
    obtain ⟨here, others⟩ := List.forall_mem_cons.1 h
    rw [putMembersAside, here, ih others]

/-- What is written plainly is put aside as it is. -/
theorem Plain.putAside_eq {j : Json} (h : Plain j) : j.putAside = j := by
  induction h with
  | null | bool | nat | negative | float | str => rfl
  | arr _ ih => rw [putAside, putItemsAside_eq ih]
  | obj _ ih => rw [putAside, putMembersAside_eq ih]

theorem readableItems_eq {items : List Json} (h : ∀ j ∈ items, j.readable) :
    readableItems items := by
  induction items with
  | nil => rfl
  | cons j r ih =>
    obtain ⟨here, others⟩ := List.forall_mem_cons.1 h
    rw [readableItems, here, ih others]
    rfl

theorem readableMembers_eq {members : List (String × Json)} (h : ∀ m ∈ members, m.2.readable) :
    readableMembers members := by
  induction members with
  | nil => rfl
  | cons m r ih =>
    obtain ⟨here, others⟩ := List.forall_mem_cons.1 h
    rw [readableMembers, here, ih others]
    rfl

theorem Plain.readable {j : Json} (h : Plain j) : j.readable := by
  induction h with
  | null | bool | nat | negative | float | str => rfl
  | arr _ ih => rw [Json.readable, readableItems_eq ih]
  | obj _ ih => rw [Json.readable, readableMembers_eq ih]

/-- A choice that may be put aside reads as its tag and the rest of its members. -/
theorem choice?_of_mayPutAside {tag name : String} {names : List String}
    {members : List (String × Json)} {place : Place} (known : name ∈ names)
    (plain : Plain (.obj members)) (fresh : tag ∉ members.map (·.1))
    (may : mayPutAside place (.obj ((tag, .str name) :: members))) :
    choice? tag names place (.obj ((tag, .str name) :: members)) = some (name, .obj members) := by
  have plain : Plain (.obj ((tag, .str name) :: members)) := by
    cases plain with
    | obj h => exact .obj (List.forall_mem_cons.2 ⟨.str name, h⟩)
  have others : ∀ m ∈ members, m.1 ≠ tag := fun m hm same => fresh (same ▸ List.mem_map_of_mem hm)
  have tagged : ((tag, .str name) :: members).filter (fun m => m.1 = tag) = [(tag, .str name)] := by
    rw [List.filter_cons_of_pos (by simp), List.filter_eq_nil_iff.2 (by simpa using others)]
  have rest : ((tag, .str name) :: members).filter (fun m => m.1 ≠ tag) = members := by
    rw [List.filter_cons_of_neg (by simp), List.filter_eq_self.2 (by simpa using others)]
  rw [choice?, if_pos may, plain.putAside_eq]
  simp only [tagged, rest]
  simp [tag?, known]

/-- A choice reads as its tag and the rest of its members. -/
theorem choice?_written {tag name : String} {names : List String} {members : List (String × Json)}
    {room : Nat} (known : name ∈ names) (plain : Plain (.obj members))
    (fresh : tag ∉ members.map (·.1)) (shallow : (Json.obj members).depth ≤ room) :
    choice? tag names (.text room) (.obj ((tag, .str name) :: members)) =
      some (name, .obj members) := by
  refine choice?_of_mayPutAside known plain fresh ?_
  have readable := plain.readable
  simpa [mayPutAside, Json.readable, readableMembers, depth, depthMembers] using
    ⟨readable, shallow⟩

end Json

/-! ### What fits into a text -/

namespace Json

theorem depth_arr_le {n : Nat} {items : List Json} (h : ∀ j ∈ items, j.depth ≤ n) :
    (arr items).depth ≤ n + 1 := by
  refine Nat.succ_le_succ ?_
  induction items with
  | nil => exact Nat.zero_le n
  | cons j r ih =>
    obtain ⟨here, others⟩ := List.forall_mem_cons.1 h
    exact Nat.max_le.2 ⟨here, ih others⟩

theorem depth_obj_le {n : Nat} {members : List (String × Json)} (h : ∀ m ∈ members, m.2.depth ≤ n) :
    (obj members).depth ≤ n + 1 := by
  refine Nat.succ_le_succ ?_
  induction members with
  | nil => exact Nat.zero_le n
  | cons m r ih =>
    obtain ⟨here, others⟩ := List.forall_mem_cons.1 h
    exact Nat.max_le.2 ⟨here, ih others⟩

/-- A value that is written as it is, with a number of arrays and objects inside each other. -/
structure Fits (levels : Nat) (j : Json) : Prop where
  plain : Plain j
  shallow : j.depth ≤ levels

namespace Fits

variable {n : Nat}

@[simp] theorem null : Fits n .null := ⟨.null, Nat.zero_le n⟩

@[simp] theorem bool (b : Bool) : Fits n (.bool b) := ⟨.bool b, Nat.zero_le n⟩

@[simp] theorem nat (w : UInt64) : Fits n (.nat w) := ⟨.nat w, Nat.zero_le n⟩

@[simp] theorem str (s : String) : Fits n (.str s) := ⟨.str s, Nat.zero_le n⟩

@[simp] theorem half (w : UInt32) : Fits n (.half w) := .nat w.toUInt64

theorem arr {items : List Json} (h : ∀ j ∈ items, Fits n j) : Fits (n + 1) (.arr items) :=
  ⟨.arr fun j hj => (h j hj).plain, depth_arr_le fun j hj => (h j hj).shallow⟩

theorem obj {members : List (String × Json)} (h : ∀ m ∈ members, Fits n m.2) :
    Fits (n + 1) (.obj members) :=
  ⟨.obj fun m hm => (h m hm).plain, depth_obj_le fun m hm => (h m hm).shallow⟩

variable {α : Type} {write : α → Json} (h : ∀ a, Fits n (write a))

include h

theorem option : (o : Option α) → Fits n (Json.option write o)
  | some a => h a
  | none => null

omit h in
@[simp] theorem text? : (s : Option String) → Fits n (.text? s) := option str

theorem set [Ord α] (s : OrderedSet α) : Fits (n + 1) (Json.set write s) :=
  arr fun _ hj => by
    obtain ⟨a, -, rfl⟩ := List.mem_map.1 hj
    exact h a

theorem member? (name : String) : (o : Option α) → ∀ m ∈ Json.member? name write o, Fits n m.2
  | some a => by simpa [Json.member?] using h a
  | none => nofun

end Fits

end Json

/-! ### Settings -/

@[simp] theorem StatsKind.ofJson?_toJson (place : Json.Place) (k : StatsKind) :
    ofJson? place k.toJson = some k := by
  cases k <;> rfl

@[simp] theorem HistoryKind.ofJson?_toJson (h : HistoryKind) : ofJson? h.toJson = some h := by
  cases h <;> rfl

@[simp] theorem EventCondition.ofJson?_toJson (c : EventCondition) :
    ofJson? c.toJson = some c := by
  cases c <;> rfl

@[simp] theorem HistoryKind.set?_set (s : OrderedSet HistoryKind) :
    Json.set? ofJson? (Json.set toJson s) = some s :=
  Json.set?_set ofJson?_toJson s

@[simp] theorem Span.toJson_fits {n : Nat} (a : Span) : Json.Fits n a.toJson := .str a.readable

@[simp] theorem HistoryKind.toJson_fits {n : Nat} (h : HistoryKind) : Json.Fits n h.toJson :=
  .str h.name

@[simp] theorem EventCondition.toJson_fits {n : Nat} (c : EventCondition) :
    Json.Fits n c.toJson :=
  .str c.name

theorem TestSettings.toJson_fits (t : TestSettings) : Json.Fits 1 t.toJson := by
  refine .obj ?_
  simp [StatsKind.toJson]

@[simp] theorem TestSettings.ofJson?_toJson (t : TestSettings) : ofJson? t.toJson = some t := by
  rw [ofJson?, toJson, Json.record?_written]
  · simp
  · rfl
  · decide

theorem IterateSettings.ofJson?_members (s : IterateSettings) :
    ofJson? (.obj s.members) = some s := by
  have total := Json.nullable?_option Json.bool?_bool nofun s.failOnNotTotalSize
  rw [ofJson?, members, Json.record?_written]
  · simp [total]
  · rfl
  · decide

theorem EventSettings.ofJson?_members (s : EventSettings) : ofJson? (.obj s.members) = some s := by
  have maximum := Json.nullable?_option Json.word?_nat nofun s.maxMembers
  rw [ofJson?, members, Json.record?_written]
  · simp [maximum]
  · rfl
  · decide

theorem SettleSettings.ofJson?_members (s : SettleSettings) :
    ofJson? (.obj s.members) = some s := by
  rw [ofJson?, members, Json.record?_written]
  · simp
  · rfl
  · decide

theorem CheckSettings.ofJson?_members (s : CheckSettings) : ofJson? (.obj s.members) = some s := by
  rw [ofJson?, members, Json.record?_written]
  · simp
  · rfl
  · decide

theorem StressSettings.ofJson?_members (s : StressSettings) :
    ofJson? (.obj s.members) = some s := by
  have failures := Json.nullable?_option Json.halfWord?_half nofun s.maxConsecutiveFailures
  obtain ⟨test, requests, _ | duration, entries, size, get, put, remove, container, limit⟩ := s
  · -- the duration is left out, and is read as its default
    simp [ofJson?, members, Json.record?, Json.memberSlot?, fields, Json.member?, failures]
  · rw [ofJson?, members, Json.record?_written]
    · simp [Json.member?, failures]
    · rfl
    · decide

/-! ### Kinds -/

namespace StageKind

variable (k : StageKind)

/-- The settings of a kind read as the kind. -/
theorem settings?_members : settings? k.name (.obj k.members) = some k := by
  cases k with
  | iterate s => simp [settings?, name, members, s.ofJson?_members]
  | stress s => simp [settings?, name, members, s.ofJson?_members]
  | waitForEvent s => simp [settings?, name, members, s.ofJson?_members]
  | waitForSettle s => simp [settings?, name, members, s.ofJson?_members]
  | checkTopology s => simp [settings?, name, members, s.ofJson?_members]

theorem name_mem_names : k.name ∈ names := by
  cases k <;> simp [name, names]

theorem type_not_mem : "type" ∉ k.members.map (·.1) := by
  cases k with
  | stress s =>
    obtain ⟨_, _, _ | _⟩ := s <;> simp [members, StressSettings.members, Json.member?]
  | iterate s => simp [members, IterateSettings.members]
  | waitForEvent s => simp [members, EventSettings.members]
  | waitForSettle s => simp [members, SettleSettings.members]
  | checkTopology s => simp [members, CheckSettings.members]

/-- No more than one array or object stands inside of a setting. -/
theorem members_fit : ∀ m ∈ k.members, Json.Fits 1 m.2 := by
  cases k with
  | iterate s =>
    simp [members, IterateSettings.members, s.test.toJson_fits, Json.Fits.option Json.Fits.bool]
  | stress s =>
    have duration := Json.Fits.member? (n := 1) Span.toJson_fits "duration" s.duration
    have limit := Json.Fits.option (n := 1) Json.Fits.half s.maxConsecutiveFailures
    rw [members, StressSettings.members, List.forall_mem_append, List.forall_mem_append]
    exact ⟨⟨by simp [s.test.toJson_fits], duration⟩, by simp [limit]⟩
  | waitForEvent s =>
    simp [members, EventSettings.members, Json.Fits.option Json.Fits.nat]
  | waitForSettle s =>
    simp [members, SettleSettings.members, Json.Fits.set HistoryKind.toJson_fits]
  | checkTopology s =>
    simp [members, CheckSettings.members, Json.Fits.set HistoryKind.toJson_fits]

/-- A kind reads as it was where there is room for its settings. -/
theorem ofJson?_toJson {room : Nat} (h : 2 ≤ room) : ofJson? (.text room) k.toJson = some k := by
  have settings : Json.Fits 2 (.obj k.members) := .obj k.members_fit
  rw [ofJson?, toJson, Json.choice?_written k.name_mem_names settings.plain k.type_not_mem
    (settings.shallow.trans h)]
  exact k.settings?_members

theorem toJson_fits : Json.Fits 2 k.toJson :=
  .obj (List.forall_mem_cons.2 ⟨.str k.name, k.members_fit⟩)

end StageKind

/-! ### Stages -/

namespace Stage

variable (s : Stage)

theorem ofJson?_toJson : ofJson? .json s.toJson = some s := by
  have kind := s.kind.ofJson?_toJson (by decide : 2 ≤ 126)
  obtain ⟨name, _ | workers, _ | timeout, k⟩ := s <;>
    simp [ofJson?, toJson, Json.recordAt?, Json.record?, Json.memberSlot?, fields, Json.member?,
      Json.Place.deeper, Json.Place.json, kind]

theorem plain_toJson : Json.Plain s.toJson := by
  have workers := Json.Fits.member? (n := 2) (Json.Fits.set Json.Fits.nat) "workers" s.workers
  have timeout := Json.Fits.member? (n := 2) Span.toJson_fits "timeout" s.timeout
  refine (Json.Fits.obj (n := 2) ?_).plain
  simp only [List.forall_mem_append]
  exact ⟨⟨⟨by simp, workers⟩, timeout⟩, by simp [s.kind.toJson_fits]⟩

/-- **A stage reads from its text as it was.** -/
theorem read?_compact_toJson : read? s.toJson.compact = some s := by
  rw [read?, Json.read?_compact s.plain_toJson]
  exact s.ofJson?_toJson

end Stage

/-- A worker gets the stage that was sent to it. -/
theorem Service.stage?_compact {r : Request} (json : r.contentType.any isJson) {s : Stage}
    (body : r.body = s.toJson.compact) : stage? r = .ok s := by
  rw [stage?, body, Json.read?_compact s.plain_toJson]
  simp [json, s.ofJson?_toJson]

end LoadFleet
