import LoadFleet.Proofs.ReportGrowth
import LoadFleet.Proofs.StatsText
import LoadFleet.Report.Wire
/-!
# Reading the text of acknowledgements and reports

What a worker answers with and what the coordinator makes of such answers reads from its text as it
was. Neither text holds an accumulator that nothing was recorded in, since the statistics in them
come about by recording, whenever the stressors began and however many requests they made.

* `Acknowledgement.Written`, `Report.Written`: all statistics read back.
* `Acknowledgement.read?_compact`, `Report.read?_compact`: what is written so reads back.
* `Acknowledgement.Arises`: all statistics in an acknowledgement come about by recording.
* `Report.allStats_ofStages`: the statistics in a report are those of its acknowledgements, by
  induction over the stages.
* `read?_compact_of_arises`: the main statement.
-/

namespace LoadFleet

/-! ### Payloads -/

@[simp] theorem Json.nullable?_str (s : String) : nullable? str? (.str s) = some (some s) := rfl

@[simp] theorem Json.nullable?_nat (n : UInt64) : nullable? word? (.nat n) = some (some n) := rfl

@[simp] theorem AckErrorKind.name?_name (place : Json.Place) (k : AckErrorKind) :
    Json.name? all ofName? place (.str k.name) = some k := by
  cases k <;> rfl

namespace AckError

theorem toJson_fits (e : AckError) : Json.Fits 1 e.toJson := by
  refine .obj (List.forall_mem_append.2 ⟨by simp, ?_⟩)
  exact .member? .str "cause" e.cause

@[simp] theorem ofJson?_toJson (place : Json.Place) (e : AckError) :
    ofJson? place e.toJson = some e := by
  obtain ⟨kind, message, _ | cause⟩ := e <;>
    simp [ofJson?, toJson, Json.record?, Json.memberSlot?, Json.member?]

end AckError

namespace IterationResult

variable {r : IterationResult}

theorem toJson_fits (h : r.stats.Written) : Json.Fits 7 r.toJson := by
  have least := Json.Fits.option (n := 6) Json.Fits.nat r.minElements
  have greatest := Json.Fits.option (n := 6) Json.Fits.nat r.maxElements
  refine .obj (List.forall_mem_append.2 ⟨by simp [h.toJson_fits, least, greatest], ?_⟩)
  exact .member? .str "failure" r.failure

theorem ofJson?_toJson (h : r.stats.Written) {place : Json.Place} (room : place.Roomy 7) :
    ofJson? place r.toJson = some r := by
  have stats : Statistics.ofJson? (place.deeper 1) r.stats.toJson = some r.stats :=
    h.ofJson?_toJson room.deeper
  have elements := Json.nullable?_option Json.word?_nat nofun
  obtain ⟨_, least, greatest, _ | failure⟩ := r <;>
    simp [ofJson?, toJson, Json.record?, Json.memberSlot?, Json.member?, Slot.optional, elements,
      stats]

end IterationResult

namespace Payload

/-- All statistics in a payload read back. -/
def Written (p : Payload) : Prop := ∀ s ∈ p.threads, s.Written

/-- The name of a payload. -/
def name : Payload → String
  | none => "none"
  | statistics _ => "statistics"
  | iteration _ _ => "iteration"

/-- The members of a written payload after its name. -/
def members : Payload → List (String × Json)
  | none => []
  | statistics threads => [("threads", .arr (threads.map Statistics.toJson))]
  | iteration results totalSize =>
    [("results", .arr (results.map IterationResult.toJson))] ++
      Json.member? "total_size" .nat totalSize

theorem toJson_eq (p : Payload) : p.toJson = .obj (("type", .str p.name) :: p.members) := by
  cases p <;> rfl

variable {p : Payload}

theorem Written.members_fit (h : p.Written) : ∀ m ∈ p.members, Json.Fits 8 m.2 := by
  cases p with
  | none => nofun
  | statistics threads =>
    have threads : Json.Fits 8 (.arr (threads.map Statistics.toJson)) :=
      .list fun s hs => (h s hs).toJson_fits.mono (by decide)
    simp [members, threads]
  | iteration results size =>
    have results : Json.Fits 8 (.arr (results.map IterationResult.toJson)) :=
      .list fun r hr => IterationResult.toJson_fits (h r.stats (List.mem_map_of_mem hr))
    refine List.forall_mem_append.2 ⟨by simp [results], ?_⟩
    exact .member? .nat "total_size" size

theorem Written.toJson_fits (h : p.Written) : Json.Fits 9 p.toJson := by
  rw [toJson_eq]
  exact .obj (List.forall_mem_cons.2 ⟨.str _, h.members_fit⟩)

theorem Written.contents?_members (h : p.Written) :
    contents? p.name (.obj p.members) = some p := by
  cases p with
  | none => rfl
  | statistics threads =>
    have reads : Json.list? (Statistics.ofJson? .aside) (.arr (threads.map Statistics.toJson)) =
        some threads := Json.list?_map fun s hs => (h s hs).ofJson?_toJson trivial
    simp [contents?, name, members, Json.record?, Json.memberSlot?, reads]
  | iteration results size =>
    have reads : Json.list? (IterationResult.ofJson? .aside)
        (.arr (results.map IterationResult.toJson)) = some results :=
      Json.list?_map fun r hr =>
        IterationResult.ofJson?_toJson (h r.stats (List.mem_map_of_mem hr)) trivial
    cases size <;>
      simp [contents?, name, members, Json.record?, Json.memberSlot?, Json.member?, reads]

/-- A payload reads as it was where there is room for it. -/
theorem Written.ofJson?_toJson (h : p.Written) {place : Json.Place} (room : place.Roomy 9) :
    ofJson? place p.toJson = some p := by
  have known : p.name ∈ names := by
    cases p <;> simp [name, names]
  have fresh : "type" ∉ p.members.map (·.1) := by
    rcases p with _ | _ | ⟨_, _ | _⟩ <;> simp [members, Json.member?]
  have contents : Json.Fits 9 (.obj p.members) := .obj h.members_fit
  have fits := h.toJson_fits
  rw [toJson_eq] at fits ⊢
  rw [ofJson?, Json.choice?_of_mayPutAside known contents.plain fresh (fits.mayPutAside room)]
  exact h.contents?_members

end Payload

/-! ### Acknowledgements -/

namespace Acknowledgement

/-- All statistics in an acknowledgement read back. -/
def Written (a : Acknowledgement) : Prop := a.payload.Written

variable {a : Acknowledgement}

theorem Written.toJson_fits (h : a.Written) : Json.Fits 10 a.toJson := by
  have error := Json.Fits.member? (n := 9) (fun e : AckError => e.toJson_fits.mono (by decide))
    "error" a.error
  have payload := Payload.Written.toJson_fits h
  refine .obj (List.forall_mem_append.2 ⟨List.forall_mem_append.2 ⟨by simp, error⟩, ?_⟩)
  simpa using payload

theorem Written.ofJson?_toJson (h : a.Written) : ofJson? .json a.toJson = some a := by
  have payload : Payload.ofJson? (Json.Place.json.deeper 1) a.payload.toJson = some a.payload :=
    Payload.Written.ofJson?_toJson h (by decide : 9 ≤ 126)
  have error := Json.nullable?_option (AckError.ofJson?_toJson .json) nofun
  obtain ⟨worker, duration, _ | e, _⟩ := a
  · simp [ofJson?, toJson, Json.record?, Json.memberSlot?, Json.member?, payload]
  · have error := error (some e)
    rw [Json.option] at error
    simp [ofJson?, toJson, Json.record?, Json.memberSlot?, Json.member?, payload, error]

/-- **An acknowledgement reads from its text as it was.** -/
theorem Written.read?_compact (h : a.Written) : read? a.toJson.compact = some a := by
  rw [read?, Json.read?_compact h.toJson_fits.plain]
  exact h.ofJson?_toJson

end Acknowledgement

/-! ### Reports -/

theorem WorkerResult.toJson_fits (r : WorkerResult) : Json.Fits 1 r.toJson := .obj (by simp)

@[simp] theorem WorkerResult.ofJson?_toJson (r : WorkerResult) : ofJson? r.toJson = some r := by
  rw [ofJson?, toJson, Json.record?_written (by rfl) (by decide)]
  simp

theorem TestResult.toJson_fits (r : TestResult) : Json.Fits 3 r.toJson := by
  have workers : Json.Fits 2 (.wordMap WorkerResult.toJson r.workers) :=
    .wordMap fun e _ => e.2.toJson_fits
  refine .obj ?_
  simp [workers]

@[simp] theorem TestResult.ofJson?_toJson (r : TestResult) : ofJson? r.toJson = some r := by
  have workers : Json.wordMap? WorkerResult.ofJson? (.wordMap WorkerResult.toJson r.workers) =
      some r.workers := Json.wordMap?_wordMap fun e _ => e.2.ofJson?_toJson
  rw [ofJson?, toJson, Json.record?_written (by rfl) (by decide)]
  simp [workers]

namespace TestIteration

/-- Something holds of all statistics in an iteration. -/
def AllStats (holds : RunStatistics → Prop) (i : TestIteration) : Prop :=
  ∀ worker threads, i.statistics.find? worker = some threads → ∀ s ∈ threads, holds s

variable {i : TestIteration}

theorem AllStats.mem {holds : RunStatistics → Prop} (h : i.AllStats holds)
    {e : WorkerIndex × List RunStatistics} (he : e ∈ i.statistics.entries) :
    ∀ s ∈ e.2, holds s :=
  h e.1 e.2 (OrderedMap.find?_eq_some_iff.2 he)

theorem toJson_fits (h : i.AllStats Statistics.Written) : Json.Fits 9 i.toJson := by
  have statistics : Json.Fits 8
      (.wordMap (fun threads => .arr (threads.map Statistics.toJson)) i.statistics) :=
    .wordMap fun e he => .list fun s hs => (h.mem he s hs).toJson_fits
  have results : Json.Fits 8 (.map TestResult.toJson i.results) :=
    .map fun e _ => e.2.toJson_fits.mono (by decide)
  refine .obj ?_
  simp [statistics, results]

theorem ofJson?_toJson (h : i.AllStats Statistics.Written) {place : Json.Place}
    (room : place.Roomy 9) : ofJson? place i.toJson = some i := by
  have statistics : Json.wordMap? (Json.list? (Statistics.ofJson? (place.deeper 3)))
      (.wordMap (fun threads => .arr (threads.map Statistics.toJson)) i.statistics) =
        some i.statistics :=
    Json.wordMap?_wordMap fun e he =>
      Json.list?_map fun s hs => (h.mem he s hs).ofJson?_toJson room.deeper
  have results : Json.map? TestResult.ofJson? (.map TestResult.toJson i.results) =
      some i.results := Json.map?_map fun e _ => e.2.ofJson?_toJson
  rw [ofJson?, toJson, Json.record?_written (by rfl) (by decide)]
  simp [statistics, results]

end TestIteration

namespace Test

/-- Something holds of all statistics in a test. -/
def AllStats (holds : RunStatistics → Prop) (t : Test) : Prop :=
  ∀ i ∈ t.iterations, i.AllStats holds

variable {t : Test}

theorem toJson_fits (h : t.AllStats Statistics.Written) : Json.Fits 11 t.toJson := by
  have iterations : Json.Fits 10 (.arr (t.iterations.map TestIteration.toJson)) :=
    .list fun i hi => TestIteration.toJson_fits (h i hi)
  refine .obj ?_
  simp [iterations]

theorem ofJson?_toJson (h : t.AllStats Statistics.Written) {place : Json.Place}
    (room : place.Roomy 11) : ofJson? place t.toJson = some t := by
  have iterations : Json.list? (TestIteration.ofJson? (place.deeper 2))
      (.arr (t.iterations.map TestIteration.toJson)) = some t.iterations :=
    Json.list?_map fun i hi => TestIteration.ofJson?_toJson (h i hi) room.deeper
  rw [ofJson?, toJson, Json.record?_written (by rfl) (by decide)]
  simp [iterations]

end Test

namespace Report

/-- Something holds of all statistics in a report. -/
def AllStats (holds : RunStatistics → Prop) (r : Report) : Prop := ∀ t ∈ r.tests, t.AllStats holds

variable {r r' : Report}

theorem AllStats.mono {holds holds' : RunStatistics → Prop} (h : r.AllStats holds)
    (le : ∀ s, holds s → holds' s) : r.AllStats holds' :=
  fun t ht i hi worker threads found s hs => le s (h t ht i hi worker threads found s hs)

/-- **A report reads from its text as it was.** -/
theorem read?_compact (h : r.AllStats Statistics.Written) : read? r.toJson.compact = some r := by
  have fits : Json.Fits 12 (.arr (r.tests.map Test.toJson)) :=
    .list fun t ht => Test.toJson_fits (h t ht)
  have tests : Json.list? (Test.ofJson? (Json.Place.json.deeper 2))
      (.arr (r.tests.map Test.toJson)) = some r.tests :=
    Json.list?_map fun t ht => Test.ofJson?_toJson (h t ht) (by decide : 11 ≤ 125)
  have plain : Json.Plain r.toJson := (Json.Fits.obj (n := 12) (by simpa using fits)).plain
  rw [read?, Json.read?_compact plain, Option.bind_some, ofJson?, toJson,
    Json.record?_written (by rfl) (by decide)]
  simp [tests]

end Report

/-! ### Where statistics come from -/

section

variable {holds : RunStatistics → Prop} {i j : TestIteration}

namespace TestIteration.AllStats

theorem addStatistics (h : i.AllStats holds) (worker : WorkerIndex) {threads : List RunStatistics}
    (ht : ∀ s ∈ threads, holds s) : (i.addStatistics worker threads).AllStats holds := by
  intro other known found
  rw [TestIteration.addStatistics, OrderedMap.find?_insert] at found
  split at found
  · cases found
    refine List.forall_mem_append.2 ⟨?_, ht⟩
    cases before : i.statistics.find? worker with
    | none => nofun
    | some threads => exact h worker threads before
  · exact h other known found

theorem fresh (index : UInt64) (stage : String) :
    AllStats holds ⟨index, stage, .empty, .empty⟩ := by
  intro worker threads found
  rw [OrderedMap.find?_empty] at found
  cases found

theorem foldl {α : Type} {f : TestIteration → α → TestIteration} {l : List α}
    (hf : ∀ a ∈ l, ∀ i : TestIteration, i.AllStats holds → (f i a).AllStats holds)
    (h : i.AllStats holds) : (l.foldl f i).AllStats holds := by
  induction l generalizing i with
  | nil => exact h
  | cons a r ih =>
    exact ih (fun b hb => hf b (.tail _ hb)) (hf a (.head _) i h)

theorem addIfAny? (h : i.AllStats holds) {test : String} {result : Option TestResult}
    (added : i.addIfAny? test result = .ok j) : j.AllStats holds := by
  cases result with
  | none =>
    cases added
    exact h
  | some r =>
    simp only [TestIteration.addIfAny?, addResult?] at added
    split at added
    · cases added
    · cases added
      exact h

end TestIteration.AllStats

/-- What holds of all statistics in acknowledgements holds of those that a stage fills in. -/
theorem StageKind.allStats_fill? {kind : StageKind} {acks : Acknowledgements}
    (ha : ∀ a ∈ acks.values, ∀ s ∈ a.payload.threads, holds s) (h : i.AllStats holds)
    (fill : kind.fill? acks i = .ok j) : j.AllStats holds := by
  have own {worker : WorkerIndex} {ack : Acknowledgement} (found : acks.find? worker = some ack) :
      ∀ s ∈ ack.payload.threads, holds s :=
    ha ack (List.mem_map.2 ⟨(worker, ack), OrderedMap.find?_eq_some_iff.1 found, rfl⟩)
  cases kind with
  | iterate s =>
    refine TestIteration.AllStats.addIfAny? (.foldl (fun e he i h => ?_) h) fill
    obtain ⟨ack, found, payload⟩ := Acknowledgements.mem_iterations.1 he
    have own := own found
    rw [payload] at own
    exact h.addStatistics e.1 own
  | stress s =>
    obtain ⟨workers, -, fill⟩ := ok_of_bind fill
    obtain ⟨k, first, second⟩ := ok_of_bind fill
    refine TestIteration.AllStats.addIfAny?
      (.addIfAny? (.foldl (fun e he i h => ?_) h) first) second
    obtain ⟨ack, found, payload⟩ := Acknowledgements.mem_statistics.1 he
    have own := own found
    rw [payload] at own
    exact h.addStatistics e.1 own
  | waitForEvent | waitForSettle | checkTopology =>
    cases fill
    exact h

namespace Report

variable {r r' : Report} {name : String}

theorem AllStats.adds (h : r.AllStats holds) (adds : r.Adds name i r') (hi : i.AllStats holds) :
    r'.AllStats holds := by
  intro t ht
  obtain old | ⟨known, there, -, rfl⟩ := adds.mem ht
  · exact h t old
  · refine List.forall_mem_append.2 ⟨?_, List.forall_mem_singleton.2 hi⟩
    rcases there with there | rfl
    · exact h _ there
    · nofun

theorem allStats_aggregate (stage : Stage) {acks : Acknowledgements}
    (ha : ∀ a ∈ acks.values, ∀ s ∈ a.payload.threads, holds s) (h : r.AllStats holds) :
    (aggregate stage acks r).2.AllStats holds := by
  obtain ⟨-, same⟩ | ⟨test, i, -, -, adds, fill⟩ := aggregate_cases stage acks r
  · rwa [same]
  · exact h.adds adds (StageKind.allStats_fill? ha (.fresh _ _) fill)

/-- **Where statistics come from.** What holds of all statistics in acknowledgements holds of all
statistics in the report of the stages that were acknowledged. -/
theorem allStats_ofStages {calls : List (Stage × Acknowledgements)}
    (h : ∀ e ∈ calls, ∀ a ∈ e.2.values, ∀ s ∈ a.payload.threads, holds s) :
    (ofStages calls).AllStats holds := by
  suffices grows : ∀ r : Report, r.AllStats holds →
      (calls.foldl (fun r e => (aggregate e.1 e.2 r).2) r).AllStats holds from
    grows empty nofun
  induction calls with
  | nil => exact fun r hr => hr
  | cons e rest ih =>
    obtain ⟨here, later⟩ := List.forall_mem_cons.1 h
    exact fun r hr => ih later _ (allStats_aggregate e.1 here hr)

end Report

end

/-! ### Acknowledgements that come about -/

namespace Acknowledgement

/-- All statistics in an acknowledgement come about by recording. -/
def Arises (a : Acknowledgement) : Prop := ∀ s ∈ a.payload.threads, s.Arises

/-- The finite numbers in the statistics of an acknowledgement read back, and so do the sketches
that hold something. -/
def Legible (a : Acknowledgement) : Prop := ∀ s ∈ a.payload.threads, s.Legible

instance (a : Acknowledgement) : Decidable a.Legible :=
  inferInstanceAs (Decidable (∀ s ∈ a.payload.threads, s.Legible))

/-- An acknowledgement of a worker. -/
theorem arises_of_execute {w : Worker} {env : Surroundings} {stage : Stage} {now : Instant}
    {x : Execution} (h : (w.execute env stage now).execution = some x) : x.ack.Arises :=
  fun s hs => (Worker.execute_filled h s hs).arises

/-- An acknowledgement that stands for a worker that gave none. -/
theorem arises_failure (worker : WorkerIndex) (duration : Span) (error : AckError) :
    (failure worker duration error).Arises := nofun

theorem Arises.written {a : Acknowledgement} (h : a.Arises) (legible : a.Legible) : a.Written :=
  fun s hs => (h s hs).written (legible s hs)

end Acknowledgement

/-- **Round trips.** Every acknowledgement whose statistics come about by recording reads from its
text as it was, and so does every report of such statistics, in particular every report that is made
of such acknowledgements. The acknowledgements of workers are among them, and so are those that
stand for workers that gave none. -/
theorem read?_compact_of_arises :
    (∀ a : Acknowledgement, a.Arises → a.Legible →
      Acknowledgement.read? a.toJson.compact = some a) ∧
    (∀ r : Report, r.AllStats (fun s => s.Arises ∧ s.Legible) →
      Report.read? r.toJson.compact = some r) ∧
    (∀ calls : List (Stage × Acknowledgements),
      (∀ e ∈ calls, ∀ a ∈ e.2.values, a.Arises ∧ a.Legible) →
        Report.read? (Report.ofStages calls).toJson.compact = some (Report.ofStages calls)) ∧
    (∀ (w : Worker) (env : Surroundings) (stage : Stage) (now : Instant) (x : Execution),
      (w.execute env stage now).execution = some x → x.ack.Arises) ∧
    ∀ worker duration error, (Acknowledgement.failure worker duration error).Arises := by
  have reports (r : Report) (h : r.AllStats fun s => s.Arises ∧ s.Legible) :
      Report.read? r.toJson.compact = some r :=
    Report.read?_compact (h.mono fun _ hs => hs.1.written hs.2)
  refine ⟨fun a arises legible => (arises.written legible).read?_compact, reports,
    fun calls h => reports _ (Report.allStats_ofStages fun e he a ha s hs => ?_),
    fun w env stage now x h => Acknowledgement.arises_of_execute h, Acknowledgement.arises_failure⟩
  obtain ⟨arises, legible⟩ := h e he a ha
  exact ⟨arises s hs, legible s hs⟩

/-- A store whose cursors hold some entries and take their time to tell whether they have more. -/
def tardy : Simulated :=
  { Simulated.plain "memory" .empty with
    manners := { delays := [(.hasNext, .ofNanos 1300000)], script := some [2, 5] } }

/-- A stage in which two stressors pass over a store. -/
def passes (kind : StatsKind) : Stage :=
  { name := "passes", kind := .iterate { test := { amend := true, threads := 2, stats := kind } } }

/-- What a worker comes to when it passes over a store. -/
def passOver (store : Simulated) (kind : StatsKind) : Option Execution :=
  ((Worker.start 3 Worker.defaultGrace).execute ⟨.milliseconds, store, .empty, .ofNanos 0, 0, 0⟩
    (passes kind) 0).execution

/-- Moments of a store that takes its time and sketches of one that does not read back, and so does
the report of both. -/
theorem read?_compact_of_arises_passes :
    ∃ x y, passOver tardy .basic = some x ∧ x.ack.Legible ∧
      passOver (.plain "memory" .empty) .sketch = some y ∧ y.ack.Legible ∧
      Acknowledgement.read? x.ack.toJson.compact = some x.ack ∧
      Acknowledgement.read? y.ack.toJson.compact = some y.ack ∧
      let report := Report.ofStages
        [(passes .basic, .ofList [(3, x.ack)]), (passes .sketch, .ofList [(3, y.ack)])]
      report.tests.map (·.iterations.length) = [2] ∧
        Report.read? report.toJson.compact = some report := by
  have basic : ((passOver tardy .basic).any fun x => decide x.ack.Legible) = true := by
    decide +kernel
  have sketch :
      ((passOver (.plain "memory" .empty) .sketch).any fun x => decide x.ack.Legible) = true := by
    decide +kernel
  have recorded : ((passOver tardy .basic).bind fun x =>
      (passOver (.plain "memory" .empty) .sketch).map fun y => (Report.ofStages
        [(passes .basic, .ofList [(3, x.ack)]), (passes .sketch, .ofList [(3, y.ack)])]).tests.map
          (·.iterations.length)) = some [2] := by
    decide +kernel
  obtain ⟨x, hx, legible⟩ := (Option.any_eq_true _ _).1 basic
  obtain ⟨y, hy, legible'⟩ := (Option.any_eq_true _ _).1 sketch
  have legible : x.ack.Legible := of_decide_eq_true legible
  have legible' : y.ack.Legible := of_decide_eq_true legible'
  rw [hx, hy, Option.bind_some, Option.map_some] at recorded
  obtain ⟨acks, -, reports, given, -⟩ := read?_compact_of_arises
  refine ⟨x, y, hx, legible, hy, legible', acks _ (given _ _ _ _ _ hx) legible,
    acks _ (given _ _ _ _ _ hy) legible', Option.some.inj recorded, reports _ ?_⟩
  refine List.forall_mem_cons.2 ⟨?_, List.forall_mem_singleton.2 ?_⟩
  · exact List.forall_mem_singleton.2 ⟨given _ _ _ _ _ hx, legible⟩
  · exact List.forall_mem_singleton.2 ⟨given _ _ _ _ _ hy, legible'⟩

end LoadFleet
