import LoadFleet.Proofs.Arrivals
import LoadFleet.Worker.Worker
/-!
# What a worker remembers of the topology

A worker keeps a marker for every topology history: the newest event there was when an event stage
that sets it passed.  Waits look only at events after their marker.  Events are numbered as they
arrive, and histories only grow; so a marker never goes back, and no wait is satisfied twice with
what is already there.

* `TopologyHistory.Numbered`: the numbers of events are their places in the log.
* `Worker.execute_cases`: what running a stage does to the markers.
* `Scene.Step`, `Scene.Run`: what happens to a worker, its topology and the clock, one thing after
  the other.
* `Scene.Sound`: the history is numbered, and markers are events of their history.  Every step keeps
  this (`Scene.Sound.step`).
* `Scene.markers_of_run`: the law of the markers, for every run.
-/

namespace LoadFleet

/-! ### Histories are numbered, and only grow -/

namespace TopologyHistory

variable {h : TopologyHistory} {cache : String} {kind : HistoryKind} {id : EventId}
  {e : TopologyEvent}

/-- The number of an event is its place in the log. -/
def Numbered (h : TopologyHistory) : Prop := h.log.map (·.id) = List.range h.log.length

theorem Numbered.empty : TopologyHistory.empty.Numbered := rfl

theorem Numbered.apply (numbered : h.Numbered) (c : TopologyChange) (time : Instant) :
    (c.apply time h).Numbered := by
  rw [Numbered, c.log_apply]
  cases c with
  | membership names =>
    rw [TopologyChange.event?, Option.toList_none, List.append_nil]
    exact numbered
  | event cache history phase members happened =>
    have log : h.log.map (·.id) = List.range h.log.length := numbered
    simp [TopologyChange.event?, List.range_succ, log, nextId]

theorem Numbered.ascending (numbered : h.Numbered) :
    h.log.Pairwise fun d e => d.id < e.id := by
  have log : h.log.map (·.id) = List.range h.log.length := numbered
  exact List.pairwise_map.1 (log ▸ List.pairwise_lt_range)

/-- The newest event of a history is one of its events. -/
theorem exists_of_latest? (newest : h.latest? cache kind = some id) :
    ∃ e ∈ h.log, e.isOf cache kind = true ∧ e.id = id := by
  obtain ⟨e, he, rfl⟩ := Option.map_eq_some_iff.1 newest
  obtain ⟨mem, isOf⟩ := List.mem_filter.1 (List.mem_of_getLast? he)
  exact ⟨e, mem, isOf, rfl⟩

/-- A history that has an event has a newest one, and its number is the greatest. -/
theorem Numbered.exists_latest? (numbered : h.Numbered) (he : e ∈ h.log)
    (isOf : e.isOf cache kind = true) :
    ∃ newest, h.latest? cache kind = some newest ∧ e.id ≤ newest := by
  have mem : e ∈ h.events cache kind := List.mem_filter.2 ⟨he, isOf⟩
  obtain ⟨last, hlast⟩ : ∃ last, (h.events cache kind).getLast? = some last := by
    refine Option.ne_none_iff_exists'.1 fun none => ?_
    rw [List.getLast?_eq_none_iff.1 none] at mem
    cases mem
  obtain ⟨earlier, split⟩ := List.getLast?_eq_some_iff.1 hlast
  refine ⟨last.id, by simp [latest?, newest?, hlast], ?_⟩
  have ascending := numbered.ascending.filter fun e => e.isOf cache kind
  rw [show h.log.filter _ = earlier ++ [last] from split] at ascending
  rw [split] at mem
  rcases List.mem_append.1 mem with before | same
  · exact Nat.le_of_lt ((List.pairwise_append.1 ascending).2.2 e before last (.head _))
  · exact Nat.le_of_eq (by rw [List.mem_singleton.1 same])

end TopologyHistory

namespace Timeline

variable {t : Timeline}

theorem log_grows_seen (t : Timeline) (now : Instant) : t.history.log <+: (t.seen now).log := by
  rw [seen, log_foldl]
  exact List.prefix_append _ _

theorem numbered_seen (numbered : t.history.Numbered) (now : Instant) :
    (t.seen now).Numbered := by
  rw [seen]
  generalize t.scheduled.filter _ = changes
  generalize t.history = h at numbered
  induction changes generalizing h with
  | nil => exact numbered
  | cons c r ih => exact ih _ (numbered.apply c.2 c.1)

end Timeline

/-! ### What a stage does to the markers -/

/-- What an event stage remembers: of its own history the newest event, if it sets the marker and
there is one, and of the others what was remembered before. -/
theorem EventSettings.remember_apply (s : EventSettings) (h : TopologyHistory) (m : Markers)
    (cache : String) (kind : HistoryKind) :
    s.remember h m cache kind =
      if s.set = true ∧ cacheName s.cache = cache ∧ s.history = kind then
        (h.latest? cache kind).or (m cache kind)
      else m cache kind := by
  by_cases own : s.set = true ∧ cacheName s.cache = cache ∧ s.history = kind
  · obtain ⟨set, rfl, rfl⟩ := own
    cases newest : h.latest? (cacheName s.cache) s.history <;>
      simp [remember, set, newest, Markers.set]
  · rw [if_neg own]
    cases set : s.set with
    | false => simp only [remember, set]
    | true =>
      have other : ¬ (cache = cacheName s.cache ∧ kind = s.history) :=
        fun ⟨hc, hk⟩ => own ⟨set, hc.symm, hk.symm⟩
      cases newest : h.latest? (cacheName s.cache) s.history with
      | none => simp only [remember, set, newest]
      | some id => simp only [remember, set, newest, Markers.set, if_neg other]

/-- What a wait finds is what its last look finds. -/
theorem WaitLimits.look_of_found {α : Type} {w : WaitLimits} {wake : Instant → Span → Instant}
    {look : Instant → Option α} {start now time : Instant} {looks : Nat} {a : α}
    (h : w.pollFrom wake look start looks now = .found a time) : look time = some a := by
  induction looks generalizing now with
  | zero => cases h
  | succ looks ih =>
    rw [pollFrom] at h
    split at h
    · next found =>
      cases h
      exact found
    · split at h
      · cases h
      · exact ih h

namespace Worker

variable {w : Worker} {env : Surroundings} {stage : Stage} {now : Instant}

/-- The worker runs a stage: it is for the worker, the service is running, and it is valid. -/
structure Runs (w : Worker) (env : Surroundings) (stage : Stage) : Prop where
  targeted : stage.targets w.index = true
  running : env.store.memory.running = true
  valid : stage.validate = .ok ()

/-- The wait of an event stage ends at a time, with an event. -/
def Finds (w : Worker) (env : Surroundings) (s : EventSettings) (now : Instant)
    (e : TopologyEvent) (time : Instant) : Prop :=
  env.timeline.waitForEvent env.clock.wake (s.query (w.markers (cacheName s.cache) s.history))
    ⟨s.timeout, s.pollInterval⟩ now = .found e time

/-- The event is one of the history that the stage looks at, and comes after its marker. -/
theorem Finds.matches {s : EventSettings} {e : TopologyEvent} {time : Instant}
    (h : w.Finds env s now e time) :
    e.isOf (cacheName s.cache) s.history = true ∧
      ∀ id, w.markers (cacheName s.cache) s.history = some id → id < e.id := by
  obtain ⟨_, _, -, matched, -⟩ := TopologyHistory.find?_eq_some_iff.1 (WaitLimits.look_of_found h)
  exact ⟨by simp [TopologyEvent.isOf, matched.cache, matched.history, EventSettings.query],
    matched.after⟩

/-- An event stage that passes has found an event if it waits, and remembers what it should; one
that does not pass leaves the markers as they were. -/
theorem waitForEvent_cases {s : EventSettings} {r : TopologyResult}
    (h : w.waitForEvent env s now = some r) :
    r.result = .ok () ∧ r.markers = s.remember (env.timeline.seen r.answered) w.markers ∧
        (s.wait = true → ∃ e, w.Finds env s now e r.answered) ∨
      r.markers = w.markers ∧ ∃ error, r.result = .error error := by
  simp only [waitForEvent] at h
  split at h
  · split at h
    · next e time found =>
      cases h
      exact .inl ⟨rfl, rfl, fun _ => ⟨e, found⟩⟩
    · cases h
      exact .inr ⟨rfl, _, rfl⟩
    · cases h
  · next waits =>
    cases h
    exact .inl ⟨rfl, rfl, fun wait => absurd wait waits⟩

theorem waitForSettle_markers {s : SettleSettings} {r : TopologyResult}
    (h : w.waitForSettle env s now = some r) : r.markers = w.markers := by
  simp only [waitForSettle] at h
  split at h
  · obtain ⟨_, -, rfl⟩ := Option.map_eq_some_iff.1 h
    rfl
  · cases h; rfl
  · cases h

theorem topology_cases {kind : StageKind} {r : TopologyResult}
    (h : w.topology env kind now = some r) :
    (∃ s, kind = .waitForEvent s ∧ r.result = .ok () ∧
        r.markers = s.remember (env.timeline.seen r.answered) w.markers ∧
        (s.wait = true → ∃ e, w.Finds env s now e r.answered)) ∨
      r.markers = w.markers ∧ ∀ s, kind = .waitForEvent s → ∃ error, r.result = .error error := by
  unfold topology at h
  split at h
  · cases h
    exact .inr ⟨rfl, fun _ _ => ⟨_, rfl⟩⟩
  · cases kind with
    | waitForEvent s =>
      obtain ⟨passed, markers, finds⟩ | ⟨same, failed⟩ := waitForEvent_cases h
      · exact .inl ⟨s, rfl, passed, markers, finds⟩
      · exact .inr ⟨same, fun _ _ => failed⟩
    | waitForSettle s => exact .inr ⟨waitForSettle_markers h, nofun⟩
    | checkTopology s | iterate s | stress s => cases h; exact .inr ⟨rfl, nofun⟩

/-- The stage is an event stage that was run, and passed. -/
structure Passes (w : Worker) (env : Surroundings) (stage : Stage) (x : Execution)
    (s : EventSettings) : Prop where
  kind : stage.kind = .waitForEvent s
  runs : w.Runs env stage
  passed : x.ack.error = none

theorem runStage_cases {x : Execution} (h : w.runStage env stage now = some x) :
    (∃ s, stage.kind = .waitForEvent s ∧ x.ack.error = none ∧
        x.worker.markers = s.remember (env.timeline.seen x.answered) w.markers ∧
        (s.wait = true → ∃ e, w.Finds env s now e x.answered)) ∨
      x.worker.markers = w.markers ∧
        ∀ s, stage.kind = .waitForEvent s → x.ack.error ≠ none := by
  unfold runStage at h
  split at h
  · next kind =>
    obtain ⟨_, -, rfl⟩ := Option.map_eq_some_iff.1 h
    exact .inr ⟨rfl, by simp [kind]⟩
  · next kind =>
    obtain ⟨_, -, rfl⟩ := Option.map_eq_some_iff.1 h
    exact .inr ⟨rfl, by simp [kind]⟩
  · obtain ⟨r, hr, rfl⟩ := Option.map_eq_some_iff.1 h
    obtain ⟨s, kind, passed, markers, finds⟩ | ⟨same, failed⟩ := topology_cases hr
    · exact .inl ⟨s, kind, by simp [passed], markers, finds⟩
    · refine .inr ⟨same, fun s kind => ?_⟩
      obtain ⟨error, failed⟩ := failed s kind
      simp [failed]

/-- **What running a stage does to the markers.**  An event stage that is run and passes has found
an event if it waits, and remembers what it should.  Nothing else changes the markers. -/
theorem execute_cases {x : Execution} (h : (w.execute env stage now).execution = some x) :
    (∃ s, w.Passes env stage x s ∧
        x.worker.markers = s.remember (env.timeline.seen x.answered) w.markers ∧
        (s.wait = true → ∃ e, w.Finds env s now e x.answered)) ∨
      x.worker.markers = w.markers ∧ ∀ s, ¬ w.Passes env stage x s := by
  simp only [execute] at h
  split at h
  · next skipped =>
    cases h
    refine .inr ⟨rfl, fun s passes => ?_⟩
    simp [passes.runs.targeted, passes.runs.running] at skipped
  · next runs =>
    split at h
    · next invalid =>
      cases h
      refine .inr ⟨rfl, fun s passes => ?_⟩
      simp [passes.runs.valid] at invalid
    · next valid =>
      obtain ⟨targeted, running⟩ : stage.targets w.index = true ∧
          env.store.memory.running = true := by simpa using runs
      obtain ⟨s, kind, passed, markers, finds⟩ | ⟨same, failed⟩ := runStage_cases h
      · exact .inl ⟨s, ⟨kind, ⟨targeted, running, valid⟩, passed⟩, markers, finds⟩
      · exact .inr ⟨same, fun s passes => failed s passes.kind passes.passed⟩

end Worker

/-- For every marker of the first ones there is one in the second ones, which is not older. -/
def Markers.Precedes (m m' : Markers) : Prop :=
  ∀ cache kind id, m cache kind = some id → ∃ id', m' cache kind = some id' ∧ id ≤ id'

/-! ### What happens to a worker -/

/-- A worker, the topology as it is now with what is still to come, and the clock. -/
structure Scene where
  worker : Worker
  timeline : Timeline
  now : Instant

namespace Scene

/-- A worker that has seen nothing, before anything happened. -/
def start (index : WorkerIndex) (grace : Span) : Scene := ⟨.start index grace, .empty, 0⟩

/-- The log of the topology as it is now. -/
def log (s : Scene) : List TopologyEvent := s.timeline.history.log

/-- One of the things that happen to a worker. -/
inductive Happening where
  /-- It executes a stage, in some surroundings. -/
  | executed (env : Surroundings) (stage : Stage) (x : Execution)
  /-- It is reset. -/
  | reset
  /-- Time passes, or something happens to the topology, or will. -/
  | changed

/-- One thing happens.  What is to come to the topology when a stage begins happens while the stage
runs; the store, which decides whether the service is running, may be another one for each
stage. -/
inductive Step : Scene → Happening → Scene → Prop where
  | execute {s : Scene} {env : Surroundings} {stage : Stage} {x : Execution}
      (topology : env.timeline = s.timeline)
      (h : (s.worker.execute env stage s.now).execution = some x) :
      Step s (.executed env stage x) ⟨x.worker, s.timeline.advance x.answered, x.answered⟩
  | reset (s : Scene) : Step s .reset { s with worker := s.worker.reset }
  | pass {s : Scene} {later : Instant} (h : s.now ≤ later) :
      Step s .changed ⟨s.worker, s.timeline.advance later, later⟩
  | change (s : Scene) (c : TopologyChange) :
      Step s .changed { s with timeline := s.timeline.change c s.now }
  | schedule (s : Scene) (time : Instant) (c : TopologyChange) :
      Step s .changed { s with timeline := (s.timeline.schedule time c).advance s.now }

/-- One thing happens after the other. -/
inductive Run : Scene → List Happening → Scene → Prop where
  | nil (s : Scene) : Run s [] s
  | cons {s s' s'' : Scene} {a : Happening} {r : List Happening}
      (h : Step s a s') (t : Run s' r s'') : Run s (a :: r) s''

/-- Things happen, but no reset. -/
def Later (s s' : Scene) : Prop := ∃ happenings, Run s happenings s' ∧ .reset ∉ happenings

variable {s s' s'' : Scene} {a : Happening} {cache : String} {kind : HistoryKind} {id : EventId}

/-! ### What a step keeps -/

/-- The history is numbered, and every marker is an event of its history. -/
structure Sound (s : Scene) : Prop where
  numbered : s.timeline.history.Numbered
  marked : ∀ cache kind id, s.worker.markers cache kind = some id →
    ∃ e ∈ s.log, e.isOf cache kind = true ∧ e.id = id

theorem Sound.start (index : WorkerIndex) (grace : Span) : (start index grace).Sound :=
  ⟨.empty, nofun⟩

/-- The log is only added to. -/
theorem Step.log_grows (h : Step s a s') : s.log <+: s'.log := by
  cases h with
  | execute | pass => exact s.timeline.log_grows_seen _
  | reset => exact List.prefix_rfl
  | change c =>
    rw [log, log, Timeline.change, c.log_apply]
    exact List.prefix_append _ _
  | schedule time c => exact (s.timeline.schedule time c).log_grows_seen _

theorem Step.numbered (h : Step s a s') (numbered : s.timeline.history.Numbered) :
    s'.timeline.history.Numbered := by
  cases h with
  | execute | pass => exact Timeline.numbered_seen numbered _
  | reset => exact numbered
  | change c => exact numbered.apply c _
  | schedule time c => exact Timeline.numbered_seen (t := s.timeline.schedule time c) numbered _

/-- An event stage that passes has found an event if it waits, and remembers what it should. -/
theorem Step.of_passes {env : Surroundings} {stage : Stage} {x : Execution}
    {settings : EventSettings} (h : Step s (.executed env stage x) s')
    (passes : s.worker.Passes env stage x settings) :
    s'.worker.markers = settings.remember s'.timeline.history s.worker.markers ∧
      (settings.wait = true → ∃ e, s.worker.Finds env settings s.now e x.answered) := by
  cases h with
  | execute topology h =>
    obtain ⟨settings', passes', markers, finds⟩ | ⟨-, fails⟩ := Worker.execute_cases h
    · cases passes'.kind.symm.trans passes.kind
      exact ⟨topology ▸ markers, finds⟩
    · exact absurd passes (fails settings)

/-- Any other step leaves the markers as they were, unless it is a reset. -/
theorem Step.of_not_passes (h : Step s a s') (noReset : a ≠ .reset)
    (fails : ∀ env stage x settings, a = .executed env stage x →
      ¬ s.worker.Passes env stage x settings) : s'.worker.markers = s.worker.markers := by
  cases h with
  | reset => exact absurd rfl noReset
  | pass | change | schedule => rfl
  | execute _ h =>
    obtain ⟨settings, passes, -⟩ | ⟨same, -⟩ := Worker.execute_cases h
    · exact absurd passes (fails _ _ _ settings rfl)
    · exact same

/-- A step forgets all markers, or lets an event stage remember, or leaves the markers as they
were. -/
theorem Step.markers_cases (h : Step s a s') :
    a = .reset ∧ s'.worker.markers = .none ∨
    (∃ env stage x settings, a = .executed env stage x ∧ s.worker.Passes env stage x settings ∧
      s'.worker.markers = settings.remember s'.timeline.history s.worker.markers) ∨
    s'.worker.markers = s.worker.markers := by
  by_cases passes : ∃ env stage x settings, a = .executed env stage x ∧
      s.worker.Passes env stage x settings
  · obtain ⟨env, stage, x, settings, rfl, passes⟩ := passes
    exact .inr (.inl ⟨env, stage, x, settings, rfl, passes, (h.of_passes passes).1⟩)
  · by_cases reset : a = .reset
    · subst reset
      cases h
      exact .inl ⟨rfl, rfl⟩
    · exact .inr (.inr (h.of_not_passes reset fun env stage x settings ha hp =>
        passes ⟨env, stage, x, settings, ha, hp⟩))

theorem Sound.step (sound : s.Sound) (h : Step s a s') : s'.Sound := by
  refine ⟨h.numbered sound.numbered, fun cache kind id marker => ?_⟩
  have kept : ∀ id, s.worker.markers cache kind = some id →
      ∃ e ∈ s'.log, e.isOf cache kind = true ∧ e.id = id := by
    intro id marker
    obtain ⟨e, he, isOf⟩ := sound.marked cache kind id marker
    exact ⟨e, h.log_grows.subset he, isOf⟩
  obtain ⟨-, none⟩ | ⟨env, stage, x, settings, -, -, markers⟩ | same := h.markers_cases
  · simp [none, Markers.none] at marker
  · rw [markers, settings.remember_apply] at marker
    split at marker
    · rcases Option.or_eq_some_iff.1 marker with newest | ⟨-, old⟩
      · exact TopologyHistory.exists_of_latest? newest
      · exact kept id old
    · exact kept id marker
  · exact kept id (same ▸ marker)

theorem Sound.run {happenings : List Happening} (sound : s.Sound) (h : Run s happenings s') :
    s'.Sound := by
  induction h with
  | nil => exact sound
  | cons h _ ih => exact ih (sound.step h)

/-! ### The law of the markers -/

/-- A stage that sets the marker of a history leaves it at the newest event there is. -/
theorem Sound.newest (sound : s.Sound) {env : Surroundings} {stage : Stage} {x : Execution}
    {settings : EventSettings} (h : Step s (.executed env stage x) s')
    (passes : s.worker.Passes env stage x settings) (set : settings.set = true) :
    s'.worker.markers (cacheName settings.cache) settings.history =
      s'.timeline.history.latest? (cacheName settings.cache) settings.history := by
  rw [(h.of_passes passes).1, settings.remember_apply, if_pos ⟨set, rfl, rfl⟩]
  cases newest : s'.timeline.history.latest? (cacheName settings.cache) settings.history with
  | some id => rfl
  | none =>
    -- there is no event, so there cannot have been a marker
    rw [Option.none_or, Option.eq_none_iff_forall_ne_some]
    intro id marker
    obtain ⟨e, he, isOf, -⟩ := sound.marked _ _ id marker
    obtain ⟨_, exists_newest, -⟩ :=
      (sound.step h).numbered.exists_latest? (h.log_grows.subset he) isOf
    cases newest.symm.trans exists_newest

theorem Sound.step_precedes (sound : s.Sound) (h : Step s a s') (noReset : a ≠ .reset) :
    s.worker.markers.Precedes s'.worker.markers := by
  intro cache kind id marker
  obtain ⟨reset, -⟩ | ⟨_, _, _, settings, -, -, markers⟩ | same := h.markers_cases
  · exact absurd reset noReset
  · rw [markers, settings.remember_apply]
    split
    · -- the marker is an event that is still there, and the newest one is not older
      obtain ⟨e, he, isOf, rfl⟩ := sound.marked cache kind id marker
      obtain ⟨newest, exists_newest, notOlder⟩ :=
        (sound.step h).numbered.exists_latest? (h.log_grows.subset he) isOf
      exact ⟨newest, by rw [exists_newest, Option.some_or], notOlder⟩
    · exact ⟨id, marker, Nat.le_refl _⟩
  · exact ⟨id, same ▸ marker, Nat.le_refl _⟩

theorem Sound.later_precedes (sound : s.Sound) (later : s.Later s') :
    s.worker.markers.Precedes s'.worker.markers := by
  obtain ⟨happenings, h, noReset⟩ := later
  induction h with
  | nil => exact fun _ _ id marker => ⟨id, marker, Nat.le_refl _⟩
  | cons h _ ih =>
    have first := sound.step_precedes h fun reset => noReset (reset ▸ .head _)
    have rest := ih (sound.step h) fun reset => noReset (.tail _ reset)
    intro cache kind id marker
    obtain ⟨id', marker', le⟩ := first cache kind id marker
    obtain ⟨id'', marker'', le'⟩ := rest cache kind id' marker'
    exact ⟨id'', marker'', Nat.le_trans le le'⟩

/-- **The law of the markers.**  In every run of a worker, markers never go back before the next
reset.  A marker changes only through an event stage on its cache and history that sets it, is run
and passes; it is the newest event then, and before the next reset no wait on the same cache and
history ends with an event that was there when that stage was done.  A stage that is not run, or
does not pass, leaves all markers as they were. -/
theorem markers_of_run {index : WorkerIndex} {grace : Span} {past : List Happening}
    (run : Run (start index grace) past s) :
    (∀ s', s.Later s' → s.worker.markers.Precedes s'.worker.markers) ∧
    (∀ a s', Step s a s' → a ≠ .reset → ∀ cache kind,
      s'.worker.markers cache kind ≠ s.worker.markers cache kind →
        ∃ env stage x settings, a = .executed env stage x ∧
          s.worker.Passes env stage x settings ∧ settings.set = true ∧
          cacheName settings.cache = cache ∧ settings.history = kind) ∧
    ∀ env stage x s', Step s (.executed env stage x) s' →
      (¬ s.worker.Runs env stage ∨ x.ack.error ≠ none →
        s'.worker.markers = s.worker.markers) ∧
      ∀ settings, s.worker.Passes env stage x settings → settings.set = true →
        s'.worker.markers (cacheName settings.cache) settings.history =
          s'.timeline.history.latest? (cacheName settings.cache) settings.history ∧
        ∀ s₂, s'.Later s₂ → ∀ env₂ stage₂ x₂ s₃, Step s₂ (.executed env₂ stage₂ x₂) s₃ →
          ∀ settings₂, s₂.worker.Passes env₂ stage₂ x₂ settings₂ → settings₂.wait = true →
            cacheName settings₂.cache = cacheName settings.cache →
            settings₂.history = settings.history →
              ∃ e, s₂.worker.Finds env₂ settings₂ s₂.now e x₂.answered ∧ e ∉ s'.log := by
  have sound : s.Sound := (Sound.start index grace).run run
  refine ⟨fun s' => sound.later_precedes, fun a s' h noReset cache kind changed => ?_,
    fun env stage x s' h => ⟨fun fails => ?_, fun settings passes set => ?_⟩⟩
  · obtain ⟨reset, -⟩ | ⟨env, stage, x, settings, happened, passes, markers⟩ | same :=
      h.markers_cases
    · exact absurd reset noReset
    · rw [markers, settings.remember_apply] at changed
      by_cases own : settings.set = true ∧ cacheName settings.cache = cache ∧
          settings.history = kind
      · exact ⟨env, stage, x, settings, happened, passes, own⟩
      · exact absurd (if_neg own) changed
    · exact absurd (congrFun (congrFun same cache) kind) changed
  · refine h.of_not_passes nofun fun _ _ _ _ same passes => ?_
    cases same
    rcases fails with notRun | failed
    · exact notRun passes.runs
    · exact failed passes.passed
  · have newest := sound.newest h passes set
    refine ⟨newest, ?_⟩
    intro s₂ later env₂ stage₂ x₂ s₃ h₂ settings₂ passes₂ wait cache history
    obtain ⟨e, finds⟩ := (h₂.of_passes passes₂).2 wait
    refine ⟨e, finds, fun old => ?_⟩
    obtain ⟨isOf, after⟩ := finds.matches
    rw [cache, history] at isOf after
    -- the marker was at this event or behind it, and never went back
    obtain ⟨id, exists_newest, le⟩ := (sound.step h).numbered.exists_latest? old isOf
    obtain ⟨id', marker, le'⟩ :=
      (sound.step h).later_precedes later _ _ id (newest.trans exists_newest)
    exact Nat.lt_irrefl _ (Nat.lt_of_le_of_lt (Nat.le_trans le le') (after id' marker))

/-- The surroundings of a stage whose service is running. -/
def site (s : Scene) : Surroundings :=
  ⟨.exact, .plain "memory" .empty, s.timeline, .ofNanos 0, 0, 0⟩

/-- A stage that waits for the end of a rehash, and sets the marker. -/
def watching : Stage := { name := "watching", kind := .waitForEvent {} }

/-- A rehash happens. -/
def rehashed (s : Scene) : Scene :=
  { s with timeline := s.timeline.change (.event "default" .rehash .single 1 none) s.now }

/-- A wait leaves its marker at the first rehash, and the next one ends with the second. -/
theorem markers_of_run_twice :
    let s := (start 0 .zero).rehashed
    ∃ x s' x₂ s₃, Run (start 0 .zero) [.changed] s ∧ Step s (.executed s.site watching x) s' ∧
      s'.worker.markers "default" .rehash = some 0 ∧ s'.Later s'.rehashed ∧
      Step s'.rehashed (.executed s'.rehashed.site watching x₂) s₃ ∧
      ∃ e, s'.rehashed.worker.Finds s'.rehashed.site {} s'.rehashed.now e x₂.answered ∧
        e ∉ s'.log := by
  intro s
  have run : Run (start 0 .zero) [.changed] s := .cons (.change _ _) (.nil _)
  have runs (s : Scene) : s.worker.Runs s.site watching := ⟨rfl, rfl, rfl⟩
  -- the first wait ends at once
  let x : Execution := ⟨0, .success 0 .zero .none,
    ⟨0, .zero, Markers.none.set "default" .rehash 0⟩, .plain "memory" .empty⟩
  have first : Step s (.executed s.site watching x) ⟨x.worker, s.timeline.advance 0, 0⟩ :=
    .execute rfl rfl
  generalize hs' : (⟨x.worker, s.timeline.advance 0, 0⟩ : Scene) = s' at first
  have later : s'.Later s'.rehashed := ⟨[.changed], .cons (.change _ _) (.nil _), by simp⟩
  obtain ⟨x₂, h₂, passed⟩ : ∃ x₂, (s'.rehashed.worker.execute s'.rehashed.site watching
      s'.rehashed.now).execution = some x₂ ∧ x₂.ack.error = none := by
    subst hs'
    exact ⟨_, rfl, rfl⟩
  have second := Step.execute rfl h₂
  obtain ⟨-, -, law⟩ := markers_of_run run
  obtain ⟨newest, fresh⟩ := (law _ _ _ _ first).2 {} ⟨rfl, runs s, rfl⟩ rfl
  refine ⟨x, s', x₂, _, run, first, ?_, later, second, ?_⟩
  · rw [show cacheName _ = "default" from rfl] at newest
    rw [newest, ← hs']
    rfl
  · exact fresh _ later _ _ _ _ second {} ⟨rfl, runs _, passed⟩ rfl rfl rfl

end Scene

end LoadFleet
