import LoadFleet.Proofs.Gatherings
/-!
# The rate of all operations

The requests per second of all operations are those of one operation that has the samples of all of
them.  Weighted by the numbers of requests, the means of the operations come to the mean of all
samples, however the samples are spread over operations and were merged.

Nothing is divided by zero on the way.  To see that, the statistics are read over any numbers among
which the rational ones are found, and which agree with these in everything but in quotients by
zero: the rate is the same rational number for all of them.  `Checked` has no quotients by zero.

* `Embeds`: how rational numbers are found among others.
* `Moments.embed_record`, `Moments.embed_merge`: moments of other numbers are those of rational ones
  as long as a word counts the samples.
* `Statistics.Gathered.weightedTotal_eq`: the weighted means come to the sum of all latencies.
* `Statistics.totalThroughput?_eq_pooled`: the main statement.
* `totalThroughput?_overflows`: what happens to more samples than a word counts.
-/

namespace LoadFleet

/-! ### Numbers among which the rational ones are found -/

/-- Rational numbers are found among other numbers, and what is computed of them is what is computed
of rational numbers.  Nothing is said about quotients by zero. -/
structure Embeds {R : Type} [Scalar R] (φ : ℚ → R) : Prop where
  ofNat : ∀ n : Nat, Scalar.ofNat n = φ n
  zero : Scalar.ofFloat (-0.0) = φ 0
  add : ∀ x y, φ x + φ y = φ (x + y)
  sub : ∀ x y, φ x - φ y = φ (x - y)
  mul : ∀ x y, φ x * φ y = φ (x * y)
  div : ∀ x y, y ≠ 0 → φ x / φ y = φ (x / y)
  atMost : ∀ x y, Scalar.atMost (φ x) (φ y) = decide (x ≤ y)

theorem embeds_id : Embeds (id : ℚ → ℚ) where
  ofNat _ := rfl
  zero := exactValue_negative_zero
  add _ _ := rfl
  sub _ _ := rfl
  mul _ _ := rfl
  div _ _ _ := rfl
  atMost _ _ := rfl

/-- A rational number, or nothing where something was divided by zero. -/
structure Checked where
  value : Option ℚ

namespace Checked

instance : Scalar Checked where
  add x y := ⟨do return (← x.value) + (← y.value)⟩
  sub x y := ⟨do return (← x.value) - (← y.value)⟩
  mul x y := ⟨do return (← x.value) * (← y.value)⟩
  div x y := ⟨do
    let divisor ← y.value
    if divisor = 0 then none else return (← x.value) / divisor⟩
  ofNat n := ⟨some n⟩
  ofFloat x := ⟨some (exactValue x)⟩
  atMost x y := (do return decide ((← x.value) ≤ (← y.value))).getD false
  ceil x := (x.value.map Nat.ceil).getD 0

theorem embeds : Embeds fun x : ℚ => (⟨some x⟩ : Checked) where
  ofNat _ := rfl
  zero := by
    rw [← exactValue_negative_zero]
    rfl
  add _ _ := rfl
  sub _ _ := rfl
  mul _ _ := rfl
  div x y nonzero := by
    have quotient : (⟨some x⟩ : Checked) / ⟨some y⟩ =
        ⟨if y = 0 then none else some (x / y)⟩ := rfl
    rw [quotient, if_neg nonzero]
  atMost _ _ := rfl

/-- There are no quotients by zero. -/
theorem div_zero (x : Checked) : x / (⟨some 0⟩ : Checked) = ⟨none⟩ := rfl

end Checked

/-! ### Accumulators of other numbers -/

variable {R : Type} [Scalar R] {φ : ℚ → R}

namespace Moments

/-- Moments that are found among other numbers. -/
def embed (φ : ℚ → R) (m : Moments ℚ) : Moments R :=
  ⟨m.requests, m.errors, m.largest, m.sum, φ m.mean, φ m.deviation⟩

theorem embed_empty (h : Embeds φ) : (empty : Moments R) = empty.embed φ := by
  simp only [empty, Moments.embed, h.ofNat, scalar_ofNat]

/-- A sample more, unless its number is zero. -/
theorem embed_record (h : Embeds φ) (m : Moments ℚ) (room : (m.requests + 1).toNat ≠ 0)
    (nanos : UInt64) (success : Bool) :
    (m.embed φ).record nanos success = (m.record nanos success).embed φ := by
  have number : ((m.requests + 1).toNat : ℚ) ≠ 0 := by exact_mod_cast room
  simp only [record, Moments.embed, scalar_ofNat, h.ofNat, h.sub, h.div _ _ number, h.add, h.mul]

/-- The divisors of a merge are above zero. -/
theorem embed_merge (h : Embeds φ) (m n : Moments ℚ) :
    (m.embed φ).merge (n.embed φ) = (m.merge n).embed φ := by
  by_cases some : 0 < m.requests + n.requests
  · have number : ((m.requests + n.requests).toNat : ℚ) ≠ 0 := by
      rw [UInt64.lt_iff_toNat_lt] at some
      exact_mod_cast Nat.ne_of_gt some
    simp only [merge, Moments.embed, if_pos some, scalar_ofNat, h.ofNat, h.sub, h.mul, h.add,
      h.div _ _ number]
  · simp only [merge, Moments.embed, some, if_false]

end Moments

namespace Samples

theorem total_embed (h : Embeds φ) (l : List ℚ) : total (l.map φ) = φ l.sum := by
  -- from any start
  have goOn (l : List ℚ) (start : ℚ) :
      (l.map φ).foldl (· + ·) (φ start) = φ (start + l.sum) := by
    induction l generalizing start with
    | nil => simp
    | cons x r ih => rw [List.map_cons, List.foldl_cons, h.add, ih, List.sum_cons, add_assoc]
  rw [total, h.zero, goOn, zero_add]

theorem mean_embed (h : Embeds φ) (s : Samples) : (s.mean : R) = φ s.mean := by
  by_cases none : s.count = 0
  · rw [mean, mean, if_pos none, if_pos none, h.ofNat, scalar_ofNat]
  · have number : (s.count : ℚ) ≠ 0 := by exact_mod_cast none
    have same : (s.toList.map fun n => (Scalar.ofNat n.toNat : R)) =
        (s.toList.map fun n => (n.toNat : ℚ)).map φ := by
      rw [List.map_map]
      exact List.map_congr_left fun n _ => h.ofNat _
    rw [mean, mean, if_neg none, if_neg none, same, total_embed h, h.ofNat, h.div _ _ number,
      total_eq_sum]
    rfl

end Samples

/-! ### What accumulators tell -/

/-- An accumulator, of other numbers, counts its samples and has their mean. -/
def Averages (φ : ℚ → R) : Accumulator R → List Sample → Prop
  | .basic m, l => ∃ n, m = n.embed φ ∧ Describes n l
  | .recording s, l => Keeps s l
  | .sketch _ _, _ => False

theorem kept_averages (h : Embeds φ) {kind : StatsKind} (plain : kind ≠ .sketch) :
    Kept (· < 2 ^ 64) kind (Averages φ) where
  fewer le lt := Nat.lt_of_le_of_lt le lt
  empty := by
    cases kind with
    | basic => exact ⟨.empty, Moments.embed_empty h, .empty⟩
    | recording => exact .empty
    | sketch => exact plain rfl
  record := by
    intro a l latency success averages few
    cases a with
    | basic m =>
      obtain ⟨n, rfl, describes⟩ := averages
      have count := describes.requests_record few latency success
      refine ⟨_, Moments.embed_record h n ?_ _ _, describes.record few latency success⟩
      rw [show (n.requests + 1).toNat = l.length + 1 from count]
      exact Nat.succ_ne_zero _
    | recording s => exact Keeps.record averages few latency success
    | sketch => exact averages
  merge := by
    intro a b c l k ofA ofB few merges
    have together := (Accumulator.merge?_eq_ok_iff.1 merges).1
    cases a with
    | basic m =>
      cases b with
      | basic m' =>
        obtain ⟨n, rfl, describes⟩ := ofA
        obtain ⟨n', rfl, describes'⟩ := ofB
        cases together
        exact ⟨_, Moments.embed_merge h n n', describes.merge describes' few⟩
      | recording => cases together
      | sketch => exact ofB.elim
    | recording s =>
      cases b with
      | basic => cases together
      | recording t =>
        cases together
        exact Keeps.merge ofA ofB few
      | sketch => exact ofB.elim
    | sketch => exact ofA.elim

namespace Averages

variable {a : Accumulator R} {l : List Sample}

omit [Scalar R] in
theorem requests (averages : Averages φ a l) : a.requests = l.length.toUInt64 := by
  cases a with
  | basic m =>
    obtain ⟨n, rfl, describes⟩ := averages
    rw [← describes.requests]
    exact UInt64.ofNat_toNat.symm
  | recording s => exact congrArg Nat.toUInt64 (Keeps.count averages)
  | sketch => exact averages.elim

/-- The mean is the sum of the latencies divided by their number. -/
theorem mean (h : Embeds φ) (averages : Averages φ a l) :
    a.mean = φ (latencySum l / l.length) := by
  cases a with
  | basic m =>
    obtain ⟨n, rfl, describes⟩ := averages
    exact congrArg φ describes.mean_eq
  | recording s => exact (Samples.mean_embed h s).trans (congrArg φ (Keeps.mean averages))
  | sketch => exact averages.elim

/-- Weighted by the number of requests, the mean is the sum of the latencies. -/
theorem weighted (h : Embeds φ) (averages : Averages φ a l) (few : l.length < 2 ^ 64) :
    a.mean * Scalar.ofNat a.requests.toNat = φ (latencySum l) := by
  have number : a.requests.toNat = l.length := by
    rw [averages.requests]
    simpa using few
  rw [averages.mean h, number, h.ofNat, h.mul]
  by_cases none : l = []
  · subst none
    simp [latencySum]
  · have some : (l.length : ℚ) ≠ 0 := by simpa using none
    rw [div_mul_cancel₀ _ some]

end Averages

/-! ### Rates of samples -/

/-- The length of the interval, if both ends of it are set. -/
def Gathering.span? (g : Gathering) : Option Span := do return (← g.begun).spanTo (← g.ended)

/-- A rate that is found among other numbers. -/
def Throughput.embed (φ : ℚ → R) (t : Throughput ℚ) : Throughput R :=
  ⟨φ t.theoretical, φ t.actual⟩

/-- The rates of a number of requests with a mean latency, made in a span. -/
def Throughput.rational (requests : UInt64) (mean : ℚ) (units : UInt64) (span : Span) :
    Throughput ℚ :=
  ⟨nanosPerSecond * units.toNat / mean, nanosPerSecond * requests.toNat / span.nanos⟩

/-- Where there is a rate, it is a quotient by positive numbers. -/
theorem Throughput.compute?_eq (h : Embeds φ) (requests : UInt64) (mean : ℚ) (units : UInt64)
    (span : Span) :
    compute? requests (φ mean) units span =
      if span.nanos = 0 ∨ mean ≤ 0 then none
      else some ((rational requests mean units span).embed φ) := by
  have whole : (span.nanos : ℚ) ≤ 0 ↔ span.nanos = 0 := by exact_mod_cast Nat.le_zero
  simp only [compute?, h.ofNat, h.atMost, Nat.cast_zero, whole, Bool.or_eq_true, decide_eq_true_eq]
  by_cases idle : span.nanos = 0 ∨ mean ≤ 0
  · rw [if_pos idle, if_pos idle]
  · obtain ⟨passes, positive⟩ := not_or.1 idle
    have nanos : (span.nanos : ℚ) ≠ 0 := by exact_mod_cast passes
    have nonzero : mean ≠ 0 := fun zero => positive zero.le
    rw [if_neg idle, if_neg idle, h.mul, h.mul, h.div _ _ nonzero, h.div _ _ nanos]
    rfl

/-- The requests per second of one operation that has these samples. -/
def pooledRate? (samples : List Sample) (units : UInt64) (span? : Option Span) :
    Option (Throughput ℚ) :=
  span?.bind fun span =>
    if span.nanos = 0 ∨ latencySum samples ≤ 0 then none
    else
      some (.rational samples.length.toUInt64 (latencySum samples / samples.length) units span)

variable {samples : List Sample} {units : UInt64}

theorem pooledRate?_nil (span? : Option Span) : pooledRate? [] units span? = none := by
  cases span? with
  | none => rfl
  | some span => exact if_pos (.inr le_rfl)

/-- The order of the samples does not matter. -/
theorem pooledRate?_perm {other : List Sample} (p : samples.Perm other) (span? : Option Span) :
    pooledRate? samples units span? = pooledRate? other units span? := by
  have sum : latencySum samples = latencySum other := (p.map _).sum_eq
  simp only [pooledRate?, sum, p.length_eq]

theorem compute?_of_samples (h : Embeds φ) (some : samples ≠ []) (units : UInt64)
    (span? : Option Span) :
    (span?.bind fun span => Throughput.compute? samples.length.toUInt64
      (φ (latencySum samples / samples.length)) units span) =
      (pooledRate? samples units span?).map (.embed φ) := by
  have count : (0 : ℚ) < samples.length := by exact_mod_cast List.length_pos_of_ne_nil some
  cases span? with
  | none => rfl
  | some span =>
    have sign : latencySum samples / samples.length ≤ 0 ↔ latencySum samples ≤ 0 := by
      rw [div_le_iff₀ count, zero_mul]
    simp only [pooledRate?, Option.bind_some, Throughput.compute?_eq h, sign]
    split <;> rfl

theorem value_eq_zero_iff {x : Sample} : x.value = 0 ↔ x.1.nanos = 0 := by
  rw [Sample.value, Nat.cast_eq_zero, Span.toNat_toWord, wordMax]
  omega

theorem latencySum_nonneg (samples : List Sample) : 0 ≤ latencySum samples := by
  refine List.sum_nonneg fun v hv => ?_
  obtain ⟨x, -, rfl⟩ := List.mem_map.1 hv
  exact Nat.cast_nonneg _

/-- The latencies come to nothing exactly if each of them is nothing. -/
theorem latencySum_nonpos_iff : latencySum samples ≤ 0 ↔ ∀ x ∈ samples, x.1.nanos = 0 := by
  induction samples with
  | nil => simp [latencySum]
  | cons x r ih =>
    have first : 0 ≤ x.value := Nat.cast_nonneg _
    have rest := latencySum_nonneg r
    have split : latencySum (x :: r) = x.value + latencySum r := rfl
    rw [List.forall_mem_cons, ← ih, ← value_eq_zero_iff, split]
    constructor
    · intro sum
      constructor <;> linarith
    · rintro ⟨zero, sum⟩
      linarith

namespace Statistics.Gathered

variable {kind : StatsKind} {g : Gathering} {s : Statistics R}

/-- **The weighted means** come to the sum of all latencies. -/
theorem weightedTotal_eq (h : Embeds φ) (plain : kind ≠ .sketch)
    (few : g.samples.length < 2 ^ 64) (hs : Gathered kind g s) :
    s.weightedTotal = φ (latencySum (g.samples.map (·.2))) := by
  have fewer (name : String) : (samplesOf name g.samples).length < 2 ^ 64 := g.fits_of_few few name
  have each : ∀ e ∈ s.operations.entries, Averages φ e.2 (samplesOf e.1 g.samples) := fun e he =>
    ((kept_averages h plain).operations g e.1 (fewer e.1) hs.gathered).kept e.2
      (OrderedMap.find?_eq_some_iff.2 he)
  -- by induction on the operations that are still to be added
  have folded (l : List (String × Accumulator R))
      (averages : ∀ e ∈ l, Averages φ e.2 (samplesOf e.1 g.samples)) (weighted : ℚ) :
      (l.map (·.2)).foldl weigh (φ weighted) =
        φ (weighted + latencySum (l.flatMap fun e => samplesOf e.1 g.samples)) := by
    induction l generalizing weighted with
    | nil => simp [latencySum]
    | cons e r ih =>
      obtain ⟨first, rest⟩ := List.forall_mem_cons.1 averages
      rw [List.map_cons, List.foldl_cons, weigh, first.weighted h (fewer e.1), h.add, ih rest,
        List.flatMap_cons, latencySum_append, add_assoc]
  have all : (s.operations.entries.flatMap fun e => samplesOf e.1 g.samples).Perm
      (g.samples.map (·.2)) := by
    have pooled := hs.perm_samples
    rwa [OrderedMap.keys, List.flatMap_map] at pooled
  have sum : latencySum (s.operations.entries.flatMap fun e => samplesOf e.1 g.samples) =
      latencySum (g.samples.map (·.2)) := (all.map _).sum_eq
  rw [weightedTotal, OrderedMap.values, h.ofNat, folded _ each, sum]
  simp

theorem span?_eq (hs : Gathered kind g s) : s.span? = g.span? := by
  rw [span?, Gathering.span?, hs.begun, hs.ended]

/-- The rate of all operations is that of their samples. -/
theorem totalThroughput?_eq (h : Embeds φ) (plain : kind ≠ .sketch)
    (few : g.samples.length < 2 ^ 64) (hs : Gathered kind g s) (units : UInt64) :
    s.totalThroughput? units =
      .ok ((pooledRate? (g.samples.map (·.2)) units g.span?).map (.embed φ)) := by
  have fits : g.samples.length ≤ wordMax := Nat.le_of_lt_succ few
  have number : g.samples.length.toUInt64.toNat = g.samples.length := by simpa using few
  rw [totalThroughput?, totals?_eq, hs.requestTotal_eq, if_pos fits,
    hs.weightedTotal_eq h plain few]
  refine congrArg Except.ok ?_
  show s.rateOf? units g.samples.length.toUInt64 _ = _
  rw [rateOf?]
  by_cases none : g.samples = []
  · rw [none, List.map_nil, pooledRate?_nil]
    rfl
  · have some : (g.samples.length : ℚ) ≠ 0 := by simpa using none
    have nonzero : g.samples.length.toUInt64 ≠ 0 := by
      rw [ne_eq, ← UInt64.toNat_inj, number]
      simpa using none
    have listed : g.samples.map (·.2) ≠ [] := by simpa using none
    have pooled := compute?_of_samples h listed units g.span?
    rw [List.length_map] at pooled
    rw [if_neg nonzero, number, h.ofNat, h.div _ _ some, hs.span?_eq]
    exact pooled

/-- More samples than a word counts are an overflow. -/
theorem totalThroughput?_of_many (hs : Gathered kind g s) (many : 2 ^ 64 ≤ g.samples.length)
    (units : UInt64) : s.totalThroughput? units = .error .overflow := by
  have large : ¬ g.samples.length ≤ wordMax := Nat.not_le.2 (Nat.lt_of_succ_le many)
  rw [totalThroughput?, totals?_eq, hs.requestTotal_eq, if_neg large]
  rfl

/-- The rate of an operation that has all samples is that of these. -/
theorem throughput?_eq (h : Embeds φ) (plain : kind ≠ .sketch)
    (few : g.samples.length < 2 ^ 64) (hs : Gathered kind g s) (units : UInt64) {name : String}
    (alone : ∀ e ∈ g.samples, e.1 = name) :
    s.throughput? name units =
      (pooledRate? (g.samples.map (·.2)) units g.span?).map (.embed φ) := by
  have holds := (kept_averages h plain).operations g name (g.fits_of_few few name) hs.gathered
  have own : samplesOf name g.samples = g.samples.map (·.2) := by
    rw [samplesOf, List.filter_eq_self.2 fun e he => by simp [alone e he]]
  rw [own] at holds
  rw [throughput?, hs.span?_eq]
  cases found : s.operation? name with
  | none =>
    rw [holds.missing.1 found, pooledRate?_nil]
    rfl
  | some a =>
    rw [found] at holds
    obtain ⟨averages, some⟩ := holds.of_some
    have pooled := compute?_of_samples h some units g.span?
    rw [← averages.requests, ← averages.mean h] at pooled
    exact pooled

end Statistics.Gathered

/-! ### All samples under one name -/

namespace Gathering

/-- The same requests, all of them under one name. -/
def pooled (name : String) : Gathering → Gathering
  | empty => empty
  | record g _ latency success => record (g.pooled name) name latency success
  | begin g time => begin (g.pooled name) time
  | finish g time => finish (g.pooled name) time
  | merge g h => merge (g.pooled name) (h.pooled name)

/-- The second way comes to the samples of the first one, in any order, in the same interval and all
under one name. -/
structure Pools (g : Gathering) (name : String) (h : Gathering) : Prop where
  samples : (h.samples.map (·.2)).Perm (g.samples.map (·.2))
  alone : ∀ e ∈ h.samples, e.1 = name
  begun : h.begun = g.begun
  ended : h.ended = g.ended

theorem pools_pooled (g : Gathering) (name : String) : g.Pools name (g.pooled name) := by
  induction g with
  | empty => exact ⟨.nil, nofun, rfl, rfl⟩
  | record g _ latency success ih =>
    refine ⟨?_, ?_, ih.begun, ih.ended⟩
    · simpa [pooled, Gathering.samples] using ih.samples.append_right [(latency, success)]
    · simpa [pooled, Gathering.samples, or_imp, forall_and] using ih.alone
  | begin g time ih => exact ⟨ih.samples, ih.alone, rfl, ih.ended⟩
  | finish g time ih => exact ⟨ih.samples, ih.alone, ih.begun, rfl⟩
  | merge g h ihg ihh =>
    refine ⟨?_, ?_, ?_, ?_⟩
    · simpa [pooled, Gathering.samples] using ihg.samples.append ihh.samples
    · exact List.forall_mem_append.2 ⟨ihg.alone, ihh.alone⟩
    · simp only [pooled, Gathering.begun, ihg.begun, ihh.begun]
    · simp only [pooled, Gathering.ended, ihg.ended, ihh.ended]

theorem Pools.span?_eq {g h : Gathering} {name : String} (pools : g.Pools name h) :
    h.span? = g.span? := by
  rw [span?, span?, pools.begun, pools.ended]

/-- One operation that has all samples has their rate, over any numbers. -/
theorem Pools.throughput?_eq {g h : Gathering} {name : String} (pools : g.Pools name h)
    (embeds : Embeds φ) {kind : StatsKind} (plain : kind ≠ .sketch)
    (few : g.samples.length < 2 ^ 64) (units : UInt64) :
    ∃ p : Statistics R, h.statistics? kind = .ok p ∧
      p.throughput? name units =
        (pooledRate? (g.samples.map (·.2)) units g.span?).map (.embed φ) := by
  have same : h.samples.length = g.samples.length := by simpa using pools.samples.length_eq
  have fewer : h.samples.length < 2 ^ 64 := same ▸ few
  obtain ⟨p, hp⟩ := Statistics.exists_gathered (R := R) kind h (h.fits_of_few fewer)
  refine ⟨p, hp.gathered, ?_⟩
  rw [hp.throughput?_eq embeds plain fewer units pools.alone, pools.span?_eq,
    pooledRate?_perm pools.samples]

/-- An end of the interval is not set, or it ends no later than it begins. -/
def Idle (g : Gathering) : Prop :=
  g.begun = none ∨ g.ended = none ∨
    ∃ begun ended, g.begun = some begun ∧ g.ended = some ended ∧ ended.nanos ≤ begun.nanos

end Gathering

theorem WallTime.nanos_spanTo (a b : WallTime) : (a.spanTo b).nanos = b.nanos - a.nanos := by
  have fits : b.nanos - a.nanos < 0x10000000000000000 * nanosPerSecond := by
    have := b.bounded
    unfold nanosPerSecond at *
    omega
  rw [spanTo, Span.ofNanos, Span.ofNanos?, dif_pos fits, Option.getD_some]

theorem pooledRate?_some_eq_none_iff {samples : List Sample} {units : UInt64} {span : Span} :
    pooledRate? samples units (some span) = none ↔
      span.nanos = 0 ∨ ∀ x ∈ samples, x.1.nanos = 0 := by
  rw [← latencySum_nonpos_iff, pooledRate?, Option.bind_some]
  split
  · next idle => exact iff_of_true rfl idle
  · next goesOn => exact iff_of_false nofun goesOn

/-- When there is no rate. -/
theorem pooledRate?_eq_none_iff {g : Gathering} {units : UInt64} :
    pooledRate? (g.samples.map (·.2)) units g.span? = none ↔
      g.samples = [] ∨ g.Idle ∨ ∀ e ∈ g.samples, e.2.1.nanos = 0 := by
  have nothing : g.samples = [] → ∀ e ∈ g.samples, e.2.1.nanos = 0 := by
    intro none
    simp [none]
  rw [Gathering.span?, Gathering.Idle]
  cases g.begun with
  | none => simp [pooledRate?]
  | some begun =>
    cases g.ended with
    | none => simp [pooledRate?]
    | some ended =>
      refine pooledRate?_some_eq_none_iff.trans ?_
      rw [WallTime.nanos_spanTo, Nat.sub_eq_zero_iff_le, List.forall_mem_map]
      simp only [reduceCtorEq, Option.some.injEq, ↓existsAndEq, true_and, false_or]
      tauto

/-- What a rate is. -/
theorem pooledRate?_eq_some {g : Gathering} {units : UInt64} {t : Throughput ℚ}
    (few : g.samples.length < 2 ^ 64)
    (h : pooledRate? (g.samples.map (·.2)) units g.span? = some t) :
    ∃ begun ended, g.begun = some begun ∧ g.ended = some ended ∧ begun.nanos < ended.nanos ∧
      0 < latencySum (g.samples.map (·.2)) ∧
      t.theoretical = nanosPerSecond * units.toNat /
        (latencySum (g.samples.map (·.2)) / g.samples.length) ∧
      t.actual = nanosPerSecond * g.samples.length / (ended.nanos - begun.nanos) := by
  rw [Gathering.span?] at h
  cases first : g.begun with
  | none => simp [first, pooledRate?] at h
  | some begun =>
    cases last : g.ended with
    | none => simp [first, last, pooledRate?] at h
    | some ended =>
      have number : g.samples.length.toUInt64.toNat = g.samples.length := by simpa using few
      simp only [first, last, Option.bind_eq_bind, Option.bind_some, Option.pure_def, pooledRate?]
        at h
      split at h
      · cases h
      · next goesOn =>
        cases h
        obtain ⟨passes, positive⟩ := not_or.1 goesOn
        rw [WallTime.nanos_spanTo] at passes
        have later : begun.nanos < ended.nanos := by omega
        refine ⟨begun, ended, rfl, rfl, later, not_le.1 positive, ?_, ?_⟩
        · rw [Throughput.rational, List.length_map]
        · rw [Throughput.rational, List.length_map, number, WallTime.nanos_spanTo,
            Nat.cast_sub later.le]

namespace Statistics

/-- **The rate of all operations is that of their samples under one name.**  Let statistics that
keep moments or samples be gathered in any way, of no more samples than a word counts.  Over exact
numbers, their requests per second are those of one operation that has the same samples in the same
interval, however these were gathered: what the number of all requests and the mean of all
latencies come to.  There is no rate exactly if nothing was recorded, no time passed in a known
interval, or all latencies are zero.  And nothing is divided by zero: the rate is the same whatever
quotients by zero are.  Of more samples than a word counts there is no rate, but an overflow. -/
theorem totalThroughput?_eq_pooled {kind : StatsKind} (plain : kind ≠ .sketch) (g : Gathering)
    (units : UInt64) :
    (g.samples.length < 2 ^ 64 → ∃ (s : Statistics ℚ) (rate : Option (Throughput ℚ)),
      g.statistics? kind = .ok s ∧ s.totalThroughput? units = .ok rate ∧
      (∀ name h, g.Pools name h → ∃ p : Statistics ℚ, h.statistics? kind = .ok p ∧
        p.throughput? name units = rate) ∧
      (rate = none ↔ g.samples = [] ∨ g.Idle ∨ ∀ e ∈ g.samples, e.2.1.nanos = 0) ∧
      (∀ t, rate = some t → ∃ begun ended,
        g.begun = some begun ∧ g.ended = some ended ∧ begun.nanos < ended.nanos ∧
        0 < latencySum (g.samples.map (·.2)) ∧
        t.theoretical = nanosPerSecond * units.toNat /
          (latencySum (g.samples.map (·.2)) / g.samples.length) ∧
        t.actual = nanosPerSecond * g.samples.length / (ended.nanos - begun.nanos)) ∧
      ∀ {R : Type} [Scalar R] {φ : ℚ → R}, Embeds φ →
        (∃ c : Statistics R, g.statistics? kind = .ok c ∧
          c.totalThroughput? units = .ok (rate.map (.embed φ))) ∧
        ∀ name h, g.Pools name h → ∃ c : Statistics R, h.statistics? kind = .ok c ∧
          c.throughput? name units = rate.map (.embed φ)) ∧
    (2 ^ 64 ≤ g.samples.length → ∀ s : Statistics ℚ, g.statistics? kind = .ok s →
      s.totalThroughput? units = .error .overflow) := by
  refine ⟨fun few => ?_, fun many s hs => (Gathered.of_ok hs).totalThroughput?_of_many many units⟩
  obtain ⟨s, hs⟩ := exists_gathered (R := ℚ) kind g (g.fits_of_few few)
  refine ⟨s, pooledRate? (g.samples.map (·.2)) units g.span?, hs.gathered, ?_,
    fun name h pools => ?_, pooledRate?_eq_none_iff, fun t ht => pooledRate?_eq_some few ht,
    fun {R} _ {φ} embeds => ⟨?_, fun name h pools => ?_⟩⟩
  · rw [hs.totalThroughput?_eq embeds_id plain few units]
    exact congrArg Except.ok Option.map_id'
  · obtain ⟨p, hp, same⟩ := pools.throughput?_eq embeds_id plain few units
    exact ⟨p, hp, same.trans Option.map_id'⟩
  · obtain ⟨c, hc⟩ := exists_gathered (R := R) kind g (g.fits_of_few few)
    exact ⟨c, hc.gathered, hc.totalThroughput?_eq embeds plain few units⟩
  · obtain ⟨p, hp, same⟩ := pools.throughput?_eq embeds plain few units
    exact ⟨p, hp, same⟩

/-- Three requests of two operations on two sides, a second on the average, within a second. -/
theorem totalThroughput?_eq_pooled_three :
    let g : Gathering :=
      .finish (.begin (.merge
        (.record (.record .empty "GET" (.ofNanos 500000000) true) "PUT" (.ofNanos 1500000000) true)
        (.record .empty "GET" (.ofNanos 1000000000) false)) (.ofNanos 0)) (.ofNanos 1000000000)
    StatsKind.basic ≠ .sketch ∧ g.samples.length < 2 ^ 64 ∧
      ∃ s p : Statistics ℚ, g.statistics? .basic = .ok s ∧
        (g.pooled "all").statistics? .basic = .ok p ∧
        s.totalThroughput? 2 = .ok (some ⟨2, 3⟩) ∧ p.throughput? "all" 2 = some ⟨2, 3⟩ := by
  intro g
  have few : g.samples.length < 2 ^ 64 := by decide
  have plain : StatsKind.basic ≠ .sketch := by decide
  obtain ⟨s, rate, hs, total, pooled, absent, value, -⟩ :=
    (totalThroughput?_eq_pooled plain g 2).1 few
  obtain ⟨p, hp, same⟩ := pooled "all" _ (g.pools_pooled "all")
  have two : rate = some ⟨2, 3⟩ := by
    cases found : rate with
    | none =>
      -- none of the reasons for having no rate is there
      rcases absent.1 found with nothing | (unset | unset | ⟨_, _, ⟨⟩, ⟨⟩, early⟩) | zero
      · cases nothing
      · cases unset
      · cases unset
      · exact absurd early (by decide)
      · exact absurd zero (by decide)
    | some t =>
      obtain ⟨begun, ended, first, last, -, -, theoretical, actual⟩ := value t found
      have sum : latencySum (g.samples.map (·.2)) = 3000000000 := by decide +kernel
      have number : g.samples.length = 3 := rfl
      cases first
      cases last
      rw [sum, number] at theoretical
      rw [number] at actual
      have two : t.theoretical = 2 := theoretical.trans (by decide +kernel)
      have three : t.actual = 3 := actual.trans (by decide +kernel)
      rw [← two, ← three]
  exact ⟨plain, few, s, p, hs, hp, two ▸ total, two ▸ same⟩

end Statistics

/-! ### More samples than a word counts -/

namespace Gathering

/-- Merges what is gathered with itself a number of times. -/
def doubled (g : Gathering) : Nat → Gathering
  | 0 => g
  | n + 1 => .merge (g.doubled n) (g.doubled n)

variable (g : Gathering)

theorem length_samplesOf_doubled (name : String) (n : Nat) :
    (samplesOf name (g.doubled n).samples).length = 2 ^ n * (samplesOf name g.samples).length := by
  induction n with
  | zero => rw [doubled, Nat.pow_zero, Nat.one_mul]
  | succ n ih =>
    rw [doubled, Gathering.samples, samplesOf_append, List.length_append, ih]
    ring

theorem length_samples_doubled (n : Nat) :
    (g.doubled n).samples.length = 2 ^ n * g.samples.length := by
  induction n with
  | zero => rw [doubled, Nat.pow_zero, Nat.one_mul]
  | succ n ih =>
    rw [doubled, Gathering.samples, List.length_append, ih]
    ring

theorem mem_samples_doubled {n : Nat} {e : String × Sample} (h : e ∈ g.samples) :
    e ∈ (g.doubled n).samples := by
  induction n with
  | zero => exact h
  | succ n ih => exact List.mem_append_left _ ih

theorem ends_doubled (n : Nat) : (g.doubled n).begun = g.begun ∧ (g.doubled n).ended = g.ended := by
  induction n with
  | zero => exact ⟨rfl, rfl⟩
  | succ n ih =>
    constructor
    · rw [doubled, Gathering.begun, ih.1]
      cases g.begun <;> simp [earliest]
    · rw [doubled, Gathering.ended, ih.2]
      cases g.ended <;> simp [latest]

end Gathering

/-- **More samples than a word counts.**  Two operations with `2 ^ 63` requests of a microsecond
each, in one second: each of them is counted, but both together are an overflow, so that there is no
rate. -/
theorem totalThroughput?_overflows :
    ∃ (g : Gathering) (s : Statistics ℚ), g.statistics? .basic = .ok s ∧
      (s.requestsOf "GET").toNat = 2 ^ 63 ∧ (s.requestsOf "PUT").toNat = 2 ^ 63 ∧
      g.samples ≠ [] ∧ ¬ g.Idle ∧ (∃ e ∈ g.samples, e.2.1.nanos ≠ 0) ∧
      s.totalThroughput? 1 = .error .overflow := by
  let first : Gathering :=
    .finish (.begin (.record (.record .empty "GET" (.ofNanos 1000) true) "PUT" (.ofNanos 1000) true)
      (.ofNanos 0)) (.ofNanos 1000000000)
  let g : Gathering := first.doubled 63
  -- the two samples have different names
  have once (name : String) : (samplesOf name first.samples).length ≤ 1 := by
    have listed : first.samples =
        [("GET", .ofNanos 1000, true)] ++ [("PUT", .ofNanos 1000, true)] := rfl
    rw [listed, samplesOf_append, samplesOf_singleton, samplesOf_singleton]
    by_cases get : "GET" = name
    · subst get
      decide
    · rw [if_neg get]
      split <;> decide
  have fits : g.Fits := fun name => by
    rw [first.length_samplesOf_doubled]
    exact Nat.lt_of_le_of_lt (Nat.mul_le_mul_left _ (once name)) (by decide)
  obtain ⟨s, hs⟩ := Statistics.exists_gathered (R := ℚ) .basic g fits
  have listed : ("GET", (Span.ofNanos 1000, true)) ∈ g.samples :=
    first.mem_samples_doubled (by decide)
  have counted (name : String) (one : (samplesOf name first.samples).length = 1) :
      (s.requestsOf name).toNat = 2 ^ 63 := by
    rw [hs.requests, first.length_samplesOf_doubled, one]
    rfl
  have many : 2 ^ 64 ≤ g.samples.length := by
    rw [first.length_samples_doubled]
    decide
  refine ⟨g, s, hs.gathered, counted "GET" rfl, counted "PUT" rfl, List.ne_nil_of_mem listed, ?_,
    ⟨_, listed, by decide⟩, hs.totalThroughput?_of_many many 1⟩
  rw [Gathering.Idle, (first.ends_doubled 63).1, (first.ends_doubled 63).2]
  rintro (unset | unset | ⟨_, _, ⟨⟩, ⟨⟩, early⟩)
  · cases unset
  · cases unset
  · exact absurd early (by decide)

end LoadFleet
