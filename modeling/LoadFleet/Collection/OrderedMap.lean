/-!
# Finite maps in key order

A map is the list of its entries in strictly ascending key order, so two maps with the same
entries are the same value and everything that walks a map walks it in key order.

* `find?_insert`, `find?_erase`: an insertion or a removal is seen under its own key and nowhere
  else.
* `find?_eq_some_iff`: what a map holds under a key is what stands there among its entries.
* `ext_find?`: a map is determined by what it holds under each key.
-/

namespace LoadFleet

/-- A finite map, kept as its entries in strictly ascending key order. -/
structure OrderedMap (K V : Type) [Ord K] where
  entries : List (K × V)
  ascending : entries.Pairwise fun a b => compare a.1 b.1 = .lt

/-- A finite set of keys, in ascending order. -/
abbrev OrderedSet (K : Type) [Ord K] := OrderedMap K Unit

namespace OrderedMap

variable {K V : Type} [Ord K]

@[ext] theorem ext {m n : OrderedMap K V} (h : m.entries = n.entries) : m = n := by
  cases m; cases n; cases h; rfl

instance [DecidableEq K] [DecidableEq V] : DecidableEq (OrderedMap K V) := fun m n =>
  decidable_of_iff (m.entries = n.entries) ⟨ext, fun h => h ▸ rfl⟩

/-- The map without entries. -/
def empty : OrderedMap K V := ⟨[], .nil⟩

instance : EmptyCollection (OrderedMap K V) := ⟨empty⟩

instance : Inhabited (OrderedMap K V) := ⟨empty⟩

/-- The keys in ascending order. -/
def keys (m : OrderedMap K V) : List K := m.entries.map (·.1)

/-- The values in the order of their keys. -/
def values (m : OrderedMap K V) : List V := m.entries.map (·.2)

/-- The number of entries. -/
def size (m : OrderedMap K V) : Nat := m.entries.length

/-- Whether the map has no entry. -/
def isEmpty (m : OrderedMap K V) : Bool := m.entries.isEmpty

/-- The first value standing under `k` in a list of entries. -/
def lookup (k : K) : List (K × V) → Option V
  | [] => none
  | (j, v) :: r => if compare k j = .eq then some v else lookup k r

/-- The value under `k`. -/
def find? (m : OrderedMap K V) (k : K) : Option V := lookup k m.entries

/-- Whether there is a value under `k`. -/
def contains (m : OrderedMap K V) (k : K) : Bool := (m.find? k).isSome

/-- Puts an entry at its place, replacing the one of the same key. -/
def place (k : K) (v : V) : List (K × V) → List (K × V)
  | [] => [(k, v)]
  | (j, w) :: r =>
    match compare k j with
    | .lt => (k, v) :: (j, w) :: r
    | .eq => (k, v) :: r
    | .gt => (j, w) :: place k v r

/-- Drops the entry of a key. -/
def drop (k : K) (xs : List (K × V)) : List (K × V) := xs.filter fun e => compare k e.1 != .eq

theorem mem_place {k : K} {v : V} {xs : List (K × V)} {e : K × V} (h : e ∈ place k v xs) :
    e = (k, v) ∨ e ∈ xs := by
  induction xs with
  | nil => simpa [place] using h
  | cons x r ih =>
    obtain ⟨j, w⟩ := x
    simp only [place] at h
    split at h
    · simpa using h
    · rcases List.mem_cons.1 h with h | h
      · exact .inl h
      · exact .inr (.tail _ h)
    · rcases List.mem_cons.1 h with h | h
      · exact .inr (h ▸ .head _)
      · rcases ih h with h | h
        · exact .inl h
        · exact .inr (.tail _ h)

theorem place_ascending [Std.TransOrd K] [Std.LawfulEqOrd K] {k : K} {v : V}
    {xs : List (K × V)} (h : xs.Pairwise fun a b => compare a.1 b.1 = .lt) :
    (place k v xs).Pairwise fun a b => compare a.1 b.1 = .lt := by
  induction xs with
  | nil => simp [place]
  | cons x r ih =>
    obtain ⟨j, w⟩ := x
    obtain ⟨hj, hr⟩ := List.pairwise_cons.1 h
    simp only [place]
    split
    · next hlt =>
      refine List.pairwise_cons.2 ⟨fun e he => ?_, h⟩
      rcases List.mem_cons.1 he with rfl | he
      · exact hlt
      · exact Std.TransCmp.lt_trans hlt (hj e he)
    · next heq =>
      have hk : k = j := Std.LawfulEqCmp.eq_of_compare heq
      subst hk
      exact List.pairwise_cons.2 ⟨hj, hr⟩
    · next hgt =>
      refine List.pairwise_cons.2 ⟨fun e he => ?_, ih hr⟩
      rcases mem_place he with rfl | he
      · exact Std.OrientedCmp.lt_of_gt hgt
      · exact hj e he

variable [Std.TransOrd K] [Std.LawfulEqOrd K]

/-- Stores `v` under `k`, replacing what stood there. -/
def insert (m : OrderedMap K V) (k : K) (v : V) : OrderedMap K V :=
  ⟨place k v m.entries, place_ascending m.ascending⟩

omit [Std.TransOrd K] [Std.LawfulEqOrd K] in
/-- Removes what stands under `k`. -/
def erase (m : OrderedMap K V) (k : K) : OrderedMap K V :=
  ⟨drop k m.entries, m.ascending.sublist List.filter_sublist⟩

/-- The map of a list of entries, where a later entry replaces an earlier one of the same key. -/
def ofList (xs : List (K × V)) : OrderedMap K V :=
  xs.foldl (fun m e => m.insert e.1 e.2) empty

/-! ### Looking up -/

omit [Std.TransOrd K] [Std.LawfulEqOrd K] in
@[simp] theorem find?_empty (k : K) : (empty : OrderedMap K V).find? k = none := rfl

omit [Std.TransOrd K] in
theorem lookup_place (k j : K) (v : V) (xs : List (K × V)) :
    lookup j (place k v xs) = if compare j k = .eq then some v else lookup j xs := by
  induction xs with
  | nil => rfl
  | cons x r ih =>
    obtain ⟨i, w⟩ := x
    simp only [place]
    split
    · simp [lookup]
    · next heq =>
      have hk : k = i := Std.LawfulEqCmp.eq_of_compare heq
      subst hk
      simp only [lookup]
      split <;> rfl
    · next hgt =>
      simp only [lookup, ih]
      split
      · next hji =>
        have hk : j = i := Std.LawfulEqCmp.eq_of_compare hji
        subst hk
        have : compare j k ≠ .eq := by
          intro h
          have : j = k := Std.LawfulEqCmp.eq_of_compare h
          subst this
          simp at hgt
        simp [this]
      · rfl

/-- An insertion is seen under its own key and nowhere else. -/
theorem find?_insert (m : OrderedMap K V) (k j : K) (v : V) :
    (m.insert k v).find? j = if compare j k = .eq then some v else m.find? j :=
  lookup_place k j v m.entries

omit [Std.TransOrd K] in
theorem lookup_drop (k j : K) (xs : List (K × V)) :
    lookup j (drop k xs) = if compare j k = .eq then none else lookup j xs := by
  induction xs with
  | nil => simp [drop, lookup]
  | cons x r ih =>
    obtain ⟨i, w⟩ := x
    rw [drop, List.filter_cons, ← drop]
    split
    · next other =>
      simp only [lookup, ih]
      split
      · next hji =>
        obtain rfl : j = i := Std.LawfulEqCmp.eq_of_compare hji
        rw [if_neg fun hjk => ?_]
        obtain rfl : j = k := Std.LawfulEqCmp.eq_of_compare hjk
        simp at other
      · rfl
    · next same =>
      obtain rfl : k = i := by simpa using same
      rw [ih, lookup]
      split <;> rfl

omit [Std.TransOrd K] in
/-- A removal is seen under its own key and nowhere else. -/
theorem find?_erase (m : OrderedMap K V) (k j : K) :
    (m.erase k).find? j = if compare j k = .eq then none else m.find? j :=
  lookup_drop k j m.entries

theorem find?_insert_self (m : OrderedMap K V) (k : K) (v : V) :
    (m.insert k v).find? k = some v := by
  rw [find?_insert, if_pos Std.ReflCmp.compare_self]

theorem find?_insert_of_ne (m : OrderedMap K V) {k j : K} (v : V) (apart : j ≠ k) :
    (m.insert k v).find? j = m.find? j := by
  rw [find?_insert, if_neg fun same => apart (Std.LawfulEqCmp.eq_of_compare same)]

omit [Std.TransOrd K] in
theorem find?_erase_self (m : OrderedMap K V) (k : K) : (m.erase k).find? k = none := by
  rw [find?_erase, if_pos Std.ReflCmp.compare_self]

omit [Std.TransOrd K] in
theorem find?_erase_of_ne (m : OrderedMap K V) {k j : K} (apart : j ≠ k) :
    (m.erase k).find? j = m.find? j := by
  rw [find?_erase, if_neg fun same => apart (Std.LawfulEqCmp.eq_of_compare same)]

omit [Std.TransOrd K] [Std.LawfulEqOrd K] in
theorem lookup_eq_none_of_lt {k : K} {xs : List (K × V)}
    (h : ∀ e ∈ xs, compare k e.1 = .lt) : lookup k xs = none := by
  induction xs with
  | nil => rfl
  | cons x r ih =>
    have hx := h x (.head _)
    simp only [lookup, hx]
    simpa using ih fun e he => h e (.tail _ he)

omit [Std.TransOrd K] in
theorem lookup_eq_some_iff {k : K} {v : V} {xs : List (K × V)}
    (h : xs.Pairwise fun a b => compare a.1 b.1 = .lt) : lookup k xs = some v ↔ (k, v) ∈ xs := by
  induction xs with
  | nil => simp [lookup]
  | cons x r ih =>
    obtain ⟨j, w⟩ := x
    obtain ⟨hj, hr⟩ := List.pairwise_cons.1 h
    by_cases hk : compare k j = .eq
    · obtain rfl : k = j := Std.LawfulEqCmp.eq_of_compare hk
      have hn : (k, v) ∉ r := fun hm => by simpa using hj _ hm
      simp [lookup, hn, eq_comm]
    · have hne : k ≠ j := by
        rintro rfl
        exact hk Std.ReflCmp.compare_self
      simp [lookup, hk, ih hr, hne]

omit [Std.TransOrd K] in
/-- A map holds under a key what stands there among its entries. -/
theorem find?_eq_some_iff {m : OrderedMap K V} {k : K} {v : V} :
    m.find? k = some v ↔ (k, v) ∈ m.entries :=
  lookup_eq_some_iff m.ascending

omit [Std.LawfulEqOrd K] in
/-- No key stands twice in a map. -/
theorem nodup_keys (m : OrderedMap K V) : m.keys.Nodup := by
  refine List.pairwise_map.2 (m.ascending.imp fun {a b} hlt h => ?_)
  simp [h] at hlt

omit [Std.TransOrd K] in
theorem mem_keys_iff {m : OrderedMap K V} {k : K} : k ∈ m.keys ↔ ∃ v, m.find? k = some v := by
  simp [keys, find?_eq_some_iff]

/-- The map of a list of entries with different keys holds these entries. -/
theorem find?_ofList_iff {xs : List (K × V)} (h : (xs.map (·.1)).Nodup) {k : K} {v : V} :
    (ofList xs).find? k = some v ↔ (k, v) ∈ xs := by
  -- entries that come later are not there yet
  suffices ∀ m : OrderedMap K V, (∀ e ∈ xs, m.find? e.1 = none) →
      ((xs.foldl (fun m e => m.insert e.1 e.2) m).find? k = some v ↔
        m.find? k = some v ∨ (k, v) ∈ xs) by
    exact (this empty fun _ _ => rfl).trans (by simp)
  induction xs with
  | nil => simp
  | cons x r ih =>
    obtain ⟨hx, hr⟩ := List.nodup_cons.1 h
    intro m new
    have other : ∀ e ∈ r, compare e.1 x.1 ≠ .eq := fun e he heq =>
      hx (List.mem_map.2 ⟨e, he, Std.LawfulEqCmp.eq_of_compare heq⟩)
    have new' : ∀ e ∈ r, (m.insert x.1 x.2).find? e.1 = none := fun e he => by
      rw [find?_insert, if_neg (other e he), new e (.tail _ he)]
    rw [List.foldl_cons, ih hr _ new', find?_insert]
    split
    · next heq =>
      obtain rfl : k = x.1 := Std.LawfulEqCmp.eq_of_compare heq
      have absent : m.find? x.1 = none := new x (.head _)
      simp [absent, Prod.ext_iff, eq_comm]
    · next hne =>
      have : (k, v) ≠ x := fun hx => hne (by simp [← hx])
      simp [this]

/-- The map of a list of entries with different keys has these entries, in the order of the keys. -/
theorem entries_ofList {xs : List (K × V)} (h : (xs.map (·.1)).Nodup) :
    (ofList xs).entries.Perm xs := by
  have nodup {ys : List (K × V)} (hy : (ys.map (·.1)).Nodup) : ys.Nodup :=
    (List.pairwise_map.1 hy).imp fun ne same => ne (congrArg (·.1) same)
  refine (List.perm_ext_iff_of_nodup (nodup (ofList xs).nodup_keys) (nodup h)).2 fun e => ?_
  rw [← find?_ofList_iff h, find?_eq_some_iff]

/-- A map is determined by what it holds under each key. -/
theorem ext_find? {m n : OrderedMap K V} (h : ∀ k, m.find? k = n.find? k) : m = n := by
  suffices ∀ xs ys : List (K × V), xs.Pairwise (fun a b => compare a.1 b.1 = .lt) →
      ys.Pairwise (fun a b => compare a.1 b.1 = .lt) →
      (∀ k, lookup k xs = lookup k ys) → xs = ys from
    ext (this _ _ m.ascending n.ascending h)
  intro xs
  induction xs with
  | nil =>
    intro ys _ _ h
    match ys with
    | [] => rfl
    | y :: r =>
      have := h y.1
      simp [lookup] at this
  | cons x r ih =>
    intro ys hx hy h
    match ys with
    | [] =>
      have := h x.1
      simp [lookup] at this
    | y :: s =>
      obtain ⟨hxr, hr⟩ := List.pairwise_cons.1 hx
      obtain ⟨hys, hs⟩ := List.pairwise_cons.1 hy
      have hxy : compare x.1 y.1 = .eq := by
        match hc : compare x.1 y.1 with
        | .eq => rfl
        | .lt =>
          have h₁ := h x.1
          have below : ∀ e ∈ y :: s, compare x.1 e.1 = .lt := fun e he => by
            rcases List.mem_cons.1 he with rfl | he
            · exact hc
            · exact Std.TransCmp.lt_trans hc (hys e he)
          rw [show lookup x.1 (x :: r) = some x.2 by simp [lookup],
            lookup_eq_none_of_lt below] at h₁
          cases h₁
        | .gt =>
          have h₁ := h y.1
          have hc' : compare y.1 x.1 = .lt := Std.OrientedCmp.lt_of_gt hc
          have below : ∀ e ∈ x :: r, compare y.1 e.1 = .lt := fun e he => by
            rcases List.mem_cons.1 he with rfl | he
            · exact hc'
            · exact Std.TransCmp.lt_trans hc' (hxr e he)
          rw [show lookup y.1 (y :: s) = some y.2 by simp [lookup],
            lookup_eq_none_of_lt below] at h₁
          cases h₁
      have hk : x.1 = y.1 := Std.LawfulEqCmp.eq_of_compare hxy
      have hv : x.2 = y.2 := by
        have := h x.1
        simpa [lookup, ← hk] using this
      have hxy : x = y := Prod.ext hk hv
      subst hxy
      congr 1
      refine ih s hr hs fun k => ?_
      have := h k
      simp only [lookup] at this
      split at this
      · next hk =>
        have hk : k = x.1 := Std.LawfulEqCmp.eq_of_compare hk
        subst hk
        rw [lookup_eq_none_of_lt hxr, lookup_eq_none_of_lt hys]
      · exact this

end OrderedMap

namespace OrderedSet

variable {K : Type} [Ord K]

/-- The members in ascending order. -/
def toList (s : OrderedSet K) : List K := OrderedMap.keys s

variable [Std.TransOrd K] [Std.LawfulEqOrd K]

/-- The set of the members of a list. -/
def ofList (xs : List K) : OrderedSet K := OrderedMap.ofList (xs.map fun k => (k, ()))

end OrderedSet

end LoadFleet
