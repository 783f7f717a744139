import LoadFleet.Number.Scalar
import LoadFleet.Stats.Kind
/-!
# Quantile sketches

A sketch counts values in bins whose bounds grow by a constant factor, so a quantile is known up
to a relative error of one percent. A `BinStore` holds a window of consecutive bins. It grows by
whole chunks up to a limit; when the values spread further, the lowest bins collapse into one.
-/

namespace LoadFleet

/-- A window of bins. Bin `i` counts the values with key `i + offset`. -/
structure BinStore where
  bins : Array UInt64
  count : UInt64
  minKey : Int
  maxKey : Int
  offset : Int
  binLimit : Nat
  isCollapsed : Bool
  deriving DecidableEq

namespace BinStore

/-- Bins are added in chunks of this many. -/
def chunk : Nat := 128

/-- The key bounds of a store that holds nothing, chosen so that any key extends them. -/
def noMinKey : Int := 2147483647

/-- The upper key bound of a store that holds nothing. -/
def noMaxKey : Int := -2147483648

/-- A store without values. -/
def empty (binLimit : Nat) : BinStore := ⟨#[], 0, noMinKey, noMaxKey, 0, binLimit, false⟩

/-- The sum of the bins from `start` up to `stop`. -/
def sumRange (bins : Array UInt64) (start stop : Nat) : UInt64 :=
  (bins.extract start stop).foldl (· + ·) 0

/-- The number of bins needed for a range of keys, in whole chunks and within the limit. -/
def lengthFor (s : BinStore) (low high : Int) : Nat :=
  min (chunk * (((high - low + 1).toNat + (chunk - 1)) / chunk)) s.binLimit

/-- Moves the window down by `shift` keys, keeping its length. -/
def slide (s : BinStore) (shift : Int) : BinStore :=
  let length := s.bins.size
  let moved := (List.range length).map fun (i : Nat) =>
    let source := (i : Int) - shift
    if 0 ≤ source ∧ source < length then s.bins.getD source.toNat 0 else 0
  { s with bins := moved.toArray, offset := s.offset - shift }

/-- Moves the window so that a range of keys stands in its middle. -/
def center (s : BinStore) (low high : Int) : BinStore :=
  let middle := low + (high - low + 1) / 2
  s.slide (s.offset + s.bins.size / 2 - middle)

/-- Makes the window hold a range of keys, collapsing the lowest bins if it is too short. -/
def adjust (s : BinStore) (low high : Int) : BinStore :=
  if (s.bins.size : Int) < high - low + 1 then
    let low := high - s.bins.size + 1
    if s.maxKey ≤ low then
      let bins := (Array.replicate s.bins.size (0 : UInt64)).set! 0 s.count
      { s with bins, offset := low, minKey := low, maxKey := high, isCollapsed := true }
    else
      let shift := s.offset - low
      let t :=
        if shift < 0 then
          let start := (s.minKey - s.offset).toNat
          let stop := (low - s.offset).toNat
          let collapsed := sumRange s.bins start stop
          let cleared := (List.range s.bins.size).map fun i =>
            if start ≤ i ∧ i < stop then 0
            else if i = stop then s.bins.getD i 0 + collapsed
            else s.bins.getD i 0
          { s with bins := cleared.toArray }
        else s
      { t.slide shift with minKey := low, maxKey := high, isCollapsed := true }
  else { s.center low high with minKey := low, maxKey := high }

/-- Makes the window hold two more keys. -/
def extend (s : BinStore) (first second : Int) : BinStore :=
  let low := min first (min second s.minKey)
  let high := max first (max second s.maxKey)
  if s.bins.isEmpty then
    let fresh := Array.replicate (s.lengthFor low high) (0 : UInt64)
    { s with bins := fresh, offset := low }.adjust low high
  else if s.minKey ≤ low ∧ high < s.offset + s.bins.size then
    { s with minKey := low, maxKey := high }
  else
    let length := s.lengthFor low high
    let grown := s.bins ++ Array.replicate (length - s.bins.size) (0 : UInt64)
    { s with bins := grown }.adjust low high

/-- Adds to a bin. -/
def bump (s : BinStore) (index : Nat) (n : UInt64) : BinStore :=
  { s with bins := s.bins.modify index (· + n) }

/-- Counts one value. A key below the window of a collapsed store counts in the first bin. -/
def add (s : BinStore) (key : Int) : BinStore :=
  let t :=
    if key < s.minKey then (if s.isCollapsed then s else s.extend key key)
    else if s.maxKey < key then s.extend key key
    else s
  let index := if key < s.minKey ∧ t.isCollapsed then 0 else (key - t.offset).toNat
  { t.bump index 1 with count := t.count + 1 }

/-- The key of the bin in which a rank falls. -/
def keyAtRank (s : BinStore) (rank : UInt64) : Int :=
  let rec go : Nat → UInt64 → List UInt64 → Int
    | _, _, [] => s.maxKey
    | i, seen, n :: r => if rank < seen + n then i + s.offset else go (i + 1) (seen + n) r
  go 0 0 s.bins.toList

/-- Adds the bins of another store. Keys below the own window count in the first bin. -/
def merge (s t : BinStore) : BinStore :=
  if t.count = 0 then s
  else if s.count = 0 then t
  else
    let s := if t.minKey < s.minKey ∨ s.maxKey < t.maxKey then s.extend t.minKey t.maxKey else s
    let start := t.minKey - t.offset
    let stop := min s.minKey (t.maxKey + 1) - t.offset
    let s := if start < stop then s.bump 0 (sumRange t.bins start.toNat stop.toNat) else s
    let first := if start < stop then stop else start
    let keys := (List.range (t.maxKey + 1 - (first + t.offset)).toNat).map fun (i : Nat) =>
      first + t.offset + i
    let s := keys.foldl
      (fun s key => s.bump (key - s.offset).toNat (t.bins.getD (key - t.offset).toNat 0)) s
    { s with count := s.count + t.count }

end BinStore

/-- How a sketch maps values to bins. -/
structure SketchConfig where
  maxBins : UInt32
  /-- The factor between the bounds of a bin. -/
  gamma : Float
  /-- Its natural logarithm. -/
  gammaLn : Float
  /-- Values up to this one count as zero. -/
  minValue : Float
  offset : Int
  deriving DecidableEq

namespace SketchConfig

/-- Bins for a relative error of one percent. -/
def standard : SketchConfig := ⟨2048, 1.02020202020202, 0.020000666706669525, 1e-9, 1037⟩

/-- Whether two sketches map values alike. -/
def same (a b : SketchConfig) : Bool :=
  a.maxBins = b.maxBins && a.gamma == b.gamma && a.gammaLn == b.gammaLn &&
    a.minValue == b.minValue && a.offset = b.offset

/-- A whole number of 32 bits nearest to a whole floating point number. -/
def clampKey (x : Float) : Int :=
  let bound : Int := 2147483647
  let magnitude : Int := (Dyadic.clampWord Dyadic.ceil x.abs : Nat)
  if x < 0 then max (-magnitude) (-bound - 1) else min magnitude bound

/-- The key of the bin of a value. -/
def key (c : SketchConfig) (x : Float) : Int := clampKey (x.log / c.gammaLn).ceil

/-- The value that stands for the bin of a key. -/
def value (c : SketchConfig) (key : Int) : Float :=
  (Float.ofInt key * c.gammaLn).exp * (2.0 / (1.0 + c.gamma))

end SketchConfig

/-- A quantile sketch. -/
structure Sketch where
  config : SketchConfig
  store : BinStore
  /-- Bins of negative values, which latencies never fill. -/
  negativeStore : BinStore
  least : Float
  greatest : Float
  sum : Float
  zeroCount : UInt64
  deriving DecidableEq

namespace Sketch

/-- The positive infinity, below which every value lies. -/
def infinity : Float := 1.0 / 0.0

/-- A sketch of no values. -/
def empty : Sketch :=
  { config := .standard
    store := .empty SketchConfig.standard.maxBins.toNat
    negativeStore := .empty SketchConfig.standard.maxBins.toNat
    least := infinity
    greatest := -infinity
    sum := 0
    zeroCount := 0 }

/-- Adds a value. -/
def add (s : Sketch) (x : Float) : Sketch :=
  let t :=
    if s.config.minValue < x then { s with store := s.store.add (s.config.key x) }
    else if x < -s.config.minValue then
      { s with negativeStore := s.negativeStore.add (s.config.key (-x)) }
    else { s with zeroCount := s.zeroCount + 1 }
  { t with
    least := if x < s.least then x else s.least
    greatest := if s.greatest < x then x else s.greatest
    sum := s.sum + x }

/-- The number of values. -/
def count (s : Sketch) : UInt64 := s.store.count + s.zeroCount + s.negativeStore.count

/-- The mean of the values, zero when there is none. -/
def mean (s : Sketch) : Float := if s.count = 0 then 0 else s.sum / s.count.toFloat

/-- The largest value in whole nanoseconds, zero when there is none. -/
def largest (s : Sketch) : UInt64 := if s.count = 0 then 0 else s.greatest.toUInt64

/-- Combines two sketches that map values alike. -/
def merge? (s t : Sketch) : Except StatsError Sketch :=
  if s.config.same t.config then
    let wasEmpty := s.count = 0
    .ok { s with
      store := s.store.merge t.store
      negativeStore := s.negativeStore.merge t.negativeStore
      least := if wasEmpty then t.least else if t.least < s.least then t.least else s.least
      greatest :=
        if wasEmpty then t.greatest else if s.greatest < t.greatest then t.greatest else s.greatest
      sum := s.sum + t.sum
      zeroCount := s.zeroCount + t.zeroCount }
  else .error (.sketch "Merge")

/-- The value at a quantile between zero and one, if there is any value. -/
def quantile? (s : Sketch) (q : Float) : Except StatsError (Option Float) :=
  if ¬(0 ≤ q ∧ q ≤ 1) then .error (.sketch "Quantile")
  else if s.count = 0 then .ok none
  else if q == 0 then .ok (some s.least)
  else if q == 1 then .ok (some s.greatest)
  else
    let rank := (q * (s.count.toFloat - 1)).toUInt64
    let negatives := s.negativeStore.count
    if rank < negatives then
      .ok (some (-s.config.value (s.negativeStore.keyAtRank (negatives - rank - 1))))
    else if rank < s.zeroCount + negatives then .ok (some 0)
    else .ok (some (s.config.value (s.store.keyAtRank (rank - s.zeroCount - negatives))))

end Sketch

end LoadFleet
