import LoadFleet.Text.Numeral
import LoadFleet.Time.Readable
import Mathlib.Algebra.BigOperators.Group.List.Basic
import Mathlib.Tactic.Ring
/-!
# Reading the text of a span

A span is written as its parts, from years down to nanoseconds, and no part of it overflows when it
is read again: what is read so far is always less than the span.

* `Span.readNumber?_digits`: a numeral is read up to the name of its unit.
* `Span.addUnits?_none`: adding a part is exact as long as the sum is a span.
* `Span.readParts?_write`: by induction over the parts, reading them adds them up.
* `Span.totalOf_parts`: the parts of a span are the span.
* `Span.read?_readable`: the main statement.
-/

namespace LoadFleet.Span

/-! ### Numbers and names -/

theorem isBlank_of_isDigit {c : Char} (h : c.isDigit) : isBlank c = false :=
  forall_digit (p := fun c => isBlank c = false) (by decide) h

theorem isUnitChar_of_isDigit {c : Char} (h : c.isDigit) : isUnitChar c = false :=
  forall_digit (p := fun c => isUnitChar c = false) (by decide) h

theorem isDigit_of_isUnitChar {c : Char} (h : isUnitChar c) : c.isDigit = false := by
  by_contra digit
  rw [Bool.not_eq_false] at digit
  rw [isUnitChar_of_isDigit digit] at h
  cases h

theorem word?_of_le {n : Nat} (h : n ≤ wordMax) : word? n = some n := by rw [word?, if_pos h]

/-- All cases of a character in one equation. -/
theorem readNumber?_cons (n : Nat) (c : Char) (r : List Char) :
    readNumber? n (c :: r) =
      if c.isDigit then
        match word? (n * 10 + (c.toNat - 48)) with
        | some m => readNumber? m r
        | none => none
      else if isBlank c then readNumber? n r
      else if isUnitChar c then some (n, none, c :: r)
      else if c = '.' then
        match readFraction? ⟨0, 1⟩ r with
        | some (f, rest) => some (n, some f, rest)
        | none => none
      else none := by
  rfl

/-- The value of a number does not shrink with further digits. -/
theorem le_foldl_digits (l : List Char) (n : Nat) :
    n ≤ l.foldl (fun n c => n * 10 + (c.toNat - 48)) n := by
  induction l generalizing n with
  | nil => exact Nat.le_refl n
  | cons c r ih => exact Nat.le_trans (by omega) (ih (n * 10 + (c.toNat - 48)))

/-- A number is read up to its unit. -/
theorem readNumber?_digits {digits rest : List Char} {c : Char} {n : Nat}
    (all : ∀ d ∈ digits, d.isDigit) (hc : isUnitChar c) (blank : isBlank c = false)
    (fits : digits.foldl (fun n c => n * 10 + (c.toNat - 48)) n ≤ wordMax) :
    readNumber? n (digits ++ c :: rest) =
      some (digits.foldl (fun n c => n * 10 + (c.toNat - 48)) n, none, c :: rest) := by
  induction digits generalizing n with
  | nil => simp [readNumber?_cons, isDigit_of_isUnitChar hc, blank, hc]
  | cons d r ih =>
    obtain ⟨digit, others⟩ := List.forall_mem_cons.1 all
    have next : word? (n * 10 + (d.toNat - 48)) = some (n * 10 + (d.toNat - 48)) :=
      word?_of_le (Nat.le_trans (le_foldl_digits r _) fits)
    rw [List.cons_append, readNumber?_cons, if_pos digit, next]
    exact ih others fits

/-! ### Adding up -/

theorem addPart?_nanos {total amount : Nat} (small : amount < nanosPerSecond)
    (fits : total + amount < 0x10000000000000000 * nanosPerSecond) :
    addPart? total amount 1 = some (total + amount) := by
  simp only [nanosPerSecond] at small fits
  rw [addPart?, if_pos rfl, word?_of_le (by simp only [nanosPerSecond, wordMax]; omega)]
  simp only [Option.bind_eq_bind, Option.bind_some, nanosPerSecond]
  rw [word?_of_le (by simp only [wordMax]; omega)]
  simp only [Option.bind_some, Option.pure_def, Option.some.injEq]
  omega

theorem addPart?_seconds {total amount : Nat}
    (fits : total + amount * nanosPerSecond < 0x10000000000000000 * nanosPerSecond) :
    addPart? total amount nanosPerSecond = some (total + amount * nanosPerSecond) := by
  simp only [nanosPerSecond] at fits
  rw [addPart?, if_neg (by decide), word?_of_le (by simp only [nanosPerSecond, wordMax]; omega)]
  simp only [Option.bind_eq_bind, Option.bind_some, Option.pure_def, nanosPerSecond,
    Option.some.injEq]
  omega

/-- A number of units below a second is less than a second. -/
def Small (n : Nat) (unit : TimeUnit) : Prop :=
  unit.wholeGrain = 1 → n * unit.nanos < nanosPerSecond

theorem addUnits?_none {total n : Nat} {unit : TimeUnit} (small : Small n unit)
    (fits : total + n * unit.nanos < 0x10000000000000000 * nanosPerSecond) :
    addUnits? total n none unit = some (total + n * unit.nanos) := by
  have exactly : n * unit.nanos = n * (unit.nanos / unit.wholeGrain) * unit.wholeGrain := by
    rw [Nat.mul_assoc]
    cases unit <;> rfl
  rw [Small, exactly] at small
  rw [exactly] at fits ⊢
  rw [addUnits?]
  generalize n * (unit.nanos / unit.wholeGrain) = amount at *
  have grains : unit.wholeGrain = 1 ∨ unit.wholeGrain = nanosPerSecond := by cases unit <;> decide
  rcases grains with grain | grain
  · rw [grain, Nat.mul_one] at fits small ⊢
    have fitting := small rfl
    rw [word?_of_le (by simp only [nanosPerSecond, wordMax] at *; omega)]
    simp [addPart?_nanos fitting fits]
  · rw [grain] at fits ⊢
    rw [word?_of_le (by simp only [nanosPerSecond, wordMax] at *; omega)]
    simp [addPart?_seconds fits]

/-! ### Parts -/

/-- A name of a unit, made of letters. -/
def IsName (unit : TimeUnit) (name : String) : Prop :=
  TimeUnit.ofName? name = some unit ∧ name.toList ≠ [] ∧
    name.toList.all fun c => isUnitChar c && !isBlank c

instance (unit : TimeUnit) (name : String) : Decidable (IsName unit name) :=
  inferInstanceAs (Decidable (_ ∧ _ ∧ _))

/-- A part of a written span: a number of units, and how the unit is called. -/
structure Part where
  count : Nat
  unit : TimeUnit
  name : String

namespace Part

/-- The length of a part in nanoseconds. -/
def nanos (p : Part) : Nat := p.count * p.unit.nanos

/-- The text of a part. -/
def text (p : Part) : String := Nat.repr p.count ++ p.name

/-- The text of a part can be read: the unit has the name, and there are not too many of it. -/
structure Legible (p : Part) : Prop where
  isName : IsName p.unit p.name
  small : Small p.count p.unit

theorem toList_text (p : Part) : p.text.toList = Nat.toDigits 10 p.count ++ p.name.toList := by
  rw [text, String.toList_append, Nat.toList_repr]

theorem Legible.count_le {p : Part} (h : p.Legible)
    (fits : p.nanos < 0x10000000000000000 * nanosPerSecond) : p.count ≤ wordMax := by
  have small := h.small
  rw [Small] at small
  rw [nanos] at fits
  generalize p.unit = unit at *
  cases unit <;>
    simp only [TimeUnit.nanos, TimeUnit.wholeGrain, nanosPerSecond, wordMax, forall_const] at * <;>
    omega

end Part

/-- The length of parts together. -/
def totalOf (parts : List Part) : Nat := (parts.map Part.nanos).sum

@[simp] theorem totalOf_nil : totalOf [] = 0 := rfl

@[simp] theorem totalOf_cons (p : Part) (r : List Part) :
    totalOf (p :: r) = p.nanos + totalOf r := by
  rw [totalOf, List.map_cons, List.sum_cons, totalOf]

/-- The texts of parts, one after the other. -/
def write (parts : List Part) : String := " ".intercalate (parts.map Part.text)

/-- What is read after a part. -/
def readMore? (steps total : Nat) (tail : List Char) : Option Nat :=
  match tail with
  | [] => some total
  | d :: _ =>
    if isBlank d || d.isDigit then
      match tail.dropWhile isBlank with
      | [] => some total
      | rest => readParts? steps total rest
    else none

theorem readMore?_blank {d : Char} {r : List Char} (h : isBlank d = false) (steps total : Nat) :
    readMore? steps total (' ' :: d :: r) = readParts? steps total (d :: r) := by
  have next : (' ' :: d :: r).dropWhile isBlank = d :: r := by
    rw [List.dropWhile_cons_of_pos rfl, List.dropWhile_cons_of_neg (by simp [h])]
  rw [readMore?, next]
  rfl

/-- One part is read, up to whatever is no part of the name of its unit. -/
theorem readParts?_part {p : Part} (h : p.Legible) {total : Nat}
    (fits : total + p.nanos < 0x10000000000000000 * nanosPerSecond) (steps : Nat)
    (tail : List Char) (ends : ∀ c ∈ tail.head?, isUnitChar c = false) :
    readParts? (steps + 1) total (p.text.toList ++ tail) =
      readMore? steps (total + p.nanos) tail := by
  obtain ⟨d, ds, digits⟩ := List.exists_cons_of_ne_nil
    (Nat.toDigits_ne_nil (n := p.count) (b := 10))
  obtain ⟨named, nonempty, letters⟩ := h.isName
  have letters : ∀ c ∈ p.name.toList, isUnitChar c ∧ isBlank c = false := by
    simpa using letters
  obtain ⟨c, cs, name⟩ := List.exists_cons_of_ne_nil nonempty
  have all : ∀ e ∈ d :: ds, e.isDigit := fun e he =>
    isDigit_of_mem_numeral (n := p.count) (digits ▸ he)
  have value : ds.foldl (fun n c => n * 10 + (c.toNat - 48)) (d.toNat - 48) = p.count := by
    have := foldl_toDigits p.count
    rwa [digits, List.foldl_cons, Nat.zero_mul, Nat.zero_add] at this
  have first := letters c (name ▸ .head _)
  have number : readNumber? (d.toNat - 48) (ds ++ (p.name.toList ++ tail)) =
      some (p.count, none, p.name.toList ++ tail) := by
    rw [name, List.cons_append, readNumber?_digits (fun e he => all e (.tail _ he)) first.1 first.2,
      value]
    rw [value]
    exact h.count_le (by omega)
  have taken := takeWhile_append_of_ends (fun c hc => (letters c hc).1) ends
  have dropped := dropWhile_append_of_ends (fun c hc => (letters c hc).1) ends
  rw [p.toList_text, digits, List.cons_append, List.cons_append, readParts?]
  simp only [all d (.head _), Bool.not_true, Bool.false_eq_true, if_false, List.append_assoc,
    number, Option.bind_eq_bind, Option.bind_some, taken, dropped, String.ofList_toList, named,
    addUnits?_none h.small fits, Option.pure_def]
  rfl

@[simp] theorem write_singleton (p : Part) : write [p] = p.text := String.intercalate_singleton

theorem toList_write_cons (p q : Part) (r : List Part) :
    (write (p :: q :: r)).toList = p.text.toList ++ ' ' :: (write (q :: r)).toList := by
  simp only [write, List.map_cons, String.intercalate_cons_cons, String.toList_append,
    List.append_assoc]
  rfl

/-- The text of parts starts with a digit. -/
theorem write_eq_cons {parts : List Part} (nonempty : parts ≠ []) :
    ∃ d t, (write parts).toList = d :: t ∧ d.isDigit := by
  cases parts with
  | nil => exact absurd rfl nonempty
  | cons p r =>
    obtain ⟨d, ds, digits⟩ := List.exists_cons_of_ne_nil
      (Nat.toDigits_ne_nil (n := p.count) (b := 10))
    have digit : d.isDigit := isDigit_of_mem_numeral (n := p.count) (digits ▸ .head _)
    have text : p.text.toList = d :: (ds ++ p.name.toList) := by
      rw [p.toList_text, digits, List.cons_append]
    cases r with
    | nil => exact ⟨d, _, by rw [write_singleton, text], digit⟩
    | cons q r => exact ⟨d, _, by rw [toList_write_cons, text, List.cons_append], digit⟩

/-- Each part takes a digit and a letter at least. -/
theorem two_mul_length_le {parts : List Part} (legible : ∀ p ∈ parts, p.Legible) :
    2 * parts.length ≤ (write parts).toList.length := by
  induction parts with
  | nil => exact Nat.zero_le _
  | cons p r ih =>
    obtain ⟨here, others⟩ := List.forall_mem_cons.1 legible
    have digits := List.length_pos_iff.2 (Nat.toDigits_ne_nil (n := p.count) (b := 10))
    have letters := List.length_pos_iff.2 here.isName.2.1
    have text : 2 ≤ p.text.toList.length := by
      rw [p.toList_text, List.length_append]
      omega
    cases r with
    | nil => exact text
    | cons q r =>
      have rest := ih others
      rw [toList_write_cons, List.length_append, List.length_cons]
      simp only [List.length_cons] at rest ⊢
      omega

/-- Reading parts adds them up. -/
theorem readParts?_write {parts : List Part} (nonempty : parts ≠ [])
    (legible : ∀ p ∈ parts, p.Legible) {total : Nat}
    (fits : total + totalOf parts < 0x10000000000000000 * nanosPerSecond) {steps : Nat}
    (enough : parts.length ≤ steps) :
    readParts? steps total (write parts).toList = some (total + totalOf parts) := by
  induction parts generalizing total steps with
  | nil => exact absurd rfl nonempty
  | cons p r ih =>
    obtain ⟨here, others⟩ := List.forall_mem_cons.1 legible
    rw [totalOf_cons] at fits ⊢
    obtain ⟨steps, rfl⟩ : ∃ s, steps = s + 1 :=
      ⟨steps - 1, by rw [List.length_cons] at enough; omega⟩
    cases r with
    | nil =>
      have read := readParts?_part here (by omega : total + p.nanos < _) steps [] nofun
      rwa [List.append_nil] at read
    | cons q r =>
      obtain ⟨d, t, text, digit⟩ := write_eq_cons (List.cons_ne_nil q r)
      have rest := ih (List.cons_ne_nil q r) others
        (by omega : total + p.nanos + _ < _) (Nat.le_of_succ_le_succ enough)
      rw [toList_write_cons, readParts?_part here (by omega) steps _ (by rintro c ⟨⟩; rfl), text,
        readMore?_blank (isBlank_of_isDigit digit), ← text, rest, Nat.add_assoc]

/-! ### The parts of a span -/

/-- The name of a unit that takes a plural. -/
def plural (n : Nat) (name : String) : String := if n > 1 then name ++ "s" else name

/-- All parts of a span, from years down to nanoseconds. -/
def allParts (a : Span) : List Part :=
  let inYear := a.seconds % 31557600
  let inMonth := inYear % 2630016
  let inDay := inMonth % 86400
  [⟨a.seconds / 31557600, .year, plural (a.seconds / 31557600) "year"⟩,
    ⟨inYear / 2630016, .month, plural (inYear / 2630016) "month"⟩,
    ⟨inMonth / 86400, .day, plural (inMonth / 86400) "day"⟩,
    ⟨inDay / 3600, .hour, "h"⟩, ⟨inDay % 3600 / 60, .minute, "m"⟩, ⟨inDay % 60, .second, "s"⟩,
    ⟨a.subsecond / 1000000, .millisecond, "ms"⟩, ⟨a.subsecond / 1000 % 1000, .microsecond, "us"⟩,
    ⟨a.subsecond % 1000, .nanosecond, "ns"⟩]

/-- The parts of a span that are written. -/
def parts (a : Span) : List Part :=
  if a.nanos = 0 then [⟨0, .second, "s"⟩] else a.allParts.filter fun p => p.count ≠ 0

theorem part_eq (n : Nat) (unit : TimeUnit) (name : String) :
    part n name = (([⟨n, unit, name⟩] : List Part).filter fun p => p.count ≠ 0).map Part.text := by
  by_cases h : n = 0
  · simp [part, h]
  · simp [part, h, Part.text]

theorem readable_eq_write (a : Span) : a.readable = write a.parts := by
  rw [readable, parts]
  split
  · rfl
  · refine congrArg (" ".intercalate ·) ?_
    simp only [pluralPart]
    rw [part_eq _ .year, part_eq _ .month, part_eq _ .day, part_eq _ .hour, part_eq _ .minute,
      part_eq _ .second, part_eq _ .millisecond, part_eq _ .microsecond, part_eq _ .nanosecond]
    simp only [← List.map_append, ← List.filter_append]
    rfl

theorem totalOf_filter (l : List Part) : totalOf (l.filter fun p => p.count ≠ 0) = totalOf l := by
  induction l with
  | nil => rfl
  | cons p r ih =>
    rw [List.filter_cons]
    split
    · rw [totalOf_cons, ih, totalOf_cons]
    · next zero =>
      have none : p.nanos = 0 := by
        have count : p.count = 0 := by simpa using zero
        rw [Part.nanos, count, Nat.zero_mul]
      rw [ih, totalOf_cons, none, Nat.zero_add]

/-- A number of seconds by years, months, days, hours, minutes and seconds. -/
theorem split_seconds (n : Nat) :
    n / 31557600 * 31557600 + (n % 31557600 / 2630016 * 2630016 +
      (n % 31557600 % 2630016 / 86400 * 86400 + (n % 31557600 % 2630016 % 86400 / 3600 * 3600 +
        (n % 31557600 % 2630016 % 86400 % 3600 / 60 * 60 +
          n % 31557600 % 2630016 % 86400 % 60)))) = n := by
  have minute : n % 31557600 % 2630016 % 86400 % 3600 % 60 =
      n % 31557600 % 2630016 % 86400 % 60 := Nat.mod_mod_of_dvd _ (by decide)
  rw [← minute]
  simp only [Nat.div_add_mod']

theorem split_subsecond (n : Nat) :
    n / 1000000 * 1000000 + (n / 1000 % 1000 * 1000 + n % 1000) = n := by
  omega

/-- The length of parts with the units of a span, in their order. -/
theorem totalOf_units (year month day hour minute second milli micro nano : Nat)
    (a b c d e f g h i : String) :
    totalOf [⟨year, .year, a⟩, ⟨month, .month, b⟩, ⟨day, .day, c⟩, ⟨hour, .hour, d⟩,
        ⟨minute, .minute, e⟩, ⟨second, .second, f⟩, ⟨milli, .millisecond, g⟩,
        ⟨micro, .microsecond, h⟩, ⟨nano, .nanosecond, i⟩] =
      (year * 31557600 + (month * 2630016 + (day * 86400 + (hour * 3600 +
        (minute * 60 + second))))) * nanosPerSecond +
      (milli * 1000000 + (micro * 1000 + nano)) := by
  simp only [totalOf_cons, totalOf_nil, Part.nanos, TimeUnit.nanos]
  ring

theorem totalOf_allParts (a : Span) : totalOf a.allParts = a.nanos := by
  rw [allParts, totalOf_units, split_seconds, split_subsecond, seconds, subsecond,
    Nat.div_add_mod']

/-- The parts of a span are the span. -/
theorem totalOf_parts (a : Span) : totalOf a.parts = a.nanos := by
  rw [parts]
  split
  · next zero => exact zero.symm
  · rw [totalOf_filter, totalOf_allParts]

theorem legible {n : Nat} {unit : TimeUnit} {name : String} (small : Small n unit)
    (isName : IsName unit name) : Part.Legible ⟨n, unit, name⟩ := ⟨isName, small⟩

theorem legible_plural {n : Nat} {unit : TimeUnit} {name : String} (small : Small n unit)
    (one : IsName unit name) (more : IsName unit (name ++ "s")) :
    Part.Legible ⟨n, unit, plural n name⟩ := by
  rw [plural]
  split
  · exact legible small more
  · exact legible small one

theorem legible_parts (a : Span) : ∀ p ∈ a.parts, p.Legible := by
  have coarse (n : Nat) {unit : TimeUnit} (h : unit.wholeGrain = nanosPerSecond) :
      Small n unit := fun one => nomatch h.symm.trans one
  have sub : a.subsecond < 1000000000 := Nat.mod_lt _ (by decide)
  have fine {n : Nat} {unit : TimeUnit} (h : n * unit.nanos ≤ a.subsecond) : Small n unit :=
    fun _ => Nat.lt_of_le_of_lt h sub
  have split := split_subsecond a.subsecond
  rw [parts]
  split
  · rintro p hp
    obtain rfl := List.mem_singleton.1 hp
    exact legible (coarse _ rfl) (by decide)
  · intro p hp
    have hp := (List.mem_filter.1 hp).1
    simp only [allParts, List.mem_cons, List.not_mem_nil, or_false] at hp
    rcases hp with rfl | rfl | rfl | rfl | rfl | rfl | rfl | rfl | rfl
    · exact legible_plural (coarse _ rfl) (by decide) (by decide)
    · exact legible_plural (coarse _ rfl) (by decide) (by decide)
    · exact legible_plural (coarse _ rfl) (by decide) (by decide)
    · exact legible (coarse _ rfl) (by decide)
    · exact legible (coarse _ rfl) (by decide)
    · exact legible (coarse _ rfl) (by decide)
    · exact legible (fine (by simp only [TimeUnit.nanos]; omega)) (by decide)
    · exact legible (fine (by simp only [TimeUnit.nanos]; omega)) (by decide)
    · exact legible (fine (by simp only [TimeUnit.nanos]; omega)) (by decide)

theorem parts_ne_nil (a : Span) : a.parts ≠ [] := by
  rw [parts]
  split
  · nofun
  · next some =>
    intro none
    have := totalOf_filter a.allParts
    rw [none, totalOf_nil, totalOf_allParts] at this
    exact some this.symm

/-- A part is longer than a lone digit. -/
theorem readable_ne_zero (a : Span) : a.readable ≠ "0" := by
  intro zero
  have long := two_mul_length_le a.legible_parts
  have some := List.length_pos_iff.2 a.parts_ne_nil
  rw [← readable_eq_write, zero] at long
  have one : "0".toList.length = 1 := rfl
  omega

/-- **The text of a span reads as the span.** -/
theorem read?_readable (a : Span) : read? a.readable = some a := by
  obtain ⟨d, t, text, digit⟩ := write_eq_cons a.parts_ne_nil
  have start : (write a.parts).toList.dropWhile isBlank = d :: t := by
    rw [text, List.dropWhile_cons_of_neg (by simp [isBlank_of_isDigit digit])]
  have enough : a.parts.length ≤ (d :: t).length := by
    have := two_mul_length_le a.legible_parts
    rw [text] at this
    omega
  have fits : 0 + totalOf a.parts < 0x10000000000000000 * nanosPerSecond := by
    rw [a.totalOf_parts, Nat.zero_add]
    exact a.bounded
  have read := readParts?_write a.parts_ne_nil a.legible_parts fits enough
  rw [text, a.totalOf_parts, Nat.zero_add] at read
  rw [read?, if_neg a.readable_ne_zero, readable_eq_write, start]
  simp only [read, Option.bind_some, ofNanos?, a.bounded, dite_true]

end LoadFleet.Span
