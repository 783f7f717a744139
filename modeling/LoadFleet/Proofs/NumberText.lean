import LoadFleet.Text.Numeral
import LoadFleet.Wire.JsonReader
/-!
# Reading the numbers of a text

The reader of numbers stops where a number ends, so a number reads the same by itself and inside of
a longer text. Whole numbers read back from their digits. The text of a floating point number is
rounded twice when it is read and may not read back; one that does by itself does so anywhere.

* `Json.readNumber?_append`: a number reads the same where more text follows.
* `Json.readNumber?_numeral`, `Json.readNumber?_negative`: numerals read as their numbers.
* `Json.Rereads.number`: a floating point number that reads back is read from its whole text.
-/

namespace LoadFleet.Json

/-! ### Numbers in a longer text -/

/-- What may follow a number. -/
def EndsNumber (rest : List Char) : Prop :=
  ∀ c ∈ rest.head?, ¬ c.isDigit ∧ c ≠ '.' ∧ c ≠ 'e' ∧ c ≠ 'E'

section

variable {rest : List Char} (ends : EndsNumber rest)

include ends

theorem digitsOf_append (text : List Char) :
    digitsOf (text ++ rest) = ((digitsOf text).1, (digitsOf text).2 ++ rest) := by
  have ends : EndsNumeral rest := fun c hc => Bool.eq_false_iff.2 (ends c hc).1
  induction text with
  | nil =>
    cases rest with
    | nil => rfl
    | cons c r => simp [digitsOf, ends c rfl]
  | cons c t ih =>
    simp only [digitsOf, Prod.mk.injEq] at ih ⊢
    cases digit : c.isDigit <;> simp [digit, ih]

omit ends in
theorem signOf_append {text : List Char} (some : text ≠ []) :
    signOf (text ++ rest) = ((signOf text).1, (signOf text).2 ++ rest) := by
  cases text with
  | nil => exact absurd rfl some
  | cons c t =>
    by_cases minus : c = '-'
    · subst minus; rfl
    · by_cases plus : c = '+'
      · subst plus; rfl
      · simp [signOf, minus, plus]

theorem readExponent?_append {text r : List Char} {n : Int}
    (read : readExponent? text = some (n, r)) :
    readExponent? (text ++ rest) = some (n, r ++ rest) := by
  have some : text ≠ [] := by
    rintro rfl
    cases read
  rw [readExponent?, signOf_append some]
  rw [readExponent?] at read
  dsimp only at read ⊢
  rw [digitsOf_append ends]
  dsimp only at read ⊢
  split at read
  · cases read
  · next digits =>
    rw [if_neg digits]
    cases read
    rfl

omit ends in
theorem minusOf_append {text : List Char} (some : text ≠ []) :
    minusOf (text ++ rest) = ((minusOf text).1, (minusOf text).2 ++ rest) := by
  cases text with
  | nil => exact absurd rfl some
  | cons c t =>
    by_cases minus : c = '-'
    · subst minus; rfl
    · simp [minusOf, minus]

theorem fractionOf?_append {text r : List Char}
    {fraction : Option (List Char)} (read : fractionOf? text = some (fraction, r)) :
    fractionOf? (text ++ rest) = some (fraction, r ++ rest) := by
  cases text with
  | nil =>
    cases read
    cases rest with
    | nil => rfl
    | cons c t => simp [fractionOf?, (ends c rfl).2.1]
  | cons c t =>
    by_cases point : c = '.'
    · subst point
      simp only [fractionOf?, List.cons_append, digitsOf_append ends] at read ⊢
      split at read
      · cases read
      · next digits => rw [if_neg digits]; cases read; rfl
    · simp [fractionOf?, point] at read ⊢
      obtain ⟨rfl, rfl⟩ := read
      simp

theorem exponentOf?_append {text r : List Char} {exponent : Option Int}
    (read : exponentOf? text = some (exponent, r)) :
    exponentOf? (text ++ rest) = some (exponent, r ++ rest) := by
  cases text with
  | nil =>
    cases read
    cases rest with
    | nil => rfl
    | cons c t => simp [exponentOf?, (ends c rfl).2.2.1, (ends c rfl).2.2.2]
  | cons c t =>
    have marked (mark : exponentOf? (c :: t) = (readExponent? t).map fun e => (some e.1, e.2))
        (mark' : exponentOf? (c :: t ++ rest) =
          (readExponent? (t ++ rest)).map fun e => (some e.1, e.2)) :
        exponentOf? (c :: t ++ rest) = some (exponent, r ++ rest) := by
      rw [mark] at read
      obtain ⟨⟨n, r'⟩, reads, same⟩ := Option.map_eq_some_iff.1 read
      cases same
      rw [mark', readExponent?_append ends reads]
      rfl
    by_cases small : c = 'e'
    · subst small; exact marked rfl rfl
    · by_cases big : c = 'E'
      · subst big; exact marked rfl rfl
      · simp [exponentOf?, small, big] at read ⊢
        obtain ⟨rfl, rfl⟩ := read
        simp

/-- A number reads the same where more text follows that is not part of it. -/
theorem readNumber?_append {text r : List Char} {j : Json} (read : readNumber? text = some (j, r)) :
    readNumber? (text ++ rest) = some (j, r ++ rest) := by
  have some : text ≠ [] := by
    rintro rfl
    cases read
  rw [readNumber?] at read ⊢
  simp only [minusOf_append some, digitsOf_append ends]
  dsimp only at read
  split at read
  · cases read
  · next digits =>
    rw [if_neg digits]
    obtain ⟨⟨fraction, r₁⟩, fractions, read⟩ := Option.bind_eq_some_iff.1 read
    obtain ⟨⟨exponent, r₂⟩, exponents, read⟩ := Option.bind_eq_some_iff.1 read
    simp only [fractionOf?_append ends fractions, exponentOf?_append ends exponents,
      Option.bind_eq_bind, Option.bind_some]
    dsimp only at read
    split at read
    · next whole =>
      rw [if_pos whole]
      cases read
      rfl
    · next whole =>
      rw [if_neg whole]
      cases read
      rfl

end

/-! ### Whole numbers -/

theorem natOf_toDigits (n : Nat) : natOf (Nat.toDigits 10 n) = n := foldl_toDigits n

/-- Only zero starts with a zero. -/
theorem head?_toDigits_ne {n : Nat} (h : n ≠ 0) : (Nat.toDigits 10 n).head? ≠ some '0' := by
  induction n using Nat.strongRecOn with
  | ind n ih =>
    rw [Nat.toDigits_eq_if (by decide)]
    split
    · next small =>
      have : ∀ m < 10, m ≠ 0 → ([Nat.digitChar m] : List Char).head? ≠ some '0' := by decide
      exact this n small h
    · next large =>
      rw [List.head?_append, Option.or_of_isSome (by simp [Nat.toDigits_ne_nil])]
      exact ih (n / 10) (by omega) (by omega)

/-- Digits after a sign read as a whole number. -/
theorem readNumber?_digits {n : Nat} {minus : Bool} {text : List Char}
    (sign : minusOf text = (minus, Nat.toDigits 10 n)) :
    readNumber? text = some (integerOf minus (Nat.toDigits 10 n), []) := by
  have split : digitsOf (Nat.toDigits 10 n) = (Nat.toDigits 10 n, []) := by
    have take := takeWhile_numeral (n := n) endsNumeral_nil
    have drop := dropWhile_numeral (n := n) endsNumeral_nil
    rw [List.append_nil] at take drop
    rw [digitsOf, take, drop]
  have whole : ¬ ((Nat.toDigits 10 n).isEmpty ∨
      (Nat.toDigits 10 n).head? = some '0' ∧ 1 < (Nat.toDigits 10 n).length) := by
    rw [List.isEmpty_iff]
    rintro (none | ⟨zero, more⟩)
    · exact Nat.toDigits_ne_nil none
    · by_cases hn : n = 0
      · rw [hn] at more
        simp at more
      · exact head?_toDigits_ne hn zero
  rw [readNumber?, sign]
  simp only [split, if_neg whole]
  rfl

/-- A numeral is not empty. -/
theorem toDigits_eq_cons (n : Nat) : ∃ c r, Nat.toDigits 10 n = c :: r ∧ c.isDigit := by
  obtain ⟨c, r, h⟩ := List.exists_cons_of_ne_nil (Nat.toDigits_ne_nil (n := n) (b := 10))
  exact ⟨c, r, h, isDigit_of_mem_numeral (n := n) (h ▸ .head _)⟩

/-- No numeral starts with a minus. -/
theorem minusOf_toDigits (n : Nat) : minusOf (Nat.toDigits 10 n) = (false, Nat.toDigits 10 n) := by
  rw [minusOf]
  intro r same
  have := numeral_append_ne_cons (n := n) (x := []) (y := r) (c := '-') rfl
  rw [List.append_nil] at this
  exact this same

/-- A numeral reads as its number, if no part of another number follows. -/
theorem readNumber?_numeral (n : UInt64) {rest : List Char} (h : EndsNumber rest) :
    readNumber? (Nat.toDigits 10 n.toNat ++ rest) = some (.nat n, rest) := by
  have small : n.toNat ≤ wordMax := Nat.le_of_lt_succ n.toNat_lt
  have read := readNumber?_append h (readNumber?_digits (minusOf_toDigits n.toNat))
  rw [read, integerOf, natOf_toDigits]
  simp [small]

/-- A numeral with a minus reads as the negative number, unless that is too large. -/
theorem readNumber?_negative {n : UInt64} (nonzero : n ≠ 0) (small : n.toNat ≤ 0x8000000000000000)
    {rest : List Char} (h : EndsNumber rest) :
    readNumber? ('-' :: Nat.toDigits 10 n.toNat ++ rest) = some (Json.negative n, rest) := by
  have positive : 0 < n.toNat := Nat.pos_of_ne_zero fun zero => nonzero (UInt64.toNat_inj.1 zero)
  have sign : minusOf ('-' :: Nat.toDigits 10 n.toNat) = (true, Nat.toDigits 10 n.toNat) := rfl
  rw [readNumber?_append h (readNumber?_digits sign), integerOf, natOf_toDigits]
  simp [small, positive]

/-! ### Floating point numbers -/

theorem suffix_of_digitsOf (text : List Char) : (digitsOf text).2 <:+ text :=
  List.dropWhile_suffix _

theorem suffix_of_signOf (text : List Char) : (signOf text).2 <:+ text := by
  unfold signOf
  split
  · exact List.suffix_cons _ _
  · exact List.suffix_cons _ _
  · exact List.suffix_rfl

theorem suffix_of_minusOf (text : List Char) : (minusOf text).2 <:+ text := by
  unfold minusOf
  split
  · exact List.suffix_cons _ _
  · exact List.suffix_rfl

theorem suffix_of_fractionOf? {text r : List Char} {fraction : Option (List Char)}
    (read : fractionOf? text = some (fraction, r)) : r <:+ text := by
  unfold fractionOf? at read
  split at read
  · split at read
    · cases read
    · cases read
      exact (suffix_of_digitsOf _).trans (List.suffix_cons _ _)
  · cases read
    exact List.suffix_rfl

theorem suffix_of_exponentOf? {text r : List Char} {exponent : Option Int}
    (read : exponentOf? text = some (exponent, r)) : r <:+ text := by
  have marked {c : Char} {t : List Char}
      (read : ((readExponent? t).map fun e => (some e.1, e.2)) = some (exponent, r)) :
      r <:+ c :: t := by
    obtain ⟨⟨n, r'⟩, reads, same⟩ := Option.map_eq_some_iff.1 read
    cases same
    rw [readExponent?] at reads
    dsimp only at reads
    split at reads
    · cases reads
    · cases reads
      exact ((suffix_of_digitsOf _).trans (suffix_of_signOf _)).trans (List.suffix_cons _ _)
  unfold exponentOf? at read
  split at read
  · exact marked read
  · exact marked read
  · cases read
    exact List.suffix_rfl

/-- What is left of a text after a number. -/
theorem suffix_of_readNumber? {text r : List Char} {j : Json}
    (read : readNumber? text = some (j, r)) : r <:+ text := by
  rw [readNumber?] at read
  dsimp only at read
  split at read
  · cases read
  · obtain ⟨⟨fraction, r₁⟩, fractions, read⟩ := Option.bind_eq_some_iff.1 read
    obtain ⟨⟨exponent, r₂⟩, exponents, read⟩ := Option.bind_eq_some_iff.1 read
    have all := (suffix_of_exponentOf? exponents).trans ((suffix_of_fractionOf? fractions).trans
      ((suffix_of_digitsOf _).trans (suffix_of_minusOf text)))
    dsimp only at read
    split at read <;> cases read <;> exact all

/-- The characters of numbers. -/
def InNumber (c : Char) : Prop := c.isDigit ∨ c = '.' ∨ c = '-' ∨ c = 'e'

theorem InNumber.of_isDigit {c : Char} (h : c.isDigit) : InNumber c := .inl h

theorem inNumber_repr (n : Nat) : ∀ c ∈ (Nat.repr n).toList, InNumber c := fun c hc => by
  rw [Nat.toList_repr] at hc
  exact .of_isDigit (isDigit_of_mem_numeral hc)

theorem inNumber_toString (n : Int) : ∀ c ∈ (toString n).toList, InNumber c := by
  cases n with
  | ofNat n => exact inNumber_repr n
  | negSucc n =>
    change ∀ c ∈ ("-" ++ Nat.repr (n + 1)).toList, _
    rw [String.toList_append, List.forall_mem_append]
    exact ⟨by simp [InNumber], inNumber_repr _⟩

theorem inNumber_positional {digits : String} (h : ∀ c ∈ digits.toList, InNumber c)
    (exponent : Int) : ∀ c ∈ (Decimal.positional digits exponent).toList, InNumber c := by
  have zeros (n : Nat) : ∀ c ∈ List.replicate n '0', InNumber c := fun c hc =>
    (List.eq_of_mem_replicate hc) ▸ .of_isDigit (by decide)
  rw [Decimal.positional]
  split
  · simp only [String.toList_append, String.toList_ofList, List.forall_mem_append]
    exact ⟨h, zeros _⟩
  · split
    · simp only [String.toList_append, String.toList_ofList, List.forall_mem_append]
      exact ⟨⟨fun c hc => h c (List.mem_of_mem_take hc), by simp [InNumber]⟩,
        fun c hc => h c (List.mem_of_mem_drop hc)⟩
    · simp only [String.toList_append, String.toList_ofList, List.forall_mem_append]
      exact ⟨⟨by simp [InNumber], zeros _⟩, h⟩

theorem inNumber_scientific (d : Decimal) : ∀ c ∈ d.scientific.toList, InNumber c := by
  have digits := inNumber_repr d.digits
  have sign : ∀ c ∈ d.sign.toList, InNumber c := by
    rw [Decimal.sign]
    split <;> simp [InNumber]
  rw [Decimal.scientific]
  simp only [String.toList_append, List.forall_mem_append]
  refine ⟨sign, ?_⟩
  split
  · simp [InNumber]
  · split
    · simp only [String.toList_append, List.forall_mem_append]
      exact ⟨inNumber_positional digits _, by simp [InNumber]⟩
    · split
      · exact inNumber_positional digits _
      · split
        · simp only [String.toList_append, List.forall_mem_append]
          exact ⟨⟨digits, by simp [InNumber]⟩, inNumber_toString _⟩
        · simp only [String.toList_append, String.toList_ofList, List.forall_mem_append]
          exact ⟨⟨⟨⟨fun c hc => digits c (List.mem_of_mem_take hc), by simp [InNumber]⟩,
            fun c hc => digits c (List.mem_of_mem_drop hc)⟩, by simp [InNumber]⟩,
            inNumber_toString _⟩

/-- No character of a number is a blank or starts another value. -/
theorem InNumber.starts {c : Char} (h : InNumber c) :
    isSpace c = false ∧ c ≠ '"' ∧ c ≠ '[' ∧ c ≠ '\x7b' ∧ c ≠ 't' ∧ c ≠ 'f' ∧ c ≠ 'n' ∧ c ≠ ']' := by
  rcases h with digit | rfl | rfl | rfl
  · exact forall_digit (p := fun c => isSpace c = false ∧ c ≠ '"' ∧ c ≠ '[' ∧ c ≠ '\x7b' ∧ c ≠ 't' ∧
      c ≠ 'f' ∧ c ≠ 'n' ∧ c ≠ ']') (by decide) digit
  · decide
  · decide
  · decide

/-- The text of a floating point number reads back as the number. -/
def Rereads (x : Float) : Prop := read? (Json.float x).compact = some (.float x)

/-- The floating point number that a value is. -/
def asFloat? : Json → Option Float
  | float x => some x
  | _ => none

theorem rereads_iff {x : Float} :
    Rereads x ↔ (read? (Json.float x).compact).bind asFloat? = some x := by
  rw [Rereads]
  rcases read? (Json.float x).compact with _ | _ | _ | _ | _ | _ | _ | _ <;>
    simp [asFloat?]

instance (x : Float) : Decidable (Rereads x) := decidable_of_iff _ rereads_iff.symm

/-- What starts a number is read as one. -/
theorem readValue?_number {c : Char} (h : InNumber c) (t : List Char) (steps : Nat) :
    readValue? (steps + 1) (c :: t) = readNumber? (c :: t) := by
  obtain ⟨space, h⟩ := h.starts
  rw [readValue?, show skipSpace (c :: t) = c :: t by
    rw [skipSpace, List.dropWhile_cons_of_neg (by simp [space])]]
  split
  iterate 6 next same => cases same; simp at h
  rfl

/-- A number that reads back is read from its whole text. -/
theorem Rereads.number {x : Float} (h : Rereads x) :
    (∃ c t, floatText x = c :: t ∧ InNumber c) ∧
      readNumber? (floatText x) = some (.float x, []) := by
  have chars : ∀ c ∈ floatText x, InNumber c := by
    rw [floatText]
    split
    · exact inNumber_scientific _
    · next none =>
      have null : (Json.float x).compact = "null" := by
        rw [compact, write, floatText, none]
        rfl
      rw [Rereads, null] at h
      exact absurd (show some Json.null = some (.float x) from h) nofun
  rw [Rereads, read?, compact, write, String.toList_ofList] at h
  cases text : floatText x with
  | nil =>
    rw [text] at h
    cases h
  | cons c t =>
    have first : InNumber c := chars c (text ▸ .head _)
    refine ⟨⟨c, t, rfl, first⟩, ?_⟩
    rw [text, readValue?_number first t] at h
    split at h
    · next j rest read =>
      rw [read]
      split at h
      · next blank =>
        cases h
        cases rest with
        | nil => rfl
        | cons d r =>
          have inside : InNumber d :=
            chars d (text ▸ (suffix_of_readNumber? read).mem (.head _))
          simp [skipSpace, inside.starts.1] at blank
      · cases h
    · cases h

end LoadFleet.Json
