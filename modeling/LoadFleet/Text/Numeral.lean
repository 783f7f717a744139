/-!
# Numerals in texts

A numeral ends where no further digit follows, so what comes after it can be told from it.

* `takeWhile_append_of_ends`, `dropWhile_append_of_ends`: characters of one class are split off
  whatever follows them.
* `takeWhile_numeral`, `dropWhile_numeral`: so is a numeral.
* `numeral_append_inj`: equal texts that start with numerals start with the same number, and go on
  in the same way.
-/

namespace LoadFleet

section Split

variable {p : Char → Bool} {l rest : List Char} (all : ∀ c ∈ l, p c)
  (ends : ∀ c ∈ rest.head?, p c = false)

include all ends

theorem takeWhile_append_of_ends : (l ++ rest).takeWhile p = l := by
  rw [List.takeWhile_append_of_pos all]
  cases rest with
  | nil => exact List.append_nil l
  | cons c r => rw [List.takeWhile_cons_of_neg (by simp [ends c rfl]), List.append_nil]

theorem dropWhile_append_of_ends : (l ++ rest).dropWhile p = rest := by
  rw [List.dropWhile_append_of_pos all]
  cases rest with
  | nil => rfl
  | cons c r => rw [List.dropWhile_cons_of_neg (by simp [ends c rfl])]

end Split

/-- The text does not go on with a digit. -/
def EndsNumeral (rest : List Char) : Prop := ∀ c ∈ rest.head?, c.isDigit = false

@[simp] theorem endsNumeral_nil : EndsNumeral [] := nofun

@[simp] theorem endsNumeral_cons {c : Char} {r : List Char} :
    EndsNumeral (c :: r) ↔ c.isDigit = false := by simp [EndsNumeral]

/-- What holds of the ten digits holds of every digit. -/
theorem forall_digit {p : Char → Prop} (h : ∀ k < 10, p (Nat.digitChar k)) {c : Char}
    (hc : c.isDigit) : p c := by
  obtain ⟨low, high⟩ := Char.isDigit_iff_toNat.1 hc
  simp only [Char.reduceToNat] at low high
  have : Nat.digitChar (c.toNat - 48) = c := by
    rw [← Char.toNat_inj, Nat.toNat_digitChar_of_lt_ten (by omega)]
    omega
  exact this ▸ h (c.toNat - 48) (by omega)

theorem isDigit_of_mem_numeral {n : Nat} {c : Char} (h : c ∈ Nat.toDigits 10 n) : c.isDigit :=
  Nat.isDigit_of_mem_toDigits (by decide) (by decide) h

theorem takeWhile_numeral {n : Nat} {rest : List Char} (h : EndsNumeral rest) :
    (Nat.toDigits 10 n ++ rest).takeWhile Char.isDigit = Nat.toDigits 10 n :=
  takeWhile_append_of_ends (fun _ => isDigit_of_mem_numeral) h

theorem dropWhile_numeral {n : Nat} {rest : List Char} (h : EndsNumeral rest) :
    (Nat.toDigits 10 n ++ rest).dropWhile Char.isDigit = rest :=
  dropWhile_append_of_ends (fun _ => isDigit_of_mem_numeral) h

/-- A numeral starts with a digit. -/
theorem numeral_append_ne_cons {n : Nat} {c : Char} {x y : List Char} (hc : c.isDigit = false) :
    Nat.toDigits 10 n ++ x ≠ c :: y := by
  obtain ⟨d, r, h⟩ := List.exists_cons_of_ne_nil (Nat.toDigits_ne_nil (n := n) (b := 10))
  have hd : d.isDigit := isDigit_of_mem_numeral (n := n) (h ▸ .head _)
  rw [h, List.cons_append]
  intro e
  rw [(List.cons.inj e).1, hc] at hd
  cases hd

theorem cons_ne_numeral_append {n : Nat} {c : Char} {x y : List Char} (hc : c.isDigit = false) :
    c :: y ≠ Nat.toDigits 10 n ++ x :=
  (numeral_append_ne_cons hc).symm

/-- The value of a numeral, digit by digit. -/
theorem foldl_toDigits (n : Nat) :
    (Nat.toDigits 10 n).foldl (fun n c => n * 10 + (c.toNat - 48)) 0 = n := by
  have value := Nat.ofDigitChars_ten_toDigits (n := n)
  rw [Nat.ofDigitChars_eq_foldl] at value
  simp only [Nat.mul_comm 10] at value
  exact value

theorem toDigits_inj {m n : Nat} : Nat.toDigits 10 m = Nat.toDigits 10 n ↔ m = n := by
  refine ⟨fun h => ?_, fun h => h ▸ rfl⟩
  rw [← Nat.ofDigitChars_ten_toDigits (n := m), h, Nat.ofDigitChars_ten_toDigits]

theorem numeral_append_inj {m n : Nat} {x y : List Char} (hx : EndsNumeral x)
    (hy : EndsNumeral y) : Nat.toDigits 10 m ++ x = Nat.toDigits 10 n ++ y ↔ m = n ∧ x = y := by
  refine ⟨fun h => ⟨toDigits_inj.1 ?_, ?_⟩, fun ⟨hm, hr⟩ => by rw [hm, hr]⟩
  · rw [← takeWhile_numeral hx, h, takeWhile_numeral hy]
  · rw [← dropWhile_numeral hx, h, dropWhile_numeral hy]

end LoadFleet
