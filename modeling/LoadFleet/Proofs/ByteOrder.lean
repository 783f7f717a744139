import LoadFleet.Store.Operation
import Mathlib.Data.List.Lex
/-!
# The order of texts by their bytes

The bytes of a text are the UTF-8 forms of its characters. Forms of different characters differ
before either of them ends, and first where the greater character has the greater byte. So texts
are ordered by their bytes as they are by their characters.

* `append_lt_append_of_char_lt`: by cases on the number of bytes of two characters.
* `Bytes.ofString_lt_of_compare`: by induction on the first character in which two texts differ.
-/

namespace LoadFleet

/-- The bytes of a greater character come later, whatever follows them. -/
theorem append_lt_append_of_char_lt {c d : Char} (less : c < d) (r s : List UInt8) :
    String.utf8EncodeChar c ++ r < String.utf8EncodeChar d ++ s := by
  have below : c.val.toNat < d.val.toNat := UInt32.lt_iff_toNat_lt.1 less
  have limit : d.val.toNat < 0x110000 := by
    have valid := d.valid
    rw [UInt32.isValidChar, Nat.isValidChar] at valid
    omega
  -- each byte but the first holds one digit to the base 64
  have digits (n : Nat) : n / 4096 = n / 64 / 64 ∧ n / 262144 = n / 64 / 64 / 64 := by omega
  simp only [String.utf8EncodeChar, digits]
  generalize c.val.toNat = v at *
  generalize d.val.toNat = w at *
  split_ifs <;>
    simp only [List.cons_append, List.nil_append, List.cons_lt_cons_iff, UInt8.lt_iff_toNat_lt,
      ← UInt8.toNat_inj, UInt8.toNat_ofNat'] <;>
    omega

theorem flatMap_lt_flatMap_of_lt {a b : List Char} (less : a < b) :
    a.flatMap String.utf8EncodeChar < b.flatMap String.utf8EncodeChar := by
  induction less with
  | @nil d b =>
    rw [List.flatMap_nil, List.flatMap_cons]
    cases form : String.utf8EncodeChar d with
    | nil => exact absurd form String.utf8EncodeChar_ne_nil
    | cons => exact .nil
  | @cons c a b less ih =>
    rw [List.flatMap_cons, List.flatMap_cons]
    exact List.Lex.append_left _ ih _
  | rel less =>
    rw [List.flatMap_cons, List.flatMap_cons]
    exact append_lt_append_of_char_lt less _ _

theorem Bytes.toList_ofString (s : String) :
    (Bytes.ofString s).toList = s.toList.flatMap String.utf8EncodeChar := by
  obtain ⟨l, rfl⟩ : ∃ l, s = String.ofList l := ⟨s.toList, String.ofList_toList.symm⟩
  simp [Bytes.ofString, List.utf8Encode]

/-- **Texts are in the order of their bytes.** -/
theorem Bytes.ofString_lt_of_compare {a b : String} (less : compare a b = .lt) :
    (Bytes.ofString a).toList < (Bytes.ofString b).toList := by
  rw [toList_ofString, toList_ofString]
  exact flatMap_lt_flatMap_of_lt (String.lt_iff.1 (compareOfLessAndEq_eq_lt.1 less))

end LoadFleet
