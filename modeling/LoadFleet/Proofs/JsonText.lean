import LoadFleet.Proofs.NumberText
/-!
# Reading what was written

The text of a JSON value reads as this value, as long as the value is one that is written as it is:
no floating point number that does not read back, no single character and no map with other keys
than names.

* `Json.readText?_quote`: a quoted text reads as the text, by induction over its characters.
* `Json.Plain`: values that are written as they are.
* `Json.readValue?_write`: the text of such a value reads as the value, by induction over it, and
  the reader stops at its end.
* `Json.read?_compact`: the main statement.
-/

namespace LoadFleet.Json

/-! ### Texts -/

theorem hexDigit?_digitChar : ∀ n < 16, hexDigit? (Nat.digitChar n) = some n := by decide

theorem readUnits?_letter {e c : Char} (h : unescape? e = some c) (text : List Char) :
    readUnits? ('\\' :: e :: text) =
      (readUnits? text).map fun (us, rest) => (.char c :: us, rest) := by
  rw [readUnits?.eq_def]
  split
  · simp_all
  · simp_all
  · next he => cases he; simp [unescape?] at h
  · next he => cases he; rw [h]
  · next he => cases he; simp at *

theorem readUnits?_plain {c : Char} (quote : c ≠ '"') (backslash : c ≠ '\\') (h : 32 ≤ c.toNat)
    (text : List Char) :
    readUnits? (c :: text) = (readUnits? text).map fun (us, rest) => (.char c :: us, rest) := by
  rw [readUnits?.eq_def]
  split
  · next he => cases he
  · next he => cases he; exact absurd rfl quote
  · next he => cases he; exact absurd rfl backslash
  · next he => cases he; exact absurd rfl backslash
  · next he => cases he; rw [if_neg (Nat.not_lt.2 h)]

/-- A control character is written as its number. -/
theorem readUnits?_control {c : Char} (h : c.toNat < 32) (text : List Char) :
    readUnits? ('\\' :: 'u' :: '0' :: '0' :: Nat.digitChar (c.toNat / 16) ::
        Nat.digitChar (c.toNat % 16) :: text) =
      (readUnits? text).map fun (us, rest) => (.char c :: us, rest) := by
  have word : hexWord? '0' '0' (Nat.digitChar (c.toNat / 16)) (Nat.digitChar (c.toNat % 16)) =
      some c.toNat := by
    have zero : hexDigit? '0' = some 0 := rfl
    rw [hexWord?, zero, hexDigit?_digitChar _ (by omega), hexDigit?_digitChar _ (by omega)]
    simp only [Option.bind_eq_bind, Option.bind_some, Option.pure_def]
    congr 1
    omega
  have unit : unitOf c.toNat = .char c := by
    rw [unitOf, if_neg (by omega), Char.ofNat_toNat]
  rw [readUnits?, word]
  simp only [unit]

/-- The escape of a character reads as the character. -/
theorem readUnits?_escape (c : Char) (text : List Char) :
    readUnits? (escape c ++ text) =
      (readUnits? text).map fun (us, rest) => (.char c :: us, rest) := by
  rw [escape.eq_def]
  split
  · exact readUnits?_letter rfl text
  · exact readUnits?_letter rfl text
  · exact readUnits?_letter rfl text
  · exact readUnits?_letter rfl text
  · exact readUnits?_letter rfl text
  · next quote backslash _ _ _ =>
    split
    · next h => exact readUnits?_letter (by rw [← Char.ofNat_toNat c, h]; rfl) text
    · split
      · next h => exact readUnits?_letter (by rw [← Char.ofNat_toNat c, h]; rfl) text
      · split
        · next h => exact readUnits?_control h text
        · next h => exact readUnits?_plain quote backslash (Nat.le_of_not_lt h) text

theorem joinUnits?_chars (l : List Char) : joinUnits? (l.map .char) = some l := by
  induction l with
  | nil => rfl
  | cons c r ih => rw [List.map_cons, joinUnits?, ih]; rfl

theorem readUnits?_escapes (l : List Char) (rest : List Char) :
    readUnits? (l.flatMap escape ++ '"' :: rest) = some (l.map .char, rest) := by
  induction l with
  | nil => rfl
  | cons c r ih =>
    rw [List.flatMap_cons, List.append_assoc, readUnits?_escape, ih]
    rfl

/-- A quoted text reads as the text. -/
theorem readText?_escapes (s : String) (rest : List Char) :
    readText? (s.toList.flatMap escape ++ '"' :: rest) = some (some s, rest) := by
  simp only [readText?, readUnits?_escapes, Option.map_some, joinUnits?_chars,
    String.ofList_toList]

/-! ### Names -/

/-- A digit is written as it is. -/
theorem escape_digit {c : Char} (h : c.isDigit) : escape c = [c] :=
  forall_digit (p := fun c => escape c = [c]) (by decide) h

/-- No name that was written hides digits. -/
theorem hidesDigits_escapes (name : String) (rest : List Char) :
    hidesDigits name (name.toList.flatMap escape ++ '"' :: rest) = false := by
  rw [hidesDigits, Bool.and_eq_false_imp, List.all_eq_true]
  intro digits
  have written : name.toList.flatMap escape = name.toList := by
    rw [List.flatMap_def, List.map_congr_left fun c hc => escape_digit (digits c hc),
      ← List.flatMap_def, List.flatMap_singleton']
  have inside (c : Char) (hc : c ∈ name.toList) : decide (c ≠ '"') = true :=
    forall_digit (p := fun c => decide (c ≠ '"') = true) (by decide) (digits c hc)
  rw [written, List.takeWhile_append_of_pos inside]
  simp only [ne_eq, not_true_eq_false, decide_false, Bool.false_eq_true, not_false_eq_true,
    List.takeWhile_cons_of_neg, List.append_nil, List.contains_eq_mem, decide_eq_false_iff_not]
  intro backslash
  cases digits _ backslash

theorem readName?_escapes (name : String) (rest : List Char) :
    readName? (name.toList.flatMap escape ++ '"' :: rest) = some (some ⟨name, false⟩, rest) := by
  simp only [readName?, readText?_escapes, Option.map_some, hidesDigits_escapes]

/-! ### Values -/

/-- Values that are written as they are. -/
inductive Plain : Json → Prop where
  | null : Plain null
  | bool (b : Bool) : Plain (bool b)
  | nat (n : UInt64) : Plain (nat n)
  | negative {n : UInt64} (nonzero : n ≠ 0) (small : n.toNat ≤ 0x8000000000000000) :
    Plain (negative n)
  | float {x : Float} (h : Rereads x) : Plain (float x)
  | str (s : String) : Plain (str s)
  | arr {items : List Json} (h : ∀ j ∈ items, Plain j) : Plain (arr items)
  | obj {members : List (String × Json)} (h : ∀ m ∈ members, Plain m.2) : Plain (obj members)

/-- The text of a value does not start with a blank or the end of an array. -/
theorem Plain.write_eq_cons {j : Json} (h : Plain j) :
    ∃ c r, j.write = c :: r ∧ isSpace c = false ∧ c ≠ ']' := by
  cases h with
  | null => exact ⟨'n', _, rfl, by decide⟩
  | bool b => cases b <;> exact ⟨_, _, rfl, by decide⟩
  | nat n =>
    obtain ⟨c, r, h, digit⟩ := toDigits_eq_cons n.toNat
    have starts := (InNumber.of_isDigit digit).starts
    exact ⟨c, r, by rw [write, Nat.toList_repr, h], starts.1, by simp [starts]⟩
  | negative => exact ⟨'-', _, rfl, by decide⟩
  | float h =>
    obtain ⟨⟨c, r, h, number⟩, -⟩ := h.number
    exact ⟨c, r, h, number.starts.1, by simp [number.starts]⟩
  | str s => exact ⟨'"', _, rfl, by decide⟩
  | arr => exact ⟨'[', _, rfl, by decide⟩
  | obj => exact ⟨'\x7b', _, rfl, by decide⟩

theorem skipSpace_cons {c : Char} (h : isSpace c = false) (r : List Char) :
    skipSpace (c :: r) = c :: r := by
  rw [skipSpace, List.dropWhile_cons_of_neg (by simp [h])]

/-- The text of a value reads as the value, and what follows it is left. -/
def Reads (j : Json) : Prop :=
  ∀ steps rest, 2 * j.write.length ≤ steps → EndsNumber rest →
    readValue? steps (j.write ++ rest) = some (j, rest)

theorem endsNumber_cons {c : Char} (h : c = ',' ∨ c = ']' ∨ c = '\x7d') (r : List Char) :
    EndsNumber (c :: r) := by
  rintro d ⟨⟩
  rcases h with rfl | rfl | rfl <;> decide

theorem readItems?_write {items : List Json} (nonempty : items ≠ []) (h : ∀ j ∈ items, Reads j)
    (read : List Json) {steps : Nat} (enough : 2 * (writeItems items).length ≤ steps)
    (rest : List Char) :
    readItems? steps read (writeItems items ++ rest) =
      some (.arr (read.reverse ++ items), rest) := by
  induction items generalizing read steps with
  | nil => exact absurd rfl nonempty
  | cons j r ih =>
    obtain ⟨reads, others⟩ := List.forall_mem_cons.1 h
    cases r with
    | nil =>
      simp only [writeItems, List.length_append, List.length_singleton] at enough
      obtain ⟨steps, rfl⟩ : ∃ s, steps = s + 1 := ⟨steps - 1, by omega⟩
      rw [writeItems, List.append_assoc, List.singleton_append, readItems?,
        reads steps _ (by omega) (endsNumber_cons (by simp) _)]
      simp [skipSpace_cons (c := ']') rfl]
    | cons k r =>
      simp only [writeItems, List.length_append, List.length_cons] at enough ih
      obtain ⟨steps, rfl⟩ : ∃ s, steps = s + 1 := ⟨steps - 1, by omega⟩
      rw [writeItems, List.append_assoc, List.cons_append, readItems?,
        reads steps _ (by omega) (endsNumber_cons (by simp) _)]
      simp only [skipSpace_cons (c := ',') rfl]
      rw [ih (List.cons_ne_nil k r) others (j :: read) (by omega), List.reverse_cons,
        List.append_assoc, List.singleton_append]

/-- A member as it is read. -/
def readMember (m : String × Json) : Option Name × Json := (some ⟨m.1, false⟩, m.2)

/-- Reading each of a list of things that were written gives them all, if it gives each. -/
theorem mapM_map_eq_some {α β γ : Type} {l : List α} {write : α → β} {read : β → Option γ}
    {g : α → γ} (h : ∀ a ∈ l, read (write a) = some (g a)) :
    (l.map write).mapM read = some (l.map g) := by
  induction l with
  | nil => rfl
  | cons a r ih =>
    obtain ⟨here, others⟩ := List.forall_mem_cons.1 h
    rw [List.map_cons, List.mapM_cons, here, ih others]
    rfl

theorem objectOf_readMembers (members : List (String × Json)) :
    objectOf (members.map readMember).reverse = .obj members := by
  rw [objectOf, List.reverse_reverse,
    mapM_map_eq_some (g := fun m : String × Json => (⟨m.1, false⟩, m.2))]
  · simp [Function.comp_def]
  · exact fun m hm => rfl

theorem readMembers?_write {members : List (String × Json)} (nonempty : members ≠ [])
    (h : ∀ m ∈ members, Reads m.2) (read : List (Option Name × Json)) {steps : Nat}
    (enough : 2 * (writeMembers members).length ≤ steps) (rest : List Char) :
    readMembers? steps read (writeMembers members ++ rest) =
      some (objectOf ((members.map readMember).reverse ++ read), rest) := by
  induction members generalizing read steps with
  | nil => exact absurd rfl nonempty
  | cons m r ih =>
    obtain ⟨name, j⟩ := m
    obtain ⟨(reads : Reads j), others⟩ := List.forall_mem_cons.1 h
    cases r with
    | nil =>
      simp only [writeMembers, quote, List.length_append, List.length_cons] at enough
      obtain ⟨steps, rfl⟩ : ∃ s, steps = s + 1 := ⟨steps - 1, by omega⟩
      simp only [writeMembers, quote, List.append_assoc, List.cons_append, List.nil_append,
        readMembers?, skipSpace_cons (c := '"') rfl, readName?_escapes,
        skipSpace_cons (c := ':') rfl]
      rw [reads steps _ (by omega) (endsNumber_cons (by simp) _)]
      simp [skipSpace_cons (c := '\x7d') rfl, readMember]
    | cons k r =>
      simp only [writeMembers, quote, List.length_append, List.length_cons] at enough ih
      obtain ⟨steps, rfl⟩ : ∃ s, steps = s + 1 := ⟨steps - 1, by omega⟩
      simp only [writeMembers, quote, List.append_assoc, List.cons_append, List.nil_append,
        readMembers?, skipSpace_cons (c := '"') rfl, readName?_escapes,
        skipSpace_cons (c := ':') rfl]
      rw [reads steps _ (by omega) (endsNumber_cons (by simp) _)]
      simp only [skipSpace_cons (c := ',') rfl]
      rw [ih (List.cons_ne_nil k r) others _ (by omega), List.map_cons (a := (name, j)),
        List.reverse_cons, List.append_assoc, List.singleton_append]
      rfl

/-- The text of a value is not empty, so there is a step to take. -/
theorem Plain.reads_of_succ {j : Json} (h : Plain j)
    (read : ∀ steps rest, 2 * j.write.length ≤ steps + 1 → EndsNumber rest →
      readValue? (steps + 1) (j.write ++ rest) = some (j, rest)) : Reads j := by
  obtain ⟨c, r, hc, -⟩ := h.write_eq_cons
  intro steps rest enough ends
  obtain ⟨steps, rfl⟩ : ∃ s, steps = s + 1 := by
    rw [hc, List.length_cons] at enough
    exact ⟨steps - 1, by omega⟩
  exact read steps rest enough ends

theorem Plain.reads {j : Json} (h : Plain j) : Reads j := by
  induction h with
  | null =>
    refine reads_of_succ .null fun steps rest enough ends => ?_
    rfl
  | bool b =>
    refine reads_of_succ (.bool b) fun steps rest enough ends => ?_
    cases b <;> rfl
  | nat n =>
    refine reads_of_succ (.nat n) fun steps rest enough ends => ?_
    obtain ⟨c, r, h, digit⟩ := toDigits_eq_cons n.toNat
    have read := readNumber?_numeral n ends
    rw [write, Nat.toList_repr]
    rw [h, List.cons_append] at read ⊢
    rwa [readValue?_number (.of_isDigit digit)]
  | negative nonzero small =>
    refine reads_of_succ (.negative nonzero small) fun steps rest enough ends => ?_
    rw [write, Nat.toList_repr, List.cons_append, readValue?_number (by simp [InNumber])]
    exact readNumber?_negative nonzero small ends
  | float h =>
    refine reads_of_succ (.float h) fun steps rest enough ends => ?_
    obtain ⟨⟨c, r, text, number⟩, read⟩ := h.number
    have read := readNumber?_append ends read
    rw [write]
    rw [text, List.cons_append] at read ⊢
    rwa [readValue?_number number]
  | str s =>
    refine reads_of_succ (.str s) fun steps rest enough ends => ?_
    simp [write, quote, readValue?, skipSpace_cons (c := '"') rfl, readText?_escapes]
  | @arr items h ih =>
    refine reads_of_succ (.arr h) fun steps rest enough ends => ?_
    cases items with
    | nil => rfl
    | cons j r =>
      simp only [write, List.length_cons] at enough
      have read := readItems?_write (List.cons_ne_nil j r) ih [] (by omega : 2 * _ ≤ steps)
        rest
      obtain ⟨c, t, hc, space, bracket⟩ := (h j (.head _)).write_eq_cons
      obtain ⟨t, ht⟩ : ∃ t, writeItems (j :: r) = c :: t := by
        cases r <;> simp [writeItems, hc]
      rw [ht, List.cons_append] at read
      rw [write, List.cons_append, readValue?, skipSpace_cons rfl, ht, List.cons_append]
      simp only [skipSpace_cons space]
      split
      · next he => exact absurd (List.cons.inj he).1 bracket
      · exact read
  | @obj members h ih =>
    refine reads_of_succ (.obj h) fun steps rest enough ends => ?_
    cases members with
    | nil => rfl
    | cons m r =>
      simp only [write, List.length_cons] at enough
      have read := readMembers?_write (List.cons_ne_nil m r) ih [] (by omega : 2 * _ ≤ steps)
        rest
      obtain ⟨t, ht⟩ : ∃ t, writeMembers (m :: r) = '"' :: t := by
        cases r <;> simp [writeMembers, quote]
      rw [ht, List.cons_append] at read
      rw [write, List.cons_append, readValue?, skipSpace_cons rfl, ht, List.cons_append]
      simp only [skipSpace_cons (c := '"') rfl]
      exact read.trans (by rw [List.append_nil, objectOf_readMembers])

/-- **What was written reads as it was.** -/
theorem read?_compact {j : Json} (h : Plain j) : read? j.compact = some j := by
  have := h.reads (2 * j.write.length + 2) [] (by omega) nofun
  rw [List.append_nil] at this
  simp only [read?, compact, String.toList_ofList, this]
  rfl

end LoadFleet.Json
