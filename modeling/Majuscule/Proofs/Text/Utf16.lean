import Majuscule.Text.Utf16

/-!
# Columns and code units in UTF-16

A column counts the code units before a place of a line. Each character has one unit or two, so
columns grow along the line and stay within its length.

The units of a text determine it (`encode_inj`) : a surrogate is no character on its own, so the
first unit of a character tells how many there are (`units_append_inj`). For the same reason a line
feed is found among the units exactly where it is found among the characters (`mem_encode_iff`).
-/

namespace Majuscule.Text.Utf16

/-! ## Columns -/

theorem width_pos (c : Char) : 0 < width c := by
  unfold width
  split <;> decide

theorem length_take_le (n : Nat) (cs : List Char) : length (cs.take n) ≤ length cs := by
  have h := length_append (cs.take n) (cs.drop n)
  rw [List.take_append_drop] at h
  omega

theorem length_le_length (cs : List Char) : cs.length ≤ length cs := by
  induction cs with
  | nil => exact Nat.le_refl 0
  | cons c cs ih =>
    have hpos := width_pos c
    rw [length, List.length_cons]
    omega

/-! ## Code units -/

/-- A character is no surrogate. -/
theorem toNat_lt_or_gt (c : Char) : c.toNat < 0xD800 ∨ 0xDFFF < c.toNat ∧ c.toNat < 0x110000 :=
  c.valid

theorem toNat_toUInt16 {n : Nat} (h : n < 0x10000) : n.toUInt16.toNat = n :=
  Nat.mod_eq_of_lt h

theorem units_of_lt {c : Char} (h : c.toNat < 0x10000) :
    ∃ u : UInt16, units c = [u] ∧ u.toNat = c.toNat :=
  ⟨c.toNat.toUInt16, by rw [units, if_pos h], toNat_toUInt16 h⟩

theorem units_of_ge {c : Char} (h : ¬ c.toNat < 0x10000) :
    ∃ u v : UInt16, units c = [u, v] ∧ u.toNat = 0xD800 + (c.toNat - 0x10000) / 0x400 ∧
      v.toNat = 0xDC00 + (c.toNat - 0x10000) % 0x400 := by
  have hc := toNat_lt_or_gt c
  exact ⟨_, _, by rw [units, if_neg h], toNat_toUInt16 (by omega), toNat_toUInt16 (by omega)⟩

/-- The first units of a text are those of its first character only. -/
theorem units_append_inj {c d : Char} {us vs : List UInt16} (h : units c ++ us = units d ++ vs) :
    c = d ∧ us = vs := by
  have hc := toNat_lt_or_gt c
  have hd := toNat_lt_or_gt d
  by_cases hclt : c.toNat < 0x10000
  · obtain ⟨u, hunits, hu⟩ := units_of_lt hclt
    by_cases hdlt : d.toNat < 0x10000
    · obtain ⟨v, hunits', hv⟩ := units_of_lt hdlt
      rw [hunits, hunits'] at h
      obtain ⟨rfl, rfl⟩ := List.cons.inj h
      exact ⟨Char.toNat_inj.mp (hu.symm.trans hv), rfl⟩
    · obtain ⟨v, v', hunits', hv, -⟩ := units_of_ge hdlt
      rw [hunits, hunits'] at h
      obtain ⟨rfl, -⟩ := List.cons.inj h
      omega
  · obtain ⟨u, u', hunits, hu, hu'⟩ := units_of_ge hclt
    by_cases hdlt : d.toNat < 0x10000
    · obtain ⟨v, hunits', hv⟩ := units_of_lt hdlt
      rw [hunits, hunits'] at h
      obtain ⟨rfl, -⟩ := List.cons.inj h
      omega
    · obtain ⟨v, v', hunits', hv, hv'⟩ := units_of_ge hdlt
      rw [hunits, hunits'] at h
      obtain ⟨rfl, htail⟩ := List.cons.inj h
      obtain ⟨rfl, rfl⟩ := List.cons.inj htail
      exact ⟨Char.toNat_inj.mp (by omega), rfl⟩

theorem units_ne_nil (c : Char) : units c ≠ [] := by
  intro hnil
  have hlength := length_units c
  have hpos := width_pos c
  rw [hnil, List.length_nil] at hlength
  omega

/-- The code units of a text determine it. -/
theorem encode_inj {as bs : List Char} : encode as = encode bs ↔ as = bs := by
  refine ⟨fun h => ?_, congrArg encode⟩
  induction as generalizing bs with
  | nil =>
    cases bs with
    | nil => rfl
    | cons b bs => exact absurd (List.append_eq_nil_iff.mp h.symm).1 (units_ne_nil b)
  | cons a as ih =>
    cases bs with
    | nil => exact absurd (List.append_eq_nil_iff.mp h).1 (units_ne_nil a)
    | cons b bs =>
      obtain ⟨rfl, htail⟩ := units_append_inj h
      rw [ih htail]

/-- The units between the columns of two places of a text are those of the
characters between them. -/
theorem drop_take_encode (as w bs : List Char) :
    ((encode (as ++ w ++ bs)).take (length as + length w)).drop (length as) = encode w := by
  have hstop : length as + length w = (encode (as ++ w)).length := by
    rw [length_encode, length_append]
  rw [encode_append (as ++ w), hstop, List.take_left, encode_append, ← length_encode as,
    List.drop_left]

/-! ## Line feeds -/

/-- The code unit of a line feed. -/
def lineFeed : UInt16 := 10

theorem units_lineFeed : units '\n' = [lineFeed] := rfl

theorem mem_units_iff {c : Char} : lineFeed ∈ units c ↔ c = '\n' := by
  constructor
  · intro h
    by_cases hlt : c.toNat < 0x10000
    · obtain ⟨u, hunits, hu⟩ := units_of_lt hlt
      rw [hunits, List.mem_singleton] at h
      exact Char.toNat_inj.mp (by rw [← hu, ← h]; rfl)
    · obtain ⟨u, v, hunits, hu, hv⟩ := units_of_ge hlt
      have hfeed : lineFeed.toNat = 10 := rfl
      rw [hunits, List.mem_cons, List.mem_singleton] at h
      obtain rfl | rfl := h <;> omega
  · rintro rfl
    rw [units_lineFeed]
    exact List.mem_singleton_self lineFeed

theorem mem_encode_iff {cs : List Char} : lineFeed ∈ encode cs ↔ '\n' ∈ cs := by
  induction cs with
  | nil => simp [encode]
  | cons c cs ih => rw [encode, List.mem_append, mem_units_iff, ih, List.mem_cons, eq_comm]

end Majuscule.Text.Utf16
