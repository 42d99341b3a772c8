import Mathlib.Algebra.Ring.Nat
import RecordStore.Number.Hex
import RecordStore.Number.Integer

namespace RecordStore

/-!
# Numbers that are read back

What is written of a 64-bit integer, or of a number in hexadecimal digits, is read as that number.
An integer is refused as soon as the digits read so far exceed its limit; no digits exceed the
number that they begin.
-/

/-! ## Integers -/

theorem le_ofDigitChars (digits : List Char) (n : Nat) : n ≤ Nat.ofDigitChars 10 digits n := by
  rw [Nat.ofDigitChars_eq_ofDigitChars_zero]
  exact Nat.le_add_right_of_le (Nat.le_mul_of_pos_left n (Nat.pow_pos (by decide)))

theorem readDigits_eq_ok {limit n : Nat} {overflow : IntegerFault} {digits : List Char}
    (hdigits : ∀ c ∈ digits, c.isDigit = true) (hlimit : Nat.ofDigitChars 10 digits n ≤ limit) :
    readDigits limit overflow n digits = .ok (Nat.ofDigitChars 10 digits n) := by
  induction digits generalizing n with
  | nil => rfl
  | cons c rest ih =>
      obtain ⟨hc, hrest⟩ := List.forall_mem_cons.mp hdigits
      rw [Nat.ofDigitChars_cons] at hlimit ⊢
      have hnext := Nat.le_trans (le_ofDigitChars rest _) hlimit
      rw [readDigits, if_pos hc, if_pos hnext]
      exact ih hrest hlimit

theorem readDigits_toDigits {limit n : Nat} (overflow : IntegerFault) (h : n ≤ limit) :
    readDigits limit overflow 0 (Nat.toDigits 10 n) = .ok n := by
  have hvalue : Nat.ofDigitChars 10 (Nat.toDigits 10 n) 0 = n :=
    Nat.ofDigitChars_toDigits (by decide) (by decide)
  have hdigits : ∀ c ∈ Nat.toDigits 10 n, c.isDigit = true := fun c hc ↦
    Nat.isDigit_of_mem_toDigits (by decide) (by decide) hc
  rw [readDigits_eq_ok hdigits (hvalue.symm ▸ h), hvalue]

theorem exists_toDigits (n : Nat) :
    ∃ c rest, Nat.toDigits 10 n = c :: rest ∧ c.isDigit = true := by
  obtain ⟨c, rest, hdigits⟩ := List.exists_cons_of_ne_nil (Nat.toDigits_ne_nil (n := n) (b := 10))
  have hmem : c ∈ Nat.toDigits 10 n := hdigits ▸ List.mem_cons_self
  exact ⟨c, rest, hdigits, Nat.isDigit_of_mem_toDigits (by decide) (by decide) hmem⟩

/-- Every integer is read back from its text, the two at the limits included. -/
theorem readInteger_integerChars (n : Int64) : readInteger (integerChars n.toInt) = .ok n := by
  have hleast := n.le_toInt
  have hgreatest := n.toInt_lt
  have htwo : twoTo 63 = 2 ^ 63 := rfl
  obtain ⟨c, rest, hdigits, hc⟩ := exists_toDigits n.toInt.natAbs
  by_cases hneg : n.toInt < 0
  · have hread := readDigits_toDigits .tooSmall
      (show n.toInt.natAbs ≤ twoTo 63 by rw [htwo]; omega)
    rw [hdigits] at hread
    have hvalue : -(n.toInt.natAbs : Int) = n.toInt := by omega
    rw [integerChars, if_pos hneg, hdigits]
    simp only [List.cons_append, List.nil_append, readInteger, hread, bind, Except.bind, pure,
      Except.pure, hvalue, Int64.ofInt_toInt]
  · have hread := readDigits_toDigits .tooLarge
      (show n.toInt.natAbs ≤ twoTo 63 - 1 by rw [htwo]; omega)
    rw [hdigits] at hread
    have hvalue : (n.toInt.natAbs : Int) = n.toInt := by omega
    have hminus : c ≠ '-' := by
      rintro rfl
      cases hc
    have hplus : c ≠ '+' := by
      rintro rfl
      cases hc
    rw [integerChars, if_neg hneg, hdigits, List.nil_append]
    simp [readInteger, hread, bind, Except.bind, pure, Except.pure, hvalue, hminus, hplus]

/-! ## Hexadecimal digits -/

theorem exists_of_mem_hexDigits {width n : Nat} {c : Char} (h : c ∈ hexDigits width n) :
    ∃ d < 16, c = Nat.digitChar d := by
  induction width generalizing n with
  | zero => cases h
  | succ width ih =>
      rcases List.mem_append.mp h with hmem | hmem
      · exact ih hmem
      · exact ⟨n % 16, Nat.mod_lt _ (by decide), List.mem_singleton.mp hmem⟩

theorem hexValue?_digitChar {d : Nat} (h : d < 16) : hexValue? (Nat.digitChar d) = some d :=
  (by decide : ∀ d < 16, hexValue? (Nat.digitChar d) = some d) d h

/-- As many digits as there are keep the rest of the number after division by their power. -/
theorem readHex?_hexDigits (width n : Nat) :
    readHex? (hexDigits width n) = some (n % 16 ^ width) := by
  induction width generalizing n with
  | zero => simp [hexDigits, readHex?, Nat.mod_one]
  | succ width ih =>
      have hlast := hexValue?_digitChar (Nat.mod_lt n (show 0 < 16 by decide))
      have hmod : n % 16 ^ (width + 1) = 16 * (n / 16 % 16 ^ width) + n % 16 := by
        rw [Nat.pow_succ, Nat.mul_comm, Nat.mod_mul, Nat.add_comm]
      have hread := ih (n / 16)
      unfold readHex? at hread ⊢
      rw [hexDigits, List.foldlM_append, hread, hmod]
      simp [hlast]

/-! ## Digits without a width -/

theorem exists_of_mem_toDigits {b n : Nat} (hb : 1 < b) {c : Char} (h : c ∈ Nat.toDigits b n) :
    ∃ d < b, c = Nat.digitChar d := by
  induction n using Nat.strongRecOn with
  | ind n ih =>
      by_cases hlt : n < b
      · rw [Nat.toDigits_of_lt_base hlt] at h
        exact ⟨n, hlt, List.mem_singleton.mp h⟩
      · have hle := Nat.not_lt.mp hlt
        rw [Nat.toDigits_of_base_le hb hle, List.mem_append, List.mem_singleton] at h
        rcases h with hmem | hlast
        · exact ih (n / b) (Nat.div_lt_self (by omega) hb) hmem
        · exact ⟨n % b, Nat.mod_lt _ (by omega), hlast⟩

theorem readHex?_toDigits (n : Nat) : readHex? (Nat.toDigits 16 n) = some n := by
  induction n using Nat.strongRecOn with
  | ind n ih =>
      by_cases hlt : n < 16
      · rw [Nat.toDigits_of_lt_base hlt]
        simp [readHex?, hexValue?_digitChar hlt]
      · have hlast := hexValue?_digitChar (Nat.mod_lt n (show 0 < 16 by decide))
        have hread := ih (n / 16) (Nat.div_lt_self (by omega) (by decide))
        unfold readHex? at hread ⊢
        rw [Nat.toDigits_of_base_le (by decide) (Nat.not_lt.mp hlt), List.foldlM_append, hread]
        simp [hlast, Nat.div_add_mod]

end RecordStore
