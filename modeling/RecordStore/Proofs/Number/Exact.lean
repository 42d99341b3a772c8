import RecordStore.Number.Double

namespace RecordStore

/-!
# Integers among the doubles

A double that stands for an integer is the double nearest to that integer, up to the sign of zero.
So nothing is lost where such a double is held as an integer and made a double again.
-/

theorem twoTo_add (m n : Nat) : twoTo (m + n) = twoTo m * twoTo n :=
  Nat.pow_add 2 m n

theorem twoTo_le_twoTo {m n : Nat} (h : m ≤ n) : twoTo m ≤ twoTo n :=
  Nat.pow_le_pow_right Nat.two_pos h

theorem log2_eq_iff {n k : Nat} (hn : n ≠ 0) : n.log2 = k ↔ twoTo k ≤ n ∧ n < twoTo (k + 1) :=
  Nat.log2_eq_iff hn

theorem roundEven_mul_self {den : Nat} (n : Nat) (h : 0 < den) : roundEven (n * den) den = n := by
  simp [roundEven, Nat.mul_div_cancel n h, h]

theorem log2_mul_twoTo {n : Nat} (hn : n ≠ 0) (k : Nat) : (n * twoTo k).log2 = n.log2 + k := by
  have hpow := twoTo_pos k
  obtain ⟨hlow, hhigh⟩ := (log2_eq_iff hn).mp rfl
  refine (log2_eq_iff (Nat.mul_ne_zero hn (Nat.ne_of_gt hpow))).mpr ⟨?_, ?_⟩
  · rw [twoTo_add]
    exact Nat.mul_le_mul_right _ hlow
  · rw [Nat.add_right_comm, twoTo_add]
    exact Nat.mul_lt_mul_of_pos_right hhigh hpow

namespace Double

variable {x : Double}

theorem fraction_lt (x : Double) : x.fraction < twoTo 52 :=
  Nat.mod_lt _ (twoTo_pos 52)

/-- An encoding is put together of its sign, its exponent and its fraction. -/
theorem ofParts_fields (x : Double) :
    ofParts x.isNegative (x.exponentField * twoTo 52 + x.fraction) = x := by
  obtain ⟨bits⟩ := x
  have hbits := bits.toNat_lt
  have htwo : twoTo 63 = 9223372036854775808 ∧ twoTo 52 = 4503599627370496 := ⟨rfl, rfl⟩
  have hsum : bits.toNat / twoTo 52 % 2048 * twoTo 52 + bits.toNat % twoTo 52
      + (if twoTo 63 ≤ bits.toNat then twoTo 63 else 0) = bits.toNat := by
    rw [htwo.1, htwo.2]
    split <;> omega
  simp only [ofParts, isNegative, exponentField, fraction, decide_eq_true_eq, hsum,
    UInt64.ofNat_toNat]

theorem sameNumber_self (h : x.isNaN = false) : x.sameNumber x = true := by
  simp [sameNumber, h]

theorem isNaN_of_isFinite (h : x.isFinite = true) : x.isNaN = false := by
  simp only [isFinite, bne_iff_ne, ne_eq] at h
  simp [isNaN, h]

/-- A normal number has a mantissa of 53 bits. -/
theorem log2_mantissa (h : x.exponentField ≠ 0) : x.mantissa.log2 = 52 := by
  have hlt := x.fraction_lt
  rw [mantissa, if_neg h, log2_eq_iff (by omega), twoTo_succ 52]
  omega

section

variable {n : Nat}

/-- A positive integer that is a double is a normal one. -/
theorem exponentField_ne_zero (hn : n ≠ 0) (h : n * x.denominator = x.numerator) :
    x.exponentField ≠ 0 := by
  intro hzero
  have hlt := x.fraction_lt
  have hpower : x.power = -1074 := by rw [power, if_pos hzero]
  have hnumerator : x.numerator = x.fraction := by
    simp [numerator, mantissa, hzero, hpower]
  have hwide : 52 ≤ (-x.power).toNat := by
    rw [hpower]
    decide
  have hdenominator : twoTo 52 ≤ x.denominator := twoTo_le_twoTo hwide
  have hle : x.denominator ≤ n * x.denominator := Nat.le_mul_of_pos_left _ (by omega)
  omega

theorem log2_eq_power (hn : n ≠ 0) (h : n * x.denominator = x.numerator) :
    (n.log2 : Int) = x.power + 52 := by
  have hnormal := exponentField_ne_zero hn h
  have hmantissa : x.mantissa ≠ 0 := by
    intro hzero
    have hlog := log2_mantissa hnormal
    rw [hzero] at hlog
    cases hlog
  have hlog := congrArg Nat.log2 h
  rw [denominator, numerator, log2_mul_twoTo hn, log2_mul_twoTo hmantissa,
    log2_mantissa hnormal] at hlog
  omega

/-- The rough scale of an integer is one too small, as its leading bit shows. -/
theorem scaleOf_one (hn : n ≠ 0) : scaleOf n 1 = max ((n.log2 : Int) - 52) (-1074) := by
  have hlow : twoTo n.log2 ≤ n := ((log2_eq_iff hn).mp rfl).1
  have hone : Nat.log2 1 = 0 := by decide
  have hrough : ¬ (if 0 ≤ (n.log2 : Int) - 53 then n < 1 * twoTo (53 + ((n.log2 : Int) - 53).toNat)
      else n * twoTo (-((n.log2 : Int) - 53)).toNat < 1 * twoTo 53) := by
    split
    · next hwide =>
      have hwhole : 53 + ((n.log2 : Int) - 53).toNat = n.log2 := by omega
      rw [hwhole]
      omega
    · next hnarrow =>
      have hwhole : 53 = n.log2 + (-((n.log2 : Int) - 53)).toNat := by omega
      rw [Nat.one_mul, Nat.not_lt]
      calc twoTo 53 = twoTo n.log2 * twoTo (-((n.log2 : Int) - 53)).toNat := by
            rw [← twoTo_add, ← hwhole]
        _ ≤ n * twoTo (-((n.log2 : Int) - 53)).toNat := Nat.mul_le_mul_right _ hlow
  simp only [scaleOf, hone, Int.natCast_zero, Int.sub_zero, if_neg hrough]
  congr 1
  omega

/-- Rounding a positive integer that is a double gives the fields of the double back. -/
theorem magnitudeOf_eq_fields (hn : n ≠ 0) (hfinite : x.isFinite = true)
    (h : n * x.denominator = x.numerator) :
    magnitudeOf n 1 = x.exponentField * twoTo 52 + x.fraction := by
  have hnormal := exponentField_ne_zero hn h
  have hlt := x.fraction_lt
  have hfield : x.exponentField < 2048 := Nat.mod_lt _ (by decide)
  have hfinite : x.exponentField ≠ 2047 := by simpa [isFinite] using hfinite
  have hpower : x.power = (x.exponentField : Int) - 1075 := by rw [power, if_neg hnormal]
  have hscale : scaleOf n 1 = x.power := by
    have hlog := log2_eq_power hn h
    rw [scaleOf_one hn]
    omega
  have hrounded : roundEven (n * x.denominator) (1 * twoTo x.power.toNat) = x.mantissa := by
    rw [h, numerator, Nat.one_mul, roundEven_mul_self _ (twoTo_pos _)]
  have hplace : (x.power + 1074).toNat + 1 = x.exponentField := by omega
  have hmantissa : x.mantissa = x.fraction + twoTo 52 := by rw [mantissa, if_neg hnormal]
  have hwhole : (x.power + 1074).toNat * twoTo 52 + x.mantissa
      = x.exponentField * twoTo 52 + x.fraction := by
    rw [← hplace, Nat.succ_mul, hmantissa]
    omega
  have hfits : x.exponentField * twoTo 52 + x.fraction ≤ infiniteMagnitude := by
    have hle : (x.exponentField + 1) * twoTo 52 ≤ 2047 * twoTo 52 :=
      Nat.mul_le_mul_right _ (by omega)
    rw [Nat.succ_mul] at hle
    rw [infiniteMagnitude]
    omega
  rw [denominator] at hrounded
  simp only [magnitudeOf, if_neg hn, hscale, hrounded, hwhole, Nat.min_eq_left hfits]

end

theorem isZero_of_numerator (h : x.numerator = 0) : x.isZero = true := by
  have hmantissa : x.mantissa = 0 := by
    rcases Nat.mul_eq_zero.mp h with hmantissa | hpow
    · exact hmantissa
    · exact absurd hpow (Nat.ne_of_gt (twoTo_pos _))
  have hpow := twoTo_pos 52
  unfold mantissa at hmantissa
  split at hmantissa
  · next hfield => simp [isZero, hfield, hmantissa]
  · omega

/-- A double that stands for an integer is the double of that integer. -/
theorem sameNumber_ofInt {n : Int} (h : x.toInt? = some n) : x.sameNumber (ofInt n) = true := by
  unfold toInt? at h
  split at h
  · next hwhole =>
    simp only [Bool.and_eq_true, beq_iff_eq] at hwhole
    obtain ⟨hfinite, hdvd⟩ := hwhole
    have hmul : x.numerator / x.denominator * x.denominator = x.numerator :=
      Nat.div_mul_cancel (Nat.dvd_of_mod_eq_zero hdvd)
    have hn := Option.some.inj h
    generalize x.numerator / x.denominator = magnitude at hmul hn
    by_cases hzero : magnitude = 0
    · subst hzero
      obtain rfl : n = 0 := by simpa using hn.symm
      have hx : x.isZero = true := isZero_of_numerator (by rw [← hmul, Nat.zero_mul])
      have hofInt : (ofInt 0).isNaN = false ∧ (ofInt 0).isZero = true := by decide
      simp [sameNumber, isNaN_of_isFinite hfinite, hofInt.1, hofInt.2, hx]
    · have hsign : decide (n < 0) = x.isNegative := by
        rw [← hn]
        cases x.isNegative
        · simp
        · simpa using Nat.pos_of_ne_zero hzero
      have habs : n.natAbs = magnitude := by
        rw [← hn]
        split <;> omega
      have hsame : ofInt n = x := by
        rw [ofInt, ofQuotient, hsign, habs, magnitudeOf_eq_fields hzero hfinite hmul,
          ofParts_fields]
      rw [hsame]
      exact sameNumber_self (isNaN_of_isFinite hfinite)
  · cases h

end Double

end RecordStore
