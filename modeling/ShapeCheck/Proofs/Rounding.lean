import Mathlib.Algebra.Field.Rat
import Mathlib.Data.Rat.Cast.Defs
import ShapeCheck.Number.Rounding

/-!
# Exact values and rounding

A finite number stands for a count of units of `2 ^ (-1074)`, and whether it is an integer, and
which one, is a matter of that count. Rounding is exact where it can be: a fraction that some finite
number stands for rounds to that number, with all of its bits, so that the number nearest to an
integer is equal to every number that is this integer.
-/

namespace ShapeCheck

theorem twoPow_add (a b : Nat) : twoPow (a + b) = twoPow a * twoPow b := Nat.pow_add 2 a b

namespace Double

variable {x y : Double} {n : Int} {significand shift : Nat}

theorem infinityBits_lt_signWeight : infinityBits < signWeight := by decide +kernel

/-- What the significand and the shift of a finite number are restricted to: a significand of at
most 53 bits, and exactly as many unless the shift is zero. -/
structure Canonical (significand shift : Nat) : Prop where
  lt : significand < twoPow 53
  normal : twoPow 52 ≤ significand ∨ shift = 0

theorem canonical_finiteParts (bits : Nat) :
    Canonical (finiteParts bits).1 (finiteParts bits).2 := by
  have hfraction : bits % twoPow 52 < twoPow 52 := Nat.mod_lt _ (twoPow_pos 52)
  have hdouble : twoPow 53 = twoPow 52 * 2 := twoPow_succ 52
  simp only [finiteParts]
  split
  · exact ⟨by omega, .inr rfl⟩
  · exact ⟨by omega, .inl (Nat.le_add_right _ _)⟩

/-- Magnitude bits count the finite numbers upwards from zero. -/
theorem bits_finiteParts (bits : Nat) :
    (finiteParts bits).2 * twoPow 52 + (finiteParts bits).1 = bits := by
  have hbits := Nat.div_add_mod' bits (twoPow 52)
  simp only [finiteParts]
  split
  case isTrue hzero =>
    rw [hzero] at hbits
    omega
  case isFalse hne =>
    obtain ⟨k, hk⟩ := Nat.exists_eq_succ_of_ne_zero hne
    rw [hk, Nat.succ_mul] at hbits
    rw [hk]
    show k * twoPow 52 + (twoPow 52 + bits % twoPow 52) = bits
    omega

/-- How many units the finite number with these magnitude bits and without a sign is. -/
def unitCount (bits : Nat) : Nat := (finiteParts bits).1 * twoPow (finiteParts bits).2

theorem unitCount_eq_zero_iff {bits : Nat} : unitCount bits = 0 ↔ bits = 0 := by
  constructor
  · intro h
    have hbits := bits_finiteParts bits
    have hzero := (Nat.mul_eq_zero.1 h).resolve_right (twoPow_pos _).ne'
    have hshift := (canonical_finiteParts bits).normal.resolve_left (by
      rw [hzero]
      exact Nat.not_le.2 (twoPow_pos 52))
    rw [hzero, hshift] at hbits
    omega
  · rintro rfl
    decide +kernel

theorem units?_eq (x : Double) :
    x.units? = if x.isFinite then
      some (if x.isNegative then -(unitCount x.magnitudeBits : Int) else unitCount x.magnitudeBits)
    else none := by
  unfold units? magnitude isFinite
  obtain h | h | h := Nat.lt_trichotomy x.magnitudeBits infinityBits
  · simp [h, h.ne, Nat.not_lt.2 h.le, unitCount]
  · simp [h]
  · simp [h, Nat.not_lt.2 h.le]

/-- The shift that rounding takes for a finite number is that of the number. -/
theorem Canonical.log2_sub (h : Canonical significand shift) :
    (significand * twoPow shift).log2 - 52 = shift := by
  obtain ⟨hlt, hnormal | rfl⟩ := h
  · have hpos : 0 < significand := Nat.lt_of_lt_of_le (twoPow_pos 52) hnormal
    have hne : significand * twoPow shift ≠ 0 := (Nat.mul_pos hpos (twoPow_pos shift)).ne'
    have hlog : (significand * twoPow shift).log2 = 52 + shift := by
      refine (Nat.log2_eq_iff hne).2 ⟨?_, ?_⟩
      · show twoPow (52 + shift) ≤ _
        rw [twoPow_add]
        exact Nat.mul_le_mul_right _ hnormal
      · show _ < twoPow (52 + shift + 1)
        rw [Nat.add_right_comm, twoPow_add]
        exact Nat.mul_lt_mul_of_pos_right hlt (twoPow_pos shift)
    omega
  · rw [twoPow_zero, Nat.mul_one]
    obtain rfl | hne := Nat.eq_zero_or_pos significand
    · rfl
    · have hlog : significand.log2 < 53 := (Nat.log2_lt hne.ne').2 hlt
      omega

/-- A fraction that a finite number stands for rounds to the bits of the number. -/
theorem nearest_of_exact (hx : x.isFinite = true) {num den : Nat} (hden : 0 < den)
    (hunits : num * twoPow 1074 = den * unitCount x.magnitudeBits) (negative : Bool) :
    nearest negative num den = ofParts negative x.magnitudeBits := by
  have hbits := bits_finiteParts x.magnitudeBits
  have hcanonical := canonical_finiteParts x.magnitudeBits
  rw [unitCount] at hunits
  generalize (finiteParts x.magnitudeBits).1 = significand at *
  generalize (finiteParts x.magnitudeBits).2 = shift at *
  -- Shift and significand of the number come out again, so that its bits are put together.
  have hshift : (num * twoPow 1074 / den).log2 - 52 = shift := by
    rw [hunits, Nat.mul_div_cancel_left _ hden]
    exact hcanonical.log2_sub
  have hround : roundHalfEven (num * twoPow 1074) (den * twoPow shift) = significand := by
    rw [hunits, Nat.mul_left_comm]
    exact roundHalfEven_mul_right significand (Nat.mul_pos hden (twoPow_pos shift))
  have hlt : x.magnitudeBits < infinityBits := of_decide_eq_true hx
  simp only [nearest, hshift, hround, hbits, if_pos hlt]

theorem toNat_ofParts (negative : Bool) {bits : Nat} (h : bits < signWeight) :
    (ofParts negative bits).bits.toNat = (if negative then signWeight else 0) + bits := by
  have hweight : signWeight + signWeight = 2 ^ 64 := rfl
  rw [ofParts, UInt64.toNat_ofNat']
  apply Nat.mod_eq_of_lt
  split <;> omega

theorem magnitudeBits_ofParts (negative : Bool) {bits : Nat} (h : bits < signWeight) :
    (ofParts negative bits).magnitudeBits = bits := by
  rw [magnitudeBits, toNat_ofParts negative h]
  cases negative with
  | false => simp [Nat.mod_eq_of_lt h]
  | true => simp [Nat.mod_eq_of_lt h]

theorem isNegative_ofParts (negative : Bool) {bits : Nat} (h : bits < signWeight) :
    (ofParts negative bits).isNegative = negative := by
  rw [isNegative, toNat_ofParts negative h]
  cases negative with
  | false => simpa using h
  | true => simp

/-- The integer that a fraction with denominator one power of two is, if it is one. -/
theorem whole_eq_some_iff {significand shift unit n : Nat} :
    (if unit ≤ shift then some (significand * twoPow (shift - unit))
      else if significand % twoPow (unit - shift) = 0 then
        some (significand / twoPow (unit - shift))
      else none) = some n
      ↔ significand * twoPow shift = n * twoPow unit := by
  split
  case isTrue hle =>
    have hsplit : twoPow shift = twoPow (shift - unit) * twoPow unit := by
      rw [← twoPow_add, Nat.sub_add_cancel hle]
    rw [Option.some.injEq, hsplit, ← Nat.mul_assoc, Nat.mul_left_inj (twoPow_pos unit).ne']
  case isFalse hlt =>
    have hsplit : twoPow unit = twoPow (unit - shift) * twoPow shift := by
      rw [← twoPow_add, Nat.sub_add_cancel (by omega)]
    rw [hsplit, ← Nat.mul_assoc, Nat.mul_left_inj (twoPow_pos shift).ne']
    split
    case isTrue hdvd =>
      rw [Option.some.injEq,
        Nat.div_eq_iff_eq_mul_left (twoPow_pos _) (Nat.dvd_of_mod_eq_zero hdvd)]
    case isFalse hnot =>
      simp only [reduceCtorEq, false_iff]
      rintro rfl
      exact hnot (Nat.mul_mod_left _ _)

theorem nonneg_of_natCast_eq_mul {count unit : Nat} (h : 0 < unit) {m : Int}
    (hcount : (count : Int) = m * unit) : 0 ≤ m := by
  apply Int.nonneg_of_mul_nonneg_left _ (Int.natCast_pos.2 h)
  rw [← hcount]
  exact Int.natCast_nonneg count

/-- A multiple of a unit is a natural multiple where it is not negative. -/
theorem exists_natCast_iff {count unit : Nat} (h : 0 < unit) {m : Int} :
    (∃ k : Nat, count = k * unit ∧ (k : Int) = m) ↔ (count : Int) = m * unit := by
  constructor
  · rintro ⟨k, rfl, rfl⟩
    exact Int.natCast_mul k unit
  · intro hcount
    obtain ⟨k, rfl⟩ := Int.eq_ofNat_of_zero_le (nonneg_of_natCast_eq_mul h hcount)
    exact ⟨k, by exact_mod_cast hcount, rfl⟩

/-- A number is an integer exactly if its units make up that integer. -/
theorem integer?_eq_some_iff : x.integer? = some n ↔ x.units? = some (n * twoPow 1074) := by
  unfold integer? units?
  cases x.magnitude with
  | nan | infinite => exact iff_of_false nofun nofun
  | finite significand shift =>
    simp only [Option.map_eq_some_iff, Option.bind_eq_bind, Option.bind_eq_some_iff,
      Option.pure_def, Option.some.injEq, whole_eq_some_iff, exists_natCast_iff (twoPow_pos 1074)]
    cases x.isNegative with
    | false => simp only [Bool.false_eq_true, if_false, exists_eq_right]
    | true =>
      simp only [if_true]
      constructor
      · rintro ⟨m, hm, rfl⟩
        rw [hm, Int.neg_mul]
      · intro h
        exact ⟨-n, by rw [Int.neg_mul, ← h, Int.neg_neg], Int.neg_neg n⟩

theorem isNaN_of_isFinite (h : x.isFinite = true) : x.isNaN = false := by
  have hlt : x.magnitudeBits < infinityBits := of_decide_eq_true h
  exact decide_eq_false (Nat.not_lt.2 hlt.le)

/-- Numbers at one place have the same bits, or are zeros. -/
theorem place_eq_iff :
    x.place = y.place ↔ x.magnitudeBits = y.magnitudeBits
      ∧ (x.isNegative = y.isNegative ∨ x.magnitudeBits = 0) := by
  unfold place
  cases x.isNegative <;> cases y.isNegative <;> simp <;> omega

/-- What is equal counts equally many units. -/
theorem units?_eq_of_equals (h : x.equals y = true) : x.units? = y.units? := by
  simp only [equals, Bool.and_eq_true, beq_iff_eq] at h
  obtain ⟨hbits, hsign⟩ := place_eq_iff.1 h.2
  have hfinite : x.isFinite = y.isFinite := by rw [isFinite, isFinite, hbits]
  rw [units?_eq, units?_eq, hfinite, hbits]
  obtain hsign | hzero := hsign
  · rw [hsign]
  · have hcount : unitCount y.magnitudeBits = 0 := unitCount_eq_zero_iff.2 (hbits ▸ hzero)
    simp [hcount]

theorem integer?_eq_of_equals (h : x.equals y = true) : x.integer? = y.integer? := by
  refine Option.ext fun n => ?_
  rw [integer?_eq_some_iff, integer?_eq_some_iff, units?_eq_of_equals h]

theorem equals_of_place_eq (hx : x.isFinite = true) (hy : y.isFinite = true)
    (h : x.place = y.place) : x.equals y = true := by
  simp [equals, isNaN_of_isFinite hx, isNaN_of_isFinite hy, h]

/-- The sign of an integer is that of every number that it is, zeros apart. -/
theorem decide_neg_eq_or_of_units? (h : x.units? = some (n * twoPow 1074)) :
    decide (n < 0) = x.isNegative ∨ x.magnitudeBits = 0 := by
  rw [units?_eq, Option.ite_none_right_eq_some] at h
  have hcount := Option.some.inj h.2
  rw [← unitCount_eq_zero_iff]
  cases hnegative : x.isNegative with
  | false =>
    rw [hnegative, if_neg Bool.false_ne_true] at hcount
    have hn : 0 ≤ n := nonneg_of_natCast_eq_mul (twoPow_pos 1074) hcount
    exact .inl (decide_eq_false (Int.not_lt.2 hn))
  | true =>
    rw [hnegative, if_pos rfl] at hcount
    obtain hn | hn := lt_or_ge n 0
    · exact .inl (decide_eq_true hn)
    · have hnonneg := Int.mul_nonneg hn (Int.natCast_nonneg (twoPow 1074))
      right
      omega

/-- Rounding finds every number that is an integer. -/
theorem ofInt_equals (h : x.integer? = some n) : (ofInt n).equals x = true := by
  rw [integer?_eq_some_iff] at h
  have hsign := decide_neg_eq_or_of_units? h
  rw [units?_eq, Option.ite_none_right_eq_some] at h
  obtain ⟨hx, hcount⟩ := h
  have hlt : x.magnitudeBits < infinityBits := of_decide_eq_true hx
  have hbits : x.magnitudeBits < signWeight := hlt.trans infinityBits_lt_signWeight
  have hround : ofInt n = ofParts (n < 0) x.magnitudeBits := by
    refine nearest_of_exact hx Nat.one_pos ?_ _
    have habs := congrArg Int.natAbs (Option.some.inj hcount)
    rw [Int.natAbs_mul, Int.natAbs_natCast] at habs
    rw [Nat.one_mul, ← habs]
    split <;> simp
  rw [hround]
  apply equals_of_place_eq _ hx
  · rw [place_eq_iff, magnitudeBits_ofParts _ hbits, isNegative_ofParts _ hbits]
    exact ⟨rfl, hsign⟩
  · rw [isFinite, magnitudeBits_ofParts _ hbits]
    exact hx

/-- The rational number that a finite number is. -/
def value? (x : Double) : Option ℚ := x.units?.map fun (units : Int) => (units : ℚ) / twoPow 1074

theorem exists_value?_iff : (∃ q, x.value? = some q) ↔ x.isFinite = true := by
  rw [← Option.isSome_iff_exists, value?, Option.isSome_map, units?_eq]
  cases x.isFinite <;> rfl

theorem value?_eq_some_intCast_iff : x.value? = some (n : ℚ) ↔ x.integer? = some n := by
  have hunit : (twoPow 1074 : ℚ) ≠ 0 := Nat.cast_ne_zero.2 (twoPow_pos 1074).ne'
  rw [integer?_eq_some_iff, value?, Option.map_eq_some_iff]
  constructor
  · rintro ⟨units, hunits, hvalue⟩
    rw [div_eq_iff hunit] at hvalue
    rw [hunits]
    exact congrArg some (by exact_mod_cast hvalue)
  · intro hunits
    refine ⟨_, hunits, ?_⟩
    rw [div_eq_iff hunit]
    push_cast
    rfl

end Double

end ShapeCheck
