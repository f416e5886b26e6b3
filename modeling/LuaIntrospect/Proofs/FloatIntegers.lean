import Mathlib
import LuaIntrospect.Value.Basic

/-! Floats that are integers. Main statements: `Binary.beq_iff_of_integral` and `integral?_ofInt`. -/
namespace LuaIntrospect.Decimal

/-- Bits whose exponent field is not all ones survive the trip through a float unchanged; only
a NaN's payload is canonicalised. -/
theorem toBits_ofBits {b : UInt64} (notNaN : (b.toNat / 4503599627370496) % 2048 ≠ 2047) :
    (Float.ofBits b).toBits = b := by
  apply UInt64.toBitVec_inj.mp
  show Float.Model.UnpackedFloat.pack Float.Model.Format.binary64
    (Float.Model.UnpackedFloat.unpack Float.Model.Format.binary64 b.toBitVec) = b.toBitVec
  rw [Float.Model.UnpackedFloat.pack_unpack, if_neg]
  simp only [Float.Model.UnpackedFloat.isNaNBits, Float.Model.UnpackedFloat.unpackExponent_def,
    decide_eq_true_eq, not_and]
  intro allOnes
  exfalso
  apply notNaN
  have field := congrArg BitVec.toNat allOnes
  simp only [BitVec.extractLsb'_toNat, UInt64.toNat_toBitVec, Nat.shiftRight_eq_div_pow] at field
  rw [field]
  rfl

namespace Binary

theorem ofFloat_eq (x : Float) : Binary.ofFloat x =
    if (x.toBits.toNat / 4503599627370496) % 2048 = 2047 then
      (if x.toBits.toNat % 4503599627370496 = 0 then
        .inf (decide (x.toBits.toNat ≥ 9223372036854775808)) else .nan)
    else if (x.toBits.toNat / 4503599627370496) % 2048 = 0 then
      .finite (decide (x.toBits.toNat ≥ 9223372036854775808)) (x.toBits.toNat % 4503599627370496)
        (-1074)
    else .finite (decide (x.toBits.toNat ≥ 9223372036854775808))
      (x.toBits.toNat % 4503599627370496 + 4503599627370496)
      (((x.toBits.toNat / 4503599627370496) % 2048 : Nat) - 1075) := rfl

theorem ofFloat_finite {x : Float} {negative : Bool} {m : Nat} {q : Int}
    (finite : Binary.ofFloat x = .finite negative m q) :
    (4503599627370496 ≤ m ∧ m < 9007199254740992 ∧ -1074 ≤ q ∧ q ≤ 971) ∨
      (m < 4503599627370496 ∧ q = -1074) := by
  rw [ofFloat_eq] at finite
  split_ifs at finite with special subnormal
  · cases finite
    omega
  · cases finite
    omega

theorem ofFloat_injective {x y : Float} (same : Binary.ofFloat x = Binary.ofFloat y)
    (number : Binary.ofFloat x ≠ .nan) : x = y := by
  have wordX : x.toBits.toNat < 18446744073709551616 := x.toBits.toNat_lt_size
  have wordY : y.toBits.toNat < 18446744073709551616 := y.toBits.toNat_lt_size
  rw [ofFloat_eq] at number
  rw [ofFloat_eq, ofFloat_eq] at same
  have bits : x.toBits.toNat = y.toBits.toNat := by
    split_ifs at same number <;> simp only [Binary.finite.injEq, Binary.inf.injEq, decide_eq_decide,
      reduceCtorEq, ne_eq, not_true_eq_false] at same number <;> omega
  exact Float.toBits_inj.mp (UInt64.toNat_inj.mp bits)

theorem ofFloat_ofBits_normal {S F R : Nat} (sign : S = 0 ∨ S = 9223372036854775808)
    (lowF : 1 ≤ F) (highF : F ≤ 2046) (fraction : R < 4503599627370496) :
    Binary.ofFloat (Float.ofBits (UInt64.ofNat (S + (F * 4503599627370496 + R)))) =
      .finite (decide (S = 9223372036854775808)) (R + 4503599627370496) ((F : Int) - 1075) := by
  have read := UInt64.toNat_ofNat_of_lt' (show S + (F * 4503599627370496 + R) < 18446744073709551616
    by omega)
  rw [ofFloat_eq, toBits_ofBits (by rw [read]; omega), read, if_neg (by omega), if_neg (by omega)]
  congr 1
  · exact decide_eq_decide.mpr (by omega)
  · omega
  · omega

theorem integral?_finite (negative : Bool) (m : Nat) (q : Int) :
    (Binary.finite negative m q).integral? =
      Option.map (fun n : Nat => if negative then -(n : Int) else (n : Int))
        (if 0 ≤ q then some (m * 2 ^ q.toNat)
          else if m % 2 ^ (-q).toNat = 0 then some (m / 2 ^ (-q).toNat) else none) := by
  have unfolded : (Binary.finite negative m q).integral? =
      (if 0 ≤ q then some (m * 2 ^ q.toNat)
        else if m % 2 ^ (-q).toNat = 0 then some (m / 2 ^ (-q).toNat) else none).map
        fun n => if negative then -(n : Int) else n := rfl
  rw [unfolded]
  split_ifs <;> rfl

/-- A finite value whose mantissa and exponent satisfy `m · 2 ^ q = a` equals the integer
`± a`. -/
theorem integral?_of_scaled {negative : Bool} {m a : Nat} {q : Int}
    (scaled : m * 2 ^ q.toNat = a * 2 ^ (-q).toNat) :
    (Binary.finite negative m q).integral? = some (if negative then -(a : Int) else a) := by
  rw [integral?_finite]
  by_cases up : 0 ≤ q
  · rw [if_pos up, show (-q).toNat = 0 by omega, Nat.pow_zero, Nat.mul_one] at *
    rw [scaled]
    rfl
  · rw [if_neg up]
    rw [show q.toNat = 0 by omega, Nat.pow_zero, Nat.mul_one] at scaled
    rw [scaled, if_pos (Nat.mul_mod_left _ _), Nat.mul_div_cancel _ (Nat.two_pow_pos _)]
    rfl

/-- The integer a finite value equals: its magnitude times the value's scale is the mantissa's,
and a nonzero integer carries the value's sign. -/
theorem integral?_finite_eq_some {negative : Bool} {m : Nat} {q : Int} {n : Int}
    (integral : (Binary.finite negative m q).integral? = some n) :
    n.natAbs * 2 ^ (-q).toNat = m * 2 ^ q.toNat ∧ (n ≠ 0 → negative = decide (n < 0)) := by
  have signed : ∀ a : Nat, (if negative then -(a : Int) else a).natAbs = a ∧
      ((if negative then -(a : Int) else a) ≠ 0 →
        negative = decide ((if negative then -(a : Int) else a) < 0)) := by
    intro a
    cases negative
    · simp
    · simp
      omega
  rw [integral?_finite] at integral
  by_cases up : 0 ≤ q
  · rw [if_pos up, Option.map_some, Option.some.injEq] at integral
    subst integral
    rw [(signed _).1, show (-q).toNat = 0 by omega, Nat.pow_zero, Nat.mul_one]
    exact ⟨rfl, (signed _).2⟩
  · rw [if_neg up] at integral
    by_cases divides : m % 2 ^ (-q).toNat = 0
    · rw [if_pos divides, Option.map_some, Option.some.injEq] at integral
      subst integral
      rw [(signed _).1, show q.toNat = 0 by omega, Nat.pow_zero, Nat.mul_one,
        Nat.div_mul_cancel (Nat.dvd_of_mod_eq_zero divides)]
      exact ⟨rfl, (signed _).2⟩
    · rw [if_neg divides] at integral
      cases integral

theorem normal_exponent_unique {a m m' : Nat} {q q' : Int} (high : m < 9007199254740992)
    (low' : 4503599627370496 ≤ m') (order : q ≤ q')
    (scaled : a * 2 ^ (-q).toNat = m * 2 ^ q.toNat)
    (scaled' : a * 2 ^ (-q').toNat = m' * 2 ^ q'.toNat) : q = q' := by
  obtain ⟨d, gap⟩ : ∃ d : Nat, q' = q + d := ⟨(q' - q).toNat, by omega⟩
  have exponents : q'.toNat + (-q).toNat = q.toNat + (-q').toNat + d := by omega
  have cross : m * 2 ^ (q.toNat + (-q').toNat) = m' * 2 ^ d * 2 ^ (q.toNat + (-q').toNat) := by
    calc m * 2 ^ (q.toNat + (-q').toNat) = m * 2 ^ q.toNat * 2 ^ (-q').toNat := by
          rw [Nat.pow_add, Nat.mul_assoc]
      _ = a * 2 ^ (-q).toNat * 2 ^ (-q').toNat := by rw [scaled]
      _ = a * 2 ^ (-q').toNat * 2 ^ (-q).toNat := by ring
      _ = m' * 2 ^ (q'.toNat + (-q).toNat) := by rw [scaled', Nat.pow_add, Nat.mul_assoc]
      _ = m' * 2 ^ d * 2 ^ (q.toNat + (-q').toNat) := by rw [exponents]; ring
  have shifted : m = m' * 2 ^ d := Nat.eq_of_mul_eq_mul_right (Nat.two_pow_pos _) cross
  have flat : d = 0 := by
    by_contra moved
    have doubled : m' * 2 ≤ m' * 2 ^ d :=
      Nat.mul_le_mul_left _ (Nat.le_self_pow moved 2 |>.trans' (le_refl 2))
    omega
  omega

theorem ofFloat_normal_of_integral {x : Float} {n : Int}
    (integral : (Binary.ofFloat x).integral? = some n) (nonzero : n ≠ 0) :
    ∃ m q, Binary.ofFloat x = .finite (decide (n < 0)) m q ∧
      4503599627370496 ≤ m ∧ m < 9007199254740992 ∧ n.natAbs * 2 ^ (-q).toNat = m * 2 ^ q.toNat := by
  rcases decoded : Binary.ofFloat x with _ | negative | ⟨negative, m, q⟩
  all_goals rw [decoded] at integral
  · cases integral
  · cases integral
  obtain ⟨scaled, sign⟩ := integral?_finite_eq_some integral
  rw [← sign nonzero]
  rcases ofFloat_finite decoded with normal | ⟨small, least⟩
  · exact ⟨m, q, rfl, normal.1, normal.2.1, scaled⟩
  · -- a subnormal mantissa is far below the scale `2 ^ 1074` of a nonzero integer
    exfalso
    subst least
    have large : n.natAbs * 2 ^ (1074 : Nat) ≥ 2 ^ (1074 : Nat) :=
      Nat.le_mul_of_pos_left _ (Int.natAbs_pos.mpr nonzero)
    have wide : 2 ^ 52 < 2 ^ (1074 : Nat) := by
      apply Nat.pow_lt_pow_right <;> norm_num
    have mantissaBits : (2 : Nat) ^ 52 = 4503599627370496 := by norm_num
    rw [show (-(-1074 : Int)).toNat = 1074 by rfl, show (-1074 : Int).toNat = 0 by rfl,
      Nat.pow_zero, Nat.mul_one] at scaled
    omega

theorem eq_zero_of_ofFloat {x : Float} {negative : Bool} {q : Int}
    (zero : Binary.ofFloat x = .finite negative 0 q) : x = 0 ∨ x = -0 := by
  have least : q = -1074 := by
    rcases ofFloat_finite zero with normal | subnormal
    · omega
    · exact subnormal.2
  subst least
  have positive : Binary.ofFloat 0 = .finite false 0 (-1074) := by decide
  have negativeZero : Binary.ofFloat (-0) = .finite true 0 (-1074) := by decide
  cases negative
  · exact .inl (ofFloat_injective (zero.trans positive.symm) (by rw [zero]; exact nofun))
  · exact .inr (ofFloat_injective (zero.trans negativeZero.symm) (by rw [zero]; exact nofun))

theorem eq_zero_of_integral {x : Float} (integral : (Binary.ofFloat x).integral? = some 0) :
    x = 0 ∨ x = -0 := by
  rcases decoded : Binary.ofFloat x with _ | negative | ⟨negative, m, q⟩
  all_goals rw [decoded] at integral
  · cases integral
  · cases integral
  obtain ⟨scaled, -⟩ := integral?_finite_eq_some integral
  have empty : m = 0 := by
    rw [Int.natAbs_zero, Nat.zero_mul] at scaled
    exact (Nat.mul_eq_zero.mp scaled.symm).resolve_right (Nat.two_pow_pos _).ne'
  subst empty
  exact eq_zero_of_ofFloat decoded

theorem ne_nan_of_integral {x : Float} {n : Int} (integral : (Binary.ofFloat x).integral? = some n) :
    Binary.ofFloat x ≠ .nan := by
  intro nan
  rw [nan] at integral
  cases integral

/-- Two floats that equal integers are `==` exactly when the integers are equal: integral floats
compare as their values. -/
theorem beq_iff_of_integral {x y : Float} {n n' : Int}
    (integral : (Binary.ofFloat x).integral? = some n)
    (integral' : (Binary.ofFloat y).integral? = some n') : (x == y) = true ↔ n = n' := by
  have zeroValue : (Binary.ofFloat 0).integral? = some 0 := by decide +kernel
  have negativeZeroValue : (Binary.ofFloat (-0)).integral? = some 0 := by decide +kernel
  constructor
  · intro same
    rcases Float.beq_iff_ne_nan_and_eq.mp same with ⟨-, -, rfl | ⟨rfl, rfl⟩ | ⟨rfl, rfl⟩⟩
    · rw [integral] at integral'
      exact Option.some.inj integral'
    · rw [zeroValue] at integral
      rw [negativeZeroValue] at integral'
      exact (Option.some.inj integral).symm.trans (Option.some.inj integral')
    · rw [negativeZeroValue] at integral
      rw [zeroValue] at integral'
      exact (Option.some.inj integral).symm.trans (Option.some.inj integral')
  · rintro rfl
    by_cases zero : n = 0
    · subst zero
      rcases eq_zero_of_integral integral with rfl | rfl <;>
        rcases eq_zero_of_integral integral' with rfl | rfl <;> decide
    -- a nonzero integer has one normal encoding: the same exponent, then the same mantissa
    obtain ⟨m, q, decoded, low, high, scaled⟩ := ofFloat_normal_of_integral integral zero
    obtain ⟨m', q', decoded', low', high', scaled'⟩ := ofFloat_normal_of_integral integral' zero
    have exponent : q = q' := by
      rcases le_total q q' with order | order
      · exact normal_exponent_unique high low' order scaled scaled'
      · exact (normal_exponent_unique high' low order scaled' scaled).symm
    subst exponent
    have mantissa : m = m' :=
      Nat.eq_of_mul_eq_mul_right (Nat.two_pow_pos _) (scaled.symm.trans scaled')
    subst mantissa
    have same : x = y := ofFloat_injective (decoded.trans decoded'.symm) (ne_nan_of_integral integral)
    subst same
    exact Float.beq_self_iff.mpr fun nan => ne_nan_of_integral integral (by rw [nan]; decide)

end Binary

theorem ofFloat_assemble_normal (negative : Bool) {m : Nat} {q : Int}
    (low : 4503599627370496 ≤ m) (high : m < 9007199254740992) (small : -1074 ≤ q) (large : q ≤ 971) :
    Binary.ofFloat (assemble negative m q) = .finite negative m q := by
  have assembled : assemble negative m q = Float.ofBits (UInt64.ofNat
      ((if negative then 9223372036854775808 else 0) +
        ((q + 1075).toNat * 4503599627370496 + (m - 4503599627370496)))) := by
    delta assemble
    show Float.ofBits ((if negative then 9223372036854775808 else 0) + (if m < 4503599627370496 then m
      else if q + 1075 ≥ 2047 then 2047 * 4503599627370496
      else (q + 1075).toNat * 4503599627370496 + (m - 4503599627370496))).toUInt64 = _
    rw [if_neg (show ¬m < 4503599627370496 by omega), if_neg (show ¬q + 1075 ≥ 2047 by omega)]
  rw [assembled, Binary.ofFloat_ofBits_normal (by cases negative <;> simp) (by omega) (by omega)
    (by omega)]
  congr 1
  · cases negative <;> rfl
  · omega
  · omega

theorem roundHalfEven_exact {a b : Nat} (positive : 0 < b) (divides : b ∣ a) :
    roundHalfEven a b = a / b := by
  unfold roundHalfEven
  rw [Nat.mod_eq_zero_of_dvd divides, if_pos (by omega)]

theorem scaledRound_one (a : Nat) (q : Int) :
    scaledRound a 1 q = if 0 ≤ q then roundHalfEven a (2 ^ q.toNat) else a * 2 ^ (-q).toNat := by
  delta scaledRound
  show (if 0 ≤ q then roundHalfEven a (1 * 2 ^ q.toNat) else roundHalfEven (a * 2 ^ (-q).toNat) 1) = _
  rw [Nat.one_mul, roundHalfEven_exact Nat.one_pos (Nat.one_dvd _), Nat.div_one]

theorem scaledRound_binade {a : Nat} (nonzero : a ≠ 0) (small : a ≤ 9007199254740992) :
    scaledRound a 1 ((a.log2 : Int) - 52) =
      if a.log2 = 53 then 4503599627370496 else a * 2 ^ (52 - a.log2) := by
  have below := Nat.log2_self_le nonzero
  have top : a.log2 < 54 := (Nat.log2_lt nonzero).mpr (by omega)
  rw [scaledRound_one]
  by_cases high : a.log2 = 53
  · have whole : a = 9007199254740992 := by
      rw [high] at below
      norm_num at below
      omega
    rw [if_pos (by omega), if_pos high, high, whole, roundHalfEven_exact (by norm_num) (by norm_num)]
    rfl
  · rw [if_neg high]
    by_cases exact : a.log2 = 52
    · rw [if_pos (by omega), exact, roundHalfEven_exact (by norm_num) (by norm_num)]
      simp
    · rw [if_neg (by omega)]
      congr 2
      omega

theorem nearest_one {a : Nat} (nonzero : a ≠ 0) (negative : Bool) :
    nearest negative a 1 =
      if scaledRound a 1 (max ((a.log2 : Int) - 52) (-1074)) = 9007199254740992 then
        assemble negative 4503599627370496 (max ((a.log2 : Int) - 52) (-1074) + 1)
      else assemble negative (scaledRound a 1 (max ((a.log2 : Int) - 52) (-1074)))
        (max ((a.log2 : Int) - 52) (-1074)) := by
  have logOne : Nat.log2 1 = 0 := rfl
  have notBelow : ¬a < 1 * 2 ^ a.log2 := by
    rw [Nat.one_mul]
    exact Nat.not_lt.mpr (Nat.log2_self_le nonzero)
  delta nearest
  show (if a = 0 then assemble negative 0 (-1074) else
    let e0 : Int := (a.log2 : Int) - (Nat.log2 1 : Int)
    let e : Int := if 0 ≤ e0 then (if a < 1 * 2 ^ e0.toNat then e0 - 1 else e0)
      else (if a * 2 ^ (-e0).toNat < 1 then e0 - 1 else e0)
    let q := max (e - 52) (-1074)
    if scaledRound a 1 q = 9007199254740992 then assemble negative 4503599627370496 (q + 1)
    else assemble negative (scaledRound a 1 q) q) = _
  rw [if_neg nonzero]
  simp only [logOne, Nat.cast_zero, sub_zero, Int.toNat_natCast, Nat.cast_nonneg, if_true, notBelow,
    if_false]

theorem nearest_exact {a : Nat} (positive : 0 < a) (small : a ≤ 9007199254740992) (negative : Bool) :
    ∃ m q, nearest negative a 1 = assemble negative m q ∧ 4503599627370496 ≤ m ∧
      m < 9007199254740992 ∧ -52 ≤ q ∧ q ≤ 1 ∧ m * 2 ^ q.toNat = a * 2 ^ (-q).toNat := by
  have nonzero : a ≠ 0 := by omega
  have below := Nat.log2_self_le nonzero
  have above := Nat.lt_log2_self (n := a)
  have top : a.log2 < 54 := (Nat.log2_lt nonzero).mpr (by omega)
  rw [nearest_one nonzero, max_eq_left (by omega), scaledRound_binade nonzero small]
  by_cases high : a.log2 = 53
  · -- `2 ^ 53` itself: mantissa `2 ^ 52`, exponent one
    have whole : a = 9007199254740992 := by
      rw [high] at below
      norm_num at below
      omega
    refine ⟨4503599627370496, 1, ?_, by norm_num, by norm_num, by norm_num, by norm_num, ?_⟩
    · rw [if_pos high, if_neg (by norm_num), high]
      rfl
    · rw [whole]
      rfl
  · -- below `2 ^ 53`: the integer shifted up to fill 53 bits
    rw [if_neg high]
    have fill : 4503599627370496 ≤ a * 2 ^ (52 - a.log2) :=
      calc 4503599627370496 = 2 ^ a.log2 * 2 ^ (52 - a.log2) := by
            rw [← Nat.pow_add, show a.log2 + (52 - a.log2) = 52 by omega]
        _ ≤ a * 2 ^ (52 - a.log2) := Nat.mul_le_mul_right _ below
    have spread : a * 2 ^ (52 - a.log2) < 9007199254740992 :=
      calc a * 2 ^ (52 - a.log2) < 2 ^ (a.log2 + 1) * 2 ^ (52 - a.log2) :=
            Nat.mul_lt_mul_of_pos_right above (Nat.two_pow_pos _)
        _ = 9007199254740992 := by rw [← Nat.pow_add, show a.log2 + 1 + (52 - a.log2) = 53 by omega]
    refine ⟨a * 2 ^ (52 - a.log2), (a.log2 : Int) - 52, ?_, fill, spread, by omega, by omega, ?_⟩
    · rw [if_neg (by omega)]
    · rw [show ((a.log2 : Int) - 52).toNat = 0 by omega,
        show (-((a.log2 : Int) - 52)).toNat = 52 - a.log2 by omega]
      simp

/-- Every integer of magnitude at most `2 ^ 53` is a float: rounding it loses nothing. -/
theorem integral?_ofInt {i : Int} (small : i.natAbs ≤ 9007199254740992) :
    (Binary.ofFloat (ofInt i)).integral? = some i := by
  by_cases zero : i = 0
  · subst zero
    decide +kernel
  obtain ⟨m, q, rounded, low, high, least, most, scaled⟩ :=
    nearest_exact (Int.natAbs_pos.mpr zero) small (decide (i < 0))
  have rounding : ofInt i = nearest (decide (i < 0)) i.natAbs 1 := rfl
  rw [rounding, rounded, ofFloat_assemble_normal _ low high (by omega) (by omega),
    Binary.integral?_of_scaled scaled]
  congr 1
  split_ifs with neg <;> rw [decide_eq_true_iff] at neg <;> omega

theorem toInt_clampInt64 (n : Int) :
    (clampInt64 n).toInt = max (-9223372036854775808) (min n 9223372036854775807) := by
  delta clampInt64
  show (if n < -9223372036854775808 then Int64.ofInt (-9223372036854775808)
    else if n ≥ 9223372036854775808 then Int64.ofInt 9223372036854775807 else Int64.ofInt n).toInt = _
  split_ifs with below above
  · rw [Int64.toInt_ofInt_of_le (by norm_num) (by norm_num)]
    omega
  · rw [Int64.toInt_ofInt_of_le (by norm_num) (by norm_num)]
    omega
  · rw [Int64.toInt_ofInt_of_le (by omega) (by omega)]
    omega

end LuaIntrospect.Decimal
