import Mathlib
import LuaIntrospect.Proofs.FloatIntegers

/-! Reading a rational as the nearest binary64 value. Main statements: `nearest_eq_of_roundsTo`
and `assemble_eq_of_ofFloat`. -/
namespace LuaIntrospect.Decimal

/-- `v` lies within half a unit of `M` units, on the boundary only when `M` is even: rounding
`v / unit` to the nearest natural, a tie going to the even one, gives `M`. -/
def Near (v unit : ℚ) (M : ℕ) : Prop :=
  ((M - 1 / 2) * unit < v ∨ ((M - 1 / 2) * unit = v ∧ M % 2 = 0)) ∧
    (v < (M + 1 / 2) * unit ∨ (v = (M + 1 / 2) * unit ∧ M % 2 = 0))

theorem Near.scale {v unit c : ℚ} {M : ℕ} (near : Near v unit M) (positive : 0 < c) :
    Near (v * c) (unit * c) M := by
  obtain ⟨low, high⟩ := near
  constructor
  · rcases low with lt | ⟨eq, even⟩
    · exact .inl (by nlinarith)
    · exact .inr ⟨by rw [← eq]; ring, even⟩
  · rcases high with lt | ⟨eq, even⟩
    · exact .inl (by nlinarith)
    · exact .inr ⟨by rw [eq]; ring, even⟩

theorem roundHalfEven_eq {a b M : ℕ} (positive : 0 < b) (near : Near a b M) :
    roundHalfEven a b = M := by
  obtain ⟨low, high⟩ := near
  have split : (a : ℚ) = b * (a / b : ℕ) + (a % b : ℕ) := by
    exact_mod_cast (Nat.div_add_mod a b).symm
  have remainder : ((a % b : ℕ) : ℚ) < b := by exact_mod_cast Nat.mod_lt a positive
  have rest : (0 : ℚ) ≤ (a % b : ℕ) := Nat.cast_nonneg _
  have unit : (0 : ℚ) < b := by exact_mod_cast positive
  have atMost : a / b ≤ M := by
    by_contra above
    have : (M : ℚ) + 1 ≤ (a / b : ℕ) := by exact_mod_cast (by omega : M + 1 ≤ a / b)
    rcases high with lt | ⟨eq, -⟩ <;> nlinarith
  have atLeast : M ≤ a / b + 1 := by
    by_contra below
    have : ((a / b : ℕ) : ℚ) + 2 ≤ M := by exact_mod_cast (by omega : a / b + 2 ≤ M)
    rcases low with lt | ⟨eq, -⟩ <;> nlinarith
  unfold roundHalfEven
  rcases Nat.lt_or_ge (a / b) M with less | same
  · -- one less: the remainder is at least half of `b`, and more unless `M` is even
    have quotient : ((a / b : ℕ) : ℚ) + 1 = M := by exact_mod_cast (by omega : a / b + 1 = M)
    have shifted : (a : ℚ) + b = b * M + (a % b : ℕ) := by rw [split, ← quotient]; ring
    have twice : b < 2 * (a % b) ∨ (2 * (a % b) = b ∧ M % 2 = 0) := by
      rcases low with lt | ⟨eq, even⟩
      · exact .inl (by exact_mod_cast (by linarith : (b : ℚ) < 2 * (a % b : ℕ)))
      · exact .inr ⟨by exact_mod_cast (by linarith : 2 * ((a % b : ℕ) : ℚ) = b), even⟩
    rcases twice with lt | ⟨eq, even⟩
    · rw [if_neg (by omega), if_pos lt]
      omega
    · rw [if_neg (by omega), if_neg (by omega), if_neg (by omega)]
      omega
  · -- the quotient itself: the remainder is at most half of `b`, and less unless `M` is even
    have quotient : a / b = M := by omega
    have shifted : (a : ℚ) = b * M + (a % b : ℕ) := by rw [split, quotient]
    have twice : 2 * (a % b) < b ∨ (2 * (a % b) = b ∧ M % 2 = 0) := by
      rcases high with lt | ⟨eq, even⟩
      · exact .inl (by exact_mod_cast (by linarith : 2 * ((a % b : ℕ) : ℚ) < b))
      · exact .inr ⟨by exact_mod_cast (by linarith : 2 * ((a % b : ℕ) : ℚ) = b), even⟩
    rcases twice with lt | ⟨eq, even⟩
    · rw [if_pos lt, quotient]
    · rw [if_neg (by omega), if_neg (by omega), if_pos (by rw [quotient]; exact even), quotient]

theorem two_zpow_toNat {e : ℤ} (up : 0 ≤ e) : (2 : ℚ) ^ e = 2 ^ e.toNat := by
  rw [← zpow_natCast, Int.toNat_of_nonneg up]

theorem two_zpow_mul_neg_toNat {e : ℤ} (down : e < 0) : (2 : ℚ) ^ e * 2 ^ (-e).toNat = 1 := by
  rw [← zpow_natCast, Int.toNat_of_nonneg (by omega), ← zpow_add₀ two_ne_zero, add_neg_cancel,
    zpow_zero]

theorem quotient_lt_two_zpow_iff {a b : ℕ} {e : ℤ} (positive : 0 < b) (up : 0 ≤ e) :
    a < b * 2 ^ e.toNat ↔ (a / b : ℚ) < 2 ^ e := by
  have unit : (0 : ℚ) < b := by exact_mod_cast positive
  rw [two_zpow_toNat up, div_lt_iff₀ unit, mul_comm]
  exact_mod_cast Iff.rfl

theorem quotient_lt_two_zpow_iff_of_neg {a b : ℕ} {e : ℤ} (positive : 0 < b) (down : e < 0) :
    a * 2 ^ (-e).toNat < b ↔ (a / b : ℚ) < 2 ^ e := by
  have unit : (0 : ℚ) < b := by exact_mod_cast positive
  have lift : (0 : ℚ) < 2 ^ (-e).toNat := by positivity
  have cancel : (2 : ℚ) ^ e * b * 2 ^ (-e).toNat = b := by
    rw [mul_right_comm, two_zpow_mul_neg_toNat down, one_mul]
  rw [div_lt_iff₀ unit, ← mul_lt_mul_iff_of_pos_right lift, cancel]
  exact_mod_cast Iff.rfl

theorem scaledRound_eq {a b M : ℕ} {q : ℤ} (positive : 0 < b) (near : Near (a / b) (2 ^ q) M) :
    scaledRound a b q = M := by
  have unit : (0 : ℚ) < b := by exact_mod_cast positive
  delta scaledRound
  show (if 0 ≤ q then roundHalfEven a (b * 2 ^ q.toNat) else roundHalfEven (a * 2 ^ (-q).toNat) b) = M
  split_ifs with up
  · -- `a` against `b · 2 ^ q`
    apply roundHalfEven_eq (Nat.mul_pos positive (Nat.two_pow_pos _))
    have scaled := near.scale unit
    rwa [div_mul_cancel₀ _ unit.ne', two_zpow_toNat up, mul_comm, ← Nat.cast_ofNat, ← Nat.cast_pow,
      ← Nat.cast_mul] at scaled
  · -- `a · 2 ^ -q` against `b`
    apply roundHalfEven_eq positive
    have lift : (0 : ℚ) < b * 2 ^ (-q).toNat := by positivity
    have scaled := near.scale lift
    have left : (a : ℚ) / b * (b * 2 ^ (-q).toNat) = ((a * 2 ^ (-q).toNat : ℕ) : ℚ) := by
      push_cast
      field_simp
    have right : (2 : ℚ) ^ q * (b * 2 ^ (-q).toNat) = b := by
      rw [mul_left_comm, two_zpow_mul_neg_toNat (by omega), mul_one]
    rwa [left, right] at scaled

theorem log2_bounds {n : ℕ} (nonzero : n ≠ 0) :
    (2 : ℚ) ^ (n.log2 : ℤ) ≤ n ∧ (n : ℚ) < 2 ^ ((n.log2 : ℤ) + 1) := by
  rw [zpow_natCast, ← Nat.cast_succ, zpow_natCast]
  exact ⟨by exact_mod_cast Nat.log2_self_le nonzero, by exact_mod_cast Nat.lt_log2_self⟩

theorem quotient_bounds {a b : ℕ} (nonzero : a ≠ 0) (positive : 0 < b) :
    (2 : ℚ) ^ ((a.log2 : ℤ) - b.log2 - 1) ≤ a / b ∧
      (a / b : ℚ) < 2 ^ ((a.log2 : ℤ) - b.log2 + 1) := by
  obtain ⟨aLow, aHigh⟩ := log2_bounds nonzero
  obtain ⟨bLow, bHigh⟩ := log2_bounds positive.ne'
  have unit : (0 : ℚ) < b := by exact_mod_cast positive
  constructor
  · rw [le_div_iff₀ unit]
    calc (2 : ℚ) ^ ((a.log2 : ℤ) - b.log2 - 1) * b
        ≤ 2 ^ ((a.log2 : ℤ) - b.log2 - 1) * 2 ^ ((b.log2 : ℤ) + 1) := by gcongr
      _ = 2 ^ (a.log2 : ℤ) := by rw [← zpow_add₀ two_ne_zero]; ring_nf
      _ ≤ a := aLow
  · rw [div_lt_iff₀ unit]
    calc (a : ℚ) < 2 ^ ((a.log2 : ℤ) + 1) := aHigh
      _ = 2 ^ ((a.log2 : ℤ) - b.log2 + 1) * 2 ^ (b.log2 : ℤ) := by
          rw [← zpow_add₀ two_ne_zero]; ring_nf
      _ ≤ 2 ^ ((a.log2 : ℤ) - b.log2 + 1) * b := by gcongr

theorem nearest_eq (negative : Bool) {a b : ℕ} (nonzero : a ≠ 0) (positive : 0 < b) :
    ∃ e : ℤ, (2 : ℚ) ^ e ≤ a / b ∧ (a / b : ℚ) < 2 ^ (e + 1) ∧
      nearest negative a b =
        if scaledRound a b (max (e - 52) (-1074)) = 9007199254740992 then
          assemble negative 4503599627370496 (max (e - 52) (-1074) + 1)
        else assemble negative (scaledRound a b (max (e - 52) (-1074))) (max (e - 52) (-1074)) := by
  obtain ⟨low, high⟩ := quotient_bounds nonzero positive
  set e0 : ℤ := (a.log2 : ℤ) - b.log2
  -- the binade is `e0` or the one below, as the comparison with `2 ^ e0` tells
  have binade : ∀ e : ℤ, e = (if 0 ≤ e0 then (if a < b * 2 ^ e0.toNat then e0 - 1 else e0)
      else (if a * 2 ^ (-e0).toNat < b then e0 - 1 else e0)) →
      (2 : ℚ) ^ e ≤ a / b ∧ (a / b : ℚ) < 2 ^ (e + 1) := by
    rintro e rfl
    split_ifs with up below below
    · exact ⟨low, by rw [sub_add_cancel]; exact (quotient_lt_two_zpow_iff positive up).mp below⟩
    · exact ⟨not_lt.mp (mt (quotient_lt_two_zpow_iff positive up).mpr below), high⟩
    · have down : e0 < 0 := by omega
      exact ⟨low, by rw [sub_add_cancel]; exact (quotient_lt_two_zpow_iff_of_neg positive down).mp below⟩
    · have down : e0 < 0 := by omega
      exact ⟨not_lt.mp (mt (quotient_lt_two_zpow_iff_of_neg positive down).mpr below), high⟩
  refine ⟨_, (binade _ rfl).1, (binade _ rfl).2, ?_⟩
  · delta nearest
    show (if a = 0 then assemble negative 0 (-1074) else _) = _
    rw [if_neg nonzero]
    rfl

/-- The mantissas and exponents of finite floats: normal, with a 53-bit mantissa, or subnormal at
the least exponent. -/
def Encodable (m : ℕ) (q : ℤ) : Prop :=
  (4503599627370496 ≤ m ∧ m < 9007199254740992 ∧ -1074 ≤ q ∧ q ≤ 971) ∨
    (m < 4503599627370496 ∧ q = -1074)

/-- Half the gap from `m · 2 ^ q` down to the float below: a quarter of a step at the bottom of a
binade above the least exponent, where the steps below are half as wide, and half a step
elsewhere. -/
def lowerHalfGap (m : ℕ) (q : ℤ) : ℚ :=
  if m = 4503599627370496 ∧ -1074 < q then 2 ^ (q - 2) else 2 ^ (q - 1)

/-- The rationals that round to `m · 2 ^ q`, to nearest with ties to an even mantissa: within half
the gap to the float on either side, the two ends included when `m` is even. -/
def RoundsTo (m : ℕ) (q : ℤ) (v : ℚ) : Prop :=
  (m * 2 ^ q - lowerHalfGap m q < v ∨ (m * 2 ^ q - lowerHalfGap m q = v ∧ m % 2 = 0)) ∧
    (v < m * 2 ^ q + 2 ^ (q - 1) ∨ (v = m * 2 ^ q + 2 ^ (q - 1) ∧ m % 2 = 0))

theorem exponent_lt {e f : ℤ} {v : ℚ} (low : (2 : ℚ) ^ e ≤ v) (high : v < 2 ^ f) : e < f :=
  (zpow_lt_zpow_iff_right₀ one_lt_two).mp (low.trans_lt high)

theorem two_zpow_shifts (q : ℤ) :
    (2 : ℚ) ^ (q - 1) = 2 ^ q / 2 ∧ (2 : ℚ) ^ (q - 2) = 2 ^ q / 4 ∧
      ∀ k : ℕ, (2 : ℚ) ^ (q + k) = 2 ^ k * 2 ^ q := by
  refine ⟨by rw [zpow_sub₀ two_ne_zero, zpow_one], ?_, fun k => ?_⟩
  · rw [zpow_sub₀ two_ne_zero]
    norm_num
  · rw [zpow_add₀ two_ne_zero, zpow_natCast, mul_comm]

theorem lowerHalfGap_le (m : ℕ) (q : ℤ) : lowerHalfGap m q ≤ 2 ^ q / 2 := by
  obtain ⟨half, quarter, -⟩ := two_zpow_shifts q
  have unit : (0 : ℚ) < 2 ^ q := zpow_pos two_pos q
  unfold lowerHalfGap
  split_ifs
  · rw [quarter]
    linarith
  · rw [half]

theorem RoundsTo.pos {m : ℕ} {q : ℤ} {v : ℚ} (nonzero : 0 < m) (rounds : RoundsTo m q v) : 0 < v := by
  have unit : (0 : ℚ) < 2 ^ q := zpow_pos two_pos q
  have mantissa : (1 : ℚ) ≤ m := by exact_mod_cast nonzero
  have gap := lowerHalfGap_le m q
  rcases rounds.1 with lt | ⟨eq, -⟩ <;> nlinarith

theorem RoundsTo.lt_top {m : ℕ} {q : ℤ} {v : ℚ} (encodable : Encodable m q)
    (rounds : RoundsTo m q v) : v < 2 ^ (q + 53) := by
  obtain ⟨half, -, scale⟩ := two_zpow_shifts q
  have unit : (0 : ℚ) < 2 ^ q := zpow_pos two_pos q
  have bound : (m : ℚ) ≤ 9007199254740991 := by
    rcases encodable with normal | subnormal
    · exact_mod_cast (by omega : m ≤ 9007199254740991)
    · exact_mod_cast (by omega : m ≤ 9007199254740991)
  have reach := scale 53
  norm_num at reach
  rw [reach]
  rcases rounds.2 with lt | ⟨eq, -⟩ <;> rw [half] at * <;> nlinarith

theorem rounding_carried {a b : ℕ} {q e : ℤ} (positive : 0 < b) (inner : -1074 < q)
    (rounds : RoundsTo 4503599627370496 q (a / b)) (under : (a / b : ℚ) < 2 ^ (q + 52))
    (low : (2 : ℚ) ^ e ≤ a / b) (high : (a / b : ℚ) < 2 ^ (e + 1)) :
    max (e - 52) (-1074) = q - 1 ∧ scaledRound a b (q - 1) = 9007199254740992 := by
  obtain ⟨half, quarter, scale⟩ := two_zpow_shifts q
  have unit : (0 : ℚ) < 2 ^ q := zpow_pos two_pos q
  have narrow : lowerHalfGap 4503599627370496 q = 2 ^ q / 4 := by
    rw [lowerHalfGap, if_pos ⟨rfl, inner⟩, quarter]
  obtain ⟨above, -⟩ := rounds
  rw [narrow] at above
  have reach := scale 52
  have floor := scale 51
  norm_num at reach floor
  rw [reach] at under
  have lowBinade : q + 51 < e + 1 := by
    refine exponent_lt ?_ high
    rw [floor]
    rcases above with lt | ⟨eq, -⟩ <;> push_cast at * <;> nlinarith
  have highBinade : e < q + 52 := exponent_lt low (by rw [reach]; exact under)
  refine ⟨by omega, scaledRound_eq positive ?_⟩
  -- the quotient is within half a step below `2 ^ 53` steps of `2 ^ (q - 1)`, and `2 ^ 53` is even
  rw [half]
  constructor
  · rcases above with lt | ⟨eq, -⟩
    · left
      push_cast at *
      linarith
    · right
      refine ⟨?_, by norm_num⟩
      push_cast at *
      linarith
  · left
    push_cast at *
    linarith

theorem rounding_in_binade {m a b : ℕ} {q e : ℤ} (encodable : Encodable m q) (positive : 0 < b)
    (rounds : RoundsTo m q (a / b))
    (noCarry : ¬(m = 4503599627370496 ∧ -1074 < q ∧ (a / b : ℚ) < 2 ^ (q + 52)))
    (low : (2 : ℚ) ^ e ≤ a / b) (high : (a / b : ℚ) < 2 ^ (e + 1)) :
    max (e - 52) (-1074) = q ∧ scaledRound a b q = m := by
  obtain ⟨half, -, scale⟩ := two_zpow_shifts q
  have unit : (0 : ℚ) < 2 ^ q := zpow_pos two_pos q
  have top := exponent_lt low (rounds.lt_top encodable)
  have reach := scale 52
  norm_num at reach
  obtain ⟨above, below⟩ := rounds
  push Not at noCarry
  constructor
  · by_cases least : q = -1074
    · omega
    have normal : 4503599627370496 ≤ m ∧ -1074 < q := by
      rcases encodable with normal | subnormal
      · exact ⟨normal.1, by omega⟩
      · omega
    -- a normal value: the quotient reaches the binade's bottom `2 ^ (q + 52)`
    have floor : (2 : ℚ) ^ (q + 52) ≤ a / b := by
      by_cases bottom : m = 4503599627370496
      · exact noCarry bottom normal.2
      · have more : (4503599627370497 : ℚ) ≤ m := by
          exact_mod_cast (by omega : 4503599627370497 ≤ m)
        have gap := lowerHalfGap_le m q
        rw [reach]
        rcases above with lt | ⟨eq, -⟩ <;> nlinarith
    have := exponent_lt floor high
    omega
  · apply scaledRound_eq positive
    constructor
    · by_cases bottom : m = 4503599627370496 ∧ -1074 < q
      · -- a binade's bottom: not a carry, so the quotient is at least `m · 2 ^ q`
        have floor := noCarry bottom.1 bottom.2
        have bits : (m : ℚ) = 4503599627370496 := by exact_mod_cast bottom.1
        rw [reach] at floor
        left
        rw [bits]
        linarith
      · rw [lowerHalfGap, if_neg bottom, half] at above
        rcases above with lt | ⟨eq, even⟩
        · exact .inl (by linarith)
        · exact .inr ⟨by linarith, even⟩
    · rw [half] at below
      rcases below with lt | ⟨eq, even⟩
      · exact .inl (by linarith)
      · exact .inr ⟨by linarith, even⟩

/-- Every rational that rounds to a positive finite value is read as that value: `nearest` finds
its binade, and rounding in it gives the value's mantissa, or `2 ^ 53` one binade lower when the
rational lies just below a power of two. -/
theorem nearest_eq_of_roundsTo (negative : Bool) {m a b : ℕ} {q : ℤ} (encodable : Encodable m q)
    (nonzero : 0 < m) (positive : 0 < b) (rounds : RoundsTo m q (a / b)) :
    nearest negative a b = assemble negative m q := by
  have present : a ≠ 0 := by
    rintro rfl
    simpa using rounds.pos nonzero
  obtain ⟨e, low, high, rounded⟩ := nearest_eq negative present positive
  rw [rounded]
  by_cases carry : m = 4503599627370496 ∧ -1074 < q ∧ (a / b : ℚ) < 2 ^ (q + 52)
  · obtain ⟨rfl, inner, under⟩ := carry
    obtain ⟨exponent, round⟩ := rounding_carried positive inner rounds under low high
    rw [exponent, if_pos round, sub_add_cancel]
  · obtain ⟨exponent, round⟩ := rounding_in_binade encodable positive rounds carry low high
    have notCarry : m ≠ 9007199254740992 := by
      rcases encodable with normal | subnormal <;> omega
    rw [exponent, round, if_neg notCarry]

theorem ofFloat_assemble_subnormal (negative : Bool) {m : Nat} (small : m < 4503599627370496) :
    Binary.ofFloat (assemble negative m (-1074)) = .finite negative m (-1074) := by
  have assembled : assemble negative m (-1074) =
      Float.ofBits (UInt64.ofNat ((if negative then 9223372036854775808 else 0) + m)) := by
    delta assemble
    show Float.ofBits ((if negative then 9223372036854775808 else 0) + (if m < 4503599627370496 then m
      else if (-1074 : Int) + 1075 ≥ 2047 then 2047 * 4503599627370496
      else ((-1074 : Int) + 1075).toNat * 4503599627370496 + (m - 4503599627370496))).toUInt64 = _
    rw [if_pos small]
  have word : (if negative then 9223372036854775808 else 0) + m < 18446744073709551616 := by
    split_ifs <;> omega
  have read := UInt64.toNat_ofNat_of_lt' word
  rw [assembled, Binary.ofFloat_eq, toBits_ofBits (by rw [read]; split_ifs <;> omega), read]
  cases negative
  · simp only [Bool.false_eq_true, if_false, Nat.zero_add]
    rw [if_neg (by omega), if_pos (by omega), Nat.mod_eq_of_lt small]
    congr 1
    exact decide_eq_false (by omega)
  · simp only [if_true]
    rw [if_neg (by omega), if_pos (by omega)]
    congr 1
    · exact decide_eq_true (by omega)
    · omega

/-- Putting a finite float's sign, mantissa and exponent back together gives the float. -/
theorem assemble_eq_of_ofFloat {x : Float} {negative : Bool} {m : Nat} {q : Int}
    (decoded : Binary.ofFloat x = .finite negative m q) : assemble negative m q = x := by
  have number : Binary.ofFloat (assemble negative m q) = .finite negative m q := by
    rcases Binary.ofFloat_finite decoded with ⟨low, high, least, most⟩ | ⟨small, rfl⟩
    · exact ofFloat_assemble_normal negative low high least most
    · exact ofFloat_assemble_subnormal negative small
  exact Binary.ofFloat_injective (number.trans decoded.symm) (by rw [number]; simp)

theorem nearest_eq_self {x : Float} {negative : Bool} {m a b : ℕ} {q : ℤ}
    (decoded : Binary.ofFloat x = .finite negative m q) (nonzero : 0 < m) (positive : 0 < b)
    (rounds : RoundsTo m q (a / b)) : nearest negative a b = x :=
  (nearest_eq_of_roundsTo negative (Binary.ofFloat_finite decoded) nonzero positive rounds).trans
    (assemble_eq_of_ofFloat decoded)

theorem nearest_zero (negative : Bool) (b : ℕ) : nearest negative 0 b = assemble negative 0 (-1074) := by
  delta nearest
  show (if (0 : ℕ) = 0 then assemble negative 0 (-1074) else _) = _
  rw [if_pos rfl]

end LuaIntrospect.Decimal
