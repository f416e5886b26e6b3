import Mathlib
import LuaIntrospect.Proofs.DecimalDigits

/-! The text of a float. Main statement: `float_text_reads_back`. -/
namespace LuaIntrospect

open Decimal

namespace Decimal

theorem magnitude_eq_iff {m N : ℕ} {q : ℤ} :
    (m : ℚ) * 2 ^ q = N ↔ m * 2 ^ q.toNat = N * 2 ^ (-q).toNat := by
  by_cases up : 0 ≤ q
  · obtain ⟨k, rfl⟩ := Int.eq_ofNat_of_zero_le up
    simp only [zpow_natCast, Int.toNat_natCast, show (-(k : ℤ)).toNat = 0 by omega, pow_zero,
      mul_one]
    exact_mod_cast Iff.rfl
  · obtain ⟨k, rfl⟩ : ∃ k : ℕ, q = -(k : ℤ) := ⟨(-q).toNat, by omega⟩
    simp only [zpow_neg, zpow_natCast, neg_neg, Int.toNat_natCast,
      show (-(k : ℤ)).toNat = 0 by omega, pow_zero, mul_one]
    rw [← div_eq_mul_inv, div_eq_iff (by positivity)]
    exact_mod_cast Iff.rfl

theorem integral?_of_magnitude {negative : Bool} {m N : ℕ} {q : ℤ} (exact : (m : ℚ) * 2 ^ q = N) :
    (Binary.finite negative m q).integral? = some (if negative then -(N : ℤ) else N) :=
  Binary.integral?_of_scaled (magnitude_eq_iff.mp exact)

theorem magnitude_of_integral? {negative : Bool} {m : ℕ} {q : ℤ} {i : ℤ}
    (found : (Binary.finite negative m q).integral? = some i) : (m : ℚ) * 2 ^ q = i.natAbs :=
  magnitude_eq_iff.mpr (Binary.integral?_finite_eq_some found).1.symm

theorem eq_of_roundsTo_nat {m N : ℕ} {q : ℤ} (fractional : q < 0) (rounds : RoundsTo m q N) :
    (m : ℚ) * 2 ^ q = N := by
  obtain ⟨k, rfl⟩ : ∃ k : ℕ, q = -(k : ℤ) := ⟨(-q).toNat, by omega⟩
  set u : ℚ := 2 ^ (-(k : ℤ)) with u_def
  have unit : 0 < u := zpow_pos two_pos _
  have inverse : u * 2 ^ k = 1 := by
    rw [u_def, zpow_neg, zpow_natCast, inv_mul_cancel₀ (by positivity)]
  have gap := lowerHalfGap_le m (-(k : ℤ))
  obtain ⟨half, -, -⟩ := two_zpow_shifts (-(k : ℤ))
  rw [← u_def] at gap half
  -- the distance `N · 2 ^ k - m` is an integer of magnitude at most one half
  set z : ℤ := (N * 2 ^ k : ℕ) - m with z_def
  have scaled : (N : ℚ) - m * u = z * u := by
    rw [z_def]
    push_cast
    linear_combination (-(N : ℚ)) * inverse
  have below : z < 1 := by
    have : (z : ℚ) * u ≤ u / 2 := by
      rcases rounds.2 with lt | ⟨eq, -⟩ <;> rw [half] at * <;> linarith
    have : (z : ℚ) < 1 := by nlinarith
    exact_mod_cast this
  have above : -1 < z := by
    have : -(u / 2) ≤ (z : ℚ) * u := by
      rcases rounds.1 with lt | ⟨eq, -⟩ <;> linarith
    have : (-1 : ℚ) < z := by nlinarith
    exact_mod_cast this
  have zero : z = 0 := by omega
  rw [zero, Int.cast_zero, zero_mul] at scaled
  linarith

theorem shortest_exponent_neg {m : ℕ} {q : ℤ} (nonzero : 0 < m)
    (fractional : ∀ N : ℕ, (m : ℚ) * 2 ^ q ≠ N) : q < 0 ∧ (shortest m q).exponent < 0 := by
  have below : q < 0 := by
    by_contra up
    exact fractional (m * 2 ^ q.toNat) (magnitude_eq_iff.mpr (by
      rw [show (-q).toNat = 0 by omega, pow_zero, mul_one]))
  refine ⟨below, ?_⟩
  by_contra whole
  obtain ⟨k, exponent⟩ := Int.eq_ofNat_of_zero_le (Int.not_lt.mp whole)
  have natural : (shortest m q).value = ((shortest m q).digits * 10 ^ k : ℕ) := by
    rw [Scientific.value, exponent, zpow_natCast]
    push_cast
    rfl
  have rounds := shortest_roundsTo q nonzero
  rw [natural] at rounds
  exact fractional _ (eq_of_roundsTo_nat below rounds)

theorem ofDecimal_zero (negative : Bool) (e : ℤ) : ofDecimal negative 0 e = nearest negative 0 1 := by
  delta ofDecimal
  dsimp only
  rw [if_pos rfl]

theorem readFloat_point {negative : Bool} {whole frac : List Char}
    (digits : ∀ c ∈ whole ++ frac, c.isDigit = true) (nonempty : whole ≠ []) :
    readFloat ((if negative then "-" else "") ++ String.ofList (whole ++ '.' :: frac)) =
      some (ofDecimal negative (digitsValue (whole ++ frac)) (-(frac.length : ℤ))) := by
  obtain ⟨c, rest, rfl⟩ := List.exists_cons_of_ne_nil nonempty
  exact readFloat_signed (digits c (by simp)) (readUnsigned_point digits nonempty)

theorem ofDecimal_zero_eq_self {x : Float} {negative : Bool} {q : ℤ}
    (decoded : Binary.ofFloat x = .finite negative 0 q) (e : ℤ) : ofDecimal negative 0 e = x := by
  have least : q = -1074 := by
    rcases Binary.ofFloat_finite decoded with normal | subnormal
    · omega
    · exact subnormal.2
  subst least
  rw [ofDecimal_zero, nearest_zero]
  exact assemble_eq_of_ofFloat decoded

end Decimal

theorem floatText_integral {x : Float} {negative : Bool} {m : ℕ} {q : ℤ} {i : ℤ}
    (decoded : Binary.ofFloat x = .finite negative m q)
    (found : (Binary.finite negative m q).integral? = some i) :
    floatText x = (if negative then "-" else "") ++ toString i.natAbs ++ ".0" := by
  unfold floatText
  rw [decoded]
  simp only [found]

theorem floatText_fractional {x : Float} {negative : Bool} {m : ℕ} {q : ℤ}
    (decoded : Binary.ofFloat x = .finite negative m q)
    (none : (Binary.finite negative m q).integral? = none) :
    floatText x = (if negative then "-" else "") ++ (shortest m q).positional := by
  unfold floatText
  rw [decoded]
  simp only [none]

theorem floatText_of_magnitude {x : Float} {negative : Bool} {m N : ℕ} {q : ℤ}
    (decoded : Binary.ofFloat x = .finite negative m q) (exact : (m : ℚ) * 2 ^ q = N) :
    floatText x = (if negative then "-" else "") ++ toString N ++ ".0" := by
  rw [floatText_integral decoded (integral?_of_magnitude exact)]
  congr 3
  split_ifs <;> simp

theorem floatText_point {x : Float} {negative : Bool} {m : ℕ} {q : ℤ}
    (decoded : Binary.ofFloat x = .finite negative m q) (fractional : ∀ N : ℕ, (m : ℚ) * 2 ^ q ≠ N) :
    (Binary.finite negative m q).integral? = none ∧ 0 < m ∧
      ∃ whole frac : List Char, whole ≠ [] ∧ frac ≠ [] ∧ (∀ c ∈ whole ++ frac, c.isDigit = true) ∧
        digitsValue (whole ++ frac) = (shortest m q).digits ∧
        (frac.length : ℤ) = -(shortest m q).exponent ∧
        floatText x = (if negative then "-" else "") ++ String.ofList (whole ++ '.' :: frac) := by
  have none : (Binary.finite negative m q).integral? = none := by
    cases found : (Binary.finite negative m q).integral? with
    | none => rfl
    | some i => exact absurd (magnitude_of_integral? found) (fractional _)
  have nonzero : 0 < m := by
    apply Nat.pos_of_ne_zero
    rintro rfl
    exact fractional 0 (by simp)
  obtain ⟨-, negativeExponent⟩ := shortest_exponent_neg nonzero fractional
  obtain ⟨whole, frac, filled, count, digits, value, text⟩ :=
    positional_of_neg (shortest m q) negativeExponent
  refine ⟨none, nonzero, whole, frac, filled, ?_, digits, value, by omega, ?_⟩
  · rw [← List.length_pos_iff]
    omega
  · rw [floatText_fractional decoded none, text]

theorem floatText_tenths {x : Float} {negative : Bool} {m N : ℕ} {q : ℤ}
    (decoded : Binary.ofFloat x = .finite negative m q) (exact : (m : ℚ) * 2 ^ q = N) :
    (∀ c ∈ Nat.toDigits 10 N ++ ['0'], c.isDigit = true) ∧
      digitsValue (Nat.toDigits 10 N ++ ['0']) = 10 * N ∧
      floatText x = (if negative then "-" else "") ++
        String.ofList (Nat.toDigits 10 N ++ '.' :: ['0']) := by
  refine ⟨fun c member => ?_, ?_, ?_⟩
  · rcases List.mem_append.mp member with digit | zero
    · exact Nat.isDigit_of_mem_toDigits (by norm_num) (by norm_num) digit
    · rw [List.mem_singleton.mp zero]
      rfl
  · rw [digitsValue_eq, Nat.ofDigitChars_append, Nat.ofDigitChars_ten_toDigits]
    simp [Nat.ofDigitChars_cons]
  · rw [floatText_of_magnitude decoded exact, String.append_assoc]
    congr 1
    rw [String.ofList_append, Nat.toString_eq_ofList_toDigits]

theorem readFloat_floatText {x : Float} {negative : Bool} {m : ℕ} {q : ℤ}
    (decoded : Binary.ofFloat x = .finite negative m q) : readFloat (floatText x) = some x := by
  by_cases integral : ∃ N : ℕ, (m : ℚ) * 2 ^ q = N
  · -- the digits of `N` and `.0` read as `10 · N` tenths, which is the value
    obtain ⟨N, exact⟩ := integral
    obtain ⟨digits, tenths, text⟩ := floatText_tenths decoded exact
    rw [text, readFloat_point digits Nat.toDigits_ne_nil, tenths]
    congr 1
    rcases Nat.eq_zero_or_pos m with empty | nonzero
    · subst empty
      have zero : N = 0 := by
        rw [Nat.cast_zero, zero_mul] at exact
        exact_mod_cast exact.symm
      rw [zero, Nat.mul_zero]
      exact ofDecimal_zero_eq_self decoded _
    · apply ofDecimal_eq_self decoded nonzero
      have tenth : ((10 * N : ℕ) : ℚ) * 10 ^ (-((['0'] : List Char).length : ℤ)) = m * 2 ^ q := by
        rw [exact, List.length_singleton, Nat.cast_one, zpow_neg_one]
        push_cast
        ring
      rw [tenth]
      exact roundsTo_self m q
  · -- the shortest decimal reads back as the float
    push Not at integral
    obtain ⟨-, nonzero, whole, frac, filled, -, digits, value, count, text⟩ :=
      floatText_point decoded integral
    rw [text, readFloat_point digits filled, value, count, neg_neg]
    congr 1
    exact ofDecimal_eq_self decoded nonzero (shortest_roundsTo q nonzero)

theorem intText_chars (n : ℤ) : ∀ c ∈ (toString n).toList, c.isDigit = true ∨ c = '-' := by
  have digits : ∀ k : ℕ, ∀ c ∈ k.repr.toList, c.isDigit = true := fun k c member => by
    rw [Nat.toList_repr] at member
    exact Nat.isDigit_of_mem_toDigits (by norm_num) (by norm_num) member
  intro c member
  cases n with
  | ofNat k => exact .inl (digits k c member)
  | negSucc k =>
    change c ∈ ("-" ++ (k + 1).repr).toList at member
    rw [String.toList_append] at member
    rcases List.mem_append.mp member with minus | digit
    · exact .inr (List.mem_singleton.mp minus)
    · exact .inl (digits (k + 1) c digit)

theorem floatText_nan {x : Float} (nan : Binary.ofFloat x = .nan) : floatText x = "NaN" := by
  unfold floatText
  rw [nan]

theorem floatText_inf {x : Float} {negative : Bool} (inf : Binary.ofFloat x = .inf negative) :
    floatText x = if negative then "-inf" else "inf" := by
  unfold floatText
  rw [inf]

theorem floatText_mark (x : Float) : ∃ c ∈ (floatText x).toList, c.isDigit = false ∧ c ≠ '-' := by
  rcases decoded : Binary.ofFloat x with _ | negative | ⟨negative, m, q⟩
  · exact ⟨'N', by simp [floatText_nan decoded], by decide, by decide⟩
  · refine ⟨'i', ?_, by decide, by decide⟩
    rw [floatText_inf decoded]
    cases negative <;> simp
  · refine ⟨'.', ?_, by decide, by decide⟩
    by_cases integral : ∃ N : ℕ, (m : ℚ) * 2 ^ q = N
    · obtain ⟨N, exact⟩ := integral
      simp [floatText_of_magnitude decoded exact]
    · push Not at integral
      obtain ⟨-, -, whole, frac, -, -, -, -, -, text⟩ := floatText_point decoded integral
      simp [text]

/-- The text of a float and of a number value: a float never reads like an integer. `NaN`, `inf`
and `-inf` name the special values. A float whose value is a natural `N` is written with the sign,
every digit of `N` and `.0`, `-0.0` for the negative zero; any other finite float with the sign,
digits, a point and more digits, and no exponent. Every finite float reads back from its text as
itself, rounding to nearest. -/
theorem float_text_reads_back (x : Float) :
    (∀ i : Int64, (Value.num x).scalarText? ≠ (Value.int i).scalarText?) ∧
    (Binary.ofFloat x = .nan → floatText x = "NaN") ∧
    (∀ negative, Binary.ofFloat x = .inf negative →
      floatText x = if negative then "-inf" else "inf") ∧
    (∀ negative m q, Binary.ofFloat x = .finite negative m q →
      (∀ N : ℕ, (m : ℚ) * 2 ^ q = N →
        floatText x = (if negative then "-" else "") ++ toString N ++ ".0") ∧
      ((∀ N : ℕ, (m : ℚ) * 2 ^ q ≠ N) → ∃ whole frac : List Char, whole ≠ [] ∧ frac ≠ [] ∧
        (∀ c ∈ whole ++ frac, c.isDigit = true) ∧
        floatText x = (if negative then "-" else "") ++ String.ofList (whole ++ '.' :: frac)) ∧
      readFloat (floatText x) = some x) := by
  refine ⟨?_, floatText_nan, fun _ => floatText_inf, fun negative m q decoded => ?_⟩
  · -- the text of a float has a mark that the text of an integer lacks
    intro i same
    obtain ⟨c, member, notDigit, notMinus⟩ := floatText_mark x
    have text : floatText x = toString i.toInt := Option.some.inj same
    rw [text] at member
    rcases intText_chars i.toInt c member with digit | minus
    · rw [digit] at notDigit
      cases notDigit
    · exact notMinus minus
  refine ⟨fun N exact => floatText_of_magnitude decoded exact, fun fractional => ?_,
    readFloat_floatText decoded⟩
  obtain ⟨-, -, whole, frac, filled, point, digits, -, -, text⟩ := floatText_point decoded fractional
  exact ⟨whole, frac, filled, point, digits, text⟩

/-- The float nearest to `0.1`, by its bits. -/
def floatTenth : Float := Float.ofBits 0x3FB999999999999A

/-- The float nearest to `0.1` is written `0.1`, the shortest text that reads back, and is read
back from it. -/
theorem floatTenth_reads_back :
    Binary.ofFloat floatTenth = .finite false 7205759403792794 (-56) ∧ floatText floatTenth = "0.1" ∧
      readFloat "0.1" = some floatTenth := by
  have decoded : Binary.ofFloat floatTenth = .finite false 7205759403792794 (-56) := by
    decide +kernel
  have text : floatText floatTenth = "0.1" := by decide +kernel
  refine ⟨decoded, text, ?_⟩
  rw [← text]
  exact ((float_text_reads_back floatTenth).2.2.2 false 7205759403792794 (-56) decoded).2.2

end LuaIntrospect
