import Mathlib
import LuaIntrospect.Proofs.Rounding
import LuaIntrospect.Value.Text
import LuaIntrospect.Decimal.Read

/-! Decimal texts of floats, read back: `shortest_roundsTo`, `ofDecimal_eq_self` and
`readUnsigned_point`. -/

namespace LuaIntrospect.Decimal

theorem powerFraction_value (base x : ℕ) (p : ℤ) {f : ℕ × ℕ} (positive : 0 < base)
    (fraction : f = if 0 ≤ p then (x * base ^ p.toNat, 1) else (x, base ^ (-p).toNat)) :
    0 < f.2 ∧ (f.1 : ℚ) / f.2 = x * (base : ℚ) ^ p := by
  subst fraction
  by_cases up : 0 ≤ p
  · obtain ⟨k, rfl⟩ := Int.eq_ofNat_of_zero_le up
    simp
  · obtain ⟨k, rfl⟩ : ∃ k : ℕ, p = -(k : ℤ) := ⟨(-p).toNat, by omega⟩
    simp only [if_neg up, neg_neg, Int.toNat_natCast, zpow_neg, zpow_natCast]
    exact ⟨Nat.pow_pos positive, by push_cast; ring⟩

theorem scaleTen_value (x : ℕ) (p : ℤ) :
    0 < (scaleTen x p).2 ∧ ((scaleTen x p).1 : ℚ) / (scaleTen x p).2 = x * 10 ^ p := by
  have unfolded : scaleTen x p = if 0 ≤ p then (x * 10 ^ p.toNat, 1) else (x, 10 ^ (-p).toNat) := by
    delta scaleTen
    rfl
  exact_mod_cast powerFraction_value 10 x p (by norm_num) unfolded

theorem scaleTwo_value (x : ℕ) (p : ℤ) :
    0 < (scaleTwo x p).2 ∧ ((scaleTwo x p).1 : ℚ) / (scaleTwo x p).2 = x * 2 ^ p := by
  have unfolded : scaleTwo x p = if 0 ≤ p then (x * 2 ^ p.toNat, 1) else (x, 2 ^ (-p).toNat) := by
    delta scaleTwo
    rfl
  exact_mod_cast powerFraction_value 2 x p (by norm_num) unfolded

theorem compareFractions_eq {x y : ℕ × ℕ} (hx : 0 < x.2) (hy : 0 < y.2) :
    compareFractions x y = compare ((x.1 : ℚ) / x.2) ((y.1 : ℚ) / y.2) := by
  have cross : ∀ {a b c d : ℕ}, 0 < b → 0 < d → ((a : ℚ) / b < c / d ↔ a * d < c * b) := by
    intro a b c d hb hd
    rw [div_lt_div_iff₀ (by exact_mod_cast hb) (by exact_mod_cast hd)]
    norm_cast
  unfold compareFractions
  rcases lt_trichotomy (x.1 * y.2) (y.1 * x.2) with lt | eq | gt
  · rw [Nat.compare_eq_lt.mpr lt, eq_comm, compare_lt_iff_lt, cross hx hy]
    exact lt
  · rw [Nat.compare_eq_eq.mpr eq, eq_comm, compare_eq_iff_eq,
      div_eq_div_iff (by positivity) (by positivity)]
    exact_mod_cast eq
  · rw [Nat.compare_eq_gt.mpr gt, eq_comm, compare_gt_iff_gt, cross hy hx]
    exact gt

theorem roundingInterval_ends {m : ℕ} (q : ℤ) (nonzero : 0 < m) :
    ((roundingInterval m q).1 : ℚ) * 2 ^ (q - 2) = m * 2 ^ q - lowerHalfGap m q ∧
      ((roundingInterval m q).2.2 : ℚ) * 2 ^ (q - 2) = m * 2 ^ q + 2 ^ (q - 1) := by
  have unfolded : roundingInterval m q =
      (if m = 4503599627370496 ∧ q > -1074 then 4 * m - 1 else 4 * m - 2, 4 * m, 4 * m + 2) := by
    delta roundingInterval
    rfl
  obtain ⟨half, quarter, -⟩ := two_zpow_shifts q
  rw [unfolded, lowerHalfGap, half, quarter]
  constructor
  · split_ifs with bottom
    · rw [Nat.cast_sub (by omega)]
      push_cast
      ring
    · rw [Nat.cast_sub (by omega)]
      push_cast
      ring
  · push_cast
    ring

theorem roundsTo_of_inInterval {m c : ℕ} {q p : ℤ} (nonzero : 0 < m)
    (inside : inInterval m q c p = true) : RoundsTo m q (c * 10 ^ p) := by
  unfold inInterval at inside
  simp only [Bool.and_eq_true] at inside
  obtain ⟨above, below⟩ := inside
  obtain ⟨pointPos, point⟩ := scaleTen_value c p
  obtain ⟨lowPos, lowEnd⟩ := scaleTwo_value (roundingInterval m q).1 (q - 2)
  obtain ⟨highPos, highEnd⟩ := scaleTwo_value (roundingInterval m q).2.2 (q - 2)
  obtain ⟨lowEq, highEq⟩ := roundingInterval_ends q nonzero
  rw [compareFractions_eq pointPos lowPos, point, lowEnd, lowEq] at above
  rw [compareFractions_eq pointPos highPos, point, highEnd, highEq] at below
  constructor
  · split at above
    · next order => exact .inl (compare_gt_iff_gt.mp order)
    · next order => exact .inr ⟨(compare_eq_iff_eq.mp order).symm, of_decide_eq_true above⟩
    · cases above
  · split at below
    · next order => exact .inl (compare_lt_iff_lt.mp order)
    · next order => exact .inr ⟨compare_eq_iff_eq.mp order, of_decide_eq_true below⟩
    · cases below

theorem inInterval_of_onGrid {m k : ℕ} {q : ℤ} {s : Scientific} (found : onGrid m q k = some s) :
    inInterval m q s.digits s.exponent = true := by
  unfold onGrid at found
  simp only at found
  generalize gridNeighbours m q (decimalExponent m q - k + 1) = grid at found
  generalize decimalExponent m q - k + 1 = p at found
  split at found
  · next lowerIn upperIn =>
    cases found
    split_ifs
    · exact lowerIn
    · exact upperIn
  · next lowerIn _ =>
    cases found
    exact lowerIn
  · next _ upperIn =>
    cases found
    exact upperIn
  · cases found

/-- The value of a decimal. -/
def Scientific.value (s : Scientific) : ℚ := s.digits * 10 ^ s.exponent

theorem normalize_go_value (fuel d : ℕ) (e : ℤ) :
    (Scientific.normalize.go fuel d e).value = d * 10 ^ e := by
  induction fuel generalizing d e with
  | zero => rfl
  | succ fuel ih =>
    rw [Scientific.normalize.go]
    split_ifs with trailing
    · -- a trailing zero moves into the exponent
      rw [ih]
      obtain ⟨r, rfl⟩ := Nat.dvd_of_mod_eq_zero trailing.2
      rw [Nat.mul_div_cancel_left r (by norm_num), zpow_add_one₀ (by norm_num)]
      push_cast
      ring
    · rfl

theorem normalize_value (s : Scientific) : s.normalize.value = s.value :=
  normalize_go_value _ _ _

theorem roundsTo_self (m : ℕ) (q : ℤ) : RoundsTo m q (m * 2 ^ q) := by
  have unit : (0 : ℚ) < 2 ^ q := zpow_pos two_pos q
  have gap : 0 < lowerHalfGap m q := by
    unfold lowerHalfGap
    split_ifs <;> exact zpow_pos two_pos _
  exact ⟨.inl (by linarith), .inl (by linarith [zpow_pos (two_pos : (0 : ℚ) < 2) (q - 1)])⟩

/-- The decimal `shortest` gives rounds to the value: a grid point passed the interval check,
and the fallback is the value itself. -/
theorem shortest_roundsTo {m : ℕ} (q : ℤ) (nonzero : 0 < m) : RoundsTo m q (shortest m q).value := by
  have unfolded : shortest m q = (((List.range 17).findSome? fun k => onGrid m q (k + 1)).getD
      (if 0 ≤ q then ⟨m * 2 ^ q.toNat, 0⟩ else ⟨m * 5 ^ (-q).toNat, q⟩)).normalize := by
    delta shortest
    rfl
  rw [unfolded, normalize_value]
  cases found : (List.range 17).findSome? fun k => onGrid m q (k + 1) with
  | some s =>
    obtain ⟨k, -, grid⟩ := List.exists_of_findSome?_eq_some found
    exact roundsTo_of_inInterval nonzero (inInterval_of_onGrid grid)
  | none =>
    convert roundsTo_self m q using 1
    simp only [Option.getD_none]
    split_ifs with up
    · obtain ⟨k, rfl⟩ := Int.eq_ofNat_of_zero_le up
      simp [Scientific.value]
    · obtain ⟨k, rfl⟩ : ∃ k : ℕ, q = -(k : ℤ) := ⟨(-q).toNat, by omega⟩
      simp only [Scientific.value, neg_neg, Int.toNat_natCast, zpow_neg, zpow_natCast]
      push_cast
      field_simp
      rw [← mul_pow]
      norm_num

/-- What rounds to a positive finite value lies between `10 ^ -346` and `10 ^ 311`: at least half
the least subnormal and below the top of the largest binade. -/
theorem RoundsTo.bounds {m : ℕ} {q : ℤ} {v : ℚ} (encodable : Encodable m q) (nonzero : 0 < m)
    (rounds : RoundsTo m q v) : (10 : ℚ) ^ (-346 : ℤ) ≤ v ∧ v < 10 ^ (311 : ℤ) := by
  obtain ⟨half, -, -⟩ := two_zpow_shifts q
  have unit : (0 : ℚ) < 2 ^ q := zpow_pos two_pos q
  have mantissa : (1 : ℚ) ≤ m := by exact_mod_cast nonzero
  have gap := lowerHalfGap_le m q
  have range : -1074 ≤ q ∧ q ≤ 971 := by
    rcases encodable with normal | subnormal
    · exact ⟨normal.2.2.1, normal.2.2.2⟩
    · omega
  constructor
  · have least : (2 : ℚ) ^ (-1075 : ℤ) ≤ 2 ^ (q - 1) :=
      zpow_le_zpow_right₀ one_le_two (by omega)
    have tiny : (10 : ℚ) ^ (-346 : ℤ) ≤ 2 ^ (-1075 : ℤ) := by
      rw [zpow_neg, zpow_neg]
      apply inv_anti₀ (by positivity)
      exact_mod_cast (by decide +kernel : (2 : ℕ) ^ 1075 ≤ 10 ^ 346)
    rw [half] at least
    rcases rounds.1 with lt | ⟨eq, -⟩ <;> nlinarith
  · have most : (2 : ℚ) ^ (q + 53) ≤ 2 ^ (1024 : ℤ) := zpow_le_zpow_right₀ one_le_two (by omega)
    have huge : (2 : ℚ) ^ (1024 : ℤ) < 10 ^ (311 : ℤ) := by
      exact_mod_cast (by decide +kernel : (2 : ℕ) ^ 1024 < 10 ^ 311)
    exact ((rounds.lt_top encodable).trans_le most).trans huge

theorem digits_bounds {n : ℕ} (nonzero : n ≠ 0) :
    (10 : ℚ) ^ ((Nat.toDigits 10 n).length - 1) ≤ n ∧ (n : ℚ) < 10 ^ (Nat.toDigits 10 n).length := by
  have length : 0 < (Nat.toDigits 10 n).length := Nat.length_toDigits_pos
  constructor
  · by_cases single : (Nat.toDigits 10 n).length = 1
    · rw [single, Nat.sub_self, pow_zero]
      exact_mod_cast Nat.one_le_iff_ne_zero.mpr nonzero
    · have above : ¬n < 10 ^ ((Nat.toDigits 10 n).length - 1) := by
        rw [← Nat.length_toDigits_le_iff (by norm_num) (by omega)]
        omega
      exact_mod_cast Nat.not_lt.mp above
  · exact_mod_cast (Nat.length_toDigits_le_iff (by norm_num) length).mp le_rfl

/-- Reading a decimal `n · 10 ^ e` that rounds to a finite float gives the float: the digit count
passes both range checks, and the quotient is rounded once. -/
theorem ofDecimal_eq_self {x : Float} {negative : Bool} {m n : ℕ} {q e : ℤ}
    (decoded : Binary.ofFloat x = .finite negative m q) (nonzero : 0 < m)
    (rounds : RoundsTo m q (n * 10 ^ e)) : ofDecimal negative n e = x := by
  have encodable : Encodable m q := Binary.ofFloat_finite decoded
  obtain ⟨low, high⟩ := rounds.bounds encodable nonzero
  have present : n ≠ 0 := by
    rintro rfl
    simpa using rounds.pos nonzero
  obtain ⟨digitsLow, digitsHigh⟩ := digits_bounds present
  have scale : (0 : ℚ) < 10 ^ e := zpow_pos (by norm_num) e
  have notHuge : ¬((Nat.toDigits 10 n).length : ℤ) + e > 311 := by
    intro huge
    have : (10 : ℚ) ^ (311 : ℤ) ≤ 10 ^ ((((Nat.toDigits 10 n).length - 1 : ℕ) : ℤ) + e) :=
      zpow_le_zpow_right₀ (by norm_num) (by omega)
    rw [zpow_add₀ (by norm_num), zpow_natCast] at this
    nlinarith
  have notTiny : ¬((Nat.toDigits 10 n).length : ℤ) + e < -345 := by
    intro tiny
    have : (10 : ℚ) ^ (((Nat.toDigits 10 n).length : ℤ) + e) ≤ 10 ^ (-346 : ℤ) :=
      zpow_le_zpow_right₀ (by norm_num) (by omega)
    rw [zpow_add₀ (by norm_num), zpow_natCast] at this
    nlinarith
  delta ofDecimal
  dsimp only
  split_ifs with zero up
  · exact absurd zero present
  · apply nearest_eq_self decoded nonzero Nat.one_pos
    obtain ⟨k, rfl⟩ := Int.eq_ofNat_of_zero_le up
    simpa using rounds
  · apply nearest_eq_self decoded nonzero (Nat.pow_pos (by norm_num))
    obtain ⟨k, rfl⟩ : ∃ k : ℕ, e = -(k : ℤ) := ⟨(-e).toNat, by omega⟩
    simpa [zpow_neg, div_eq_mul_inv] using rounds

theorem toLower_of_isDigit {c : Char} (digit : c.isDigit = true) : c.toLower = c := by
  have low : c.toNat ≤ 57 := (Char.isDigit_iff_toNat.mp digit).2
  unfold Char.toLower
  rw [dif_neg]
  rintro ⟨upper, -⟩
  have high : 65 ≤ c.toNat := UInt32.le_iff_toNat_le.mp upper
  omega

theorem lower_ne_word {c : Char} {rest : List Char} (digit : c.isDigit = true) {w : String}
    (word : w ∈ ["inf", "infinity", "nan"]) : String.ofList ((c :: rest).map Char.toLower) ≠ w := by
  intro same
  have heads := congrArg (fun t : String => t.toList.head?) same
  simp only [String.toList_ofList, List.map_cons, List.head?_cons, toLower_of_isDigit digit] at heads
  have letter : c = 'i' ∨ c = 'n' := by
    simp only [List.mem_cons, List.not_mem_nil, or_false] at word
    rcases word with rfl | rfl | rfl <;> simp_all
  rcases letter with rfl | rfl <;> simp [Char.isDigit] at digit

/-- Reading signed text whose body starts with a digit: the sign, then the body's digits and
exponent, rounded once. -/
theorem readFloat_signed {negative : Bool} {c : Char} {rest : List Char} {n : ℕ} {e : ℤ}
    (digit : c.isDigit = true) (read : readUnsigned (c :: rest) = some (n, e)) :
    readFloat ((if negative then "-" else "") ++ String.ofList (c :: rest)) =
      some (ofDecimal negative n e) := by
  have notInf : String.ofList ((c :: rest).map Char.toLower) ≠ "inf" :=
    lower_ne_word digit (by simp)
  have notInfinity : String.ofList ((c :: rest).map Char.toLower) ≠ "infinity" :=
    lower_ne_word digit (by simp)
  have notNan : String.ofList ((c :: rest).map Char.toLower) ≠ "nan" :=
    lower_ne_word digit (by simp)
  unfold readFloat
  cases negative
  · have text : ((if false = true then "-" else "") ++ String.ofList (c :: rest)).toList =
        c :: rest := by simp
    simp only [text]
    split
    · next r sign =>
      cases sign
      simp [Char.isDigit] at digit
    · next r sign =>
      cases sign
      simp [Char.isDigit] at digit
    · simp only [notInf, notInfinity, notNan, or_self, if_false, read, Option.map_some]
  · have text : ("-" ++ String.ofList (c :: rest)).toList = '-' :: c :: rest := by simp
    rw [show (if true = true then "-" else "") = "-" from rfl]
    simp only [text, notInf, notInfinity, notNan, or_self, if_false, read, Option.map_some]

theorem spanDigits_append {ds rest : List Char} (digits : ∀ c ∈ ds, c.isDigit = true)
    (stop : ∀ c ∈ rest.head?, c.isDigit = false) : spanDigits (ds ++ rest) = (ds, rest) := by
  induction ds with
  | nil =>
    cases rest with
    | nil => rfl
    | cons c more =>
      have notDigit := stop c rfl
      simp [spanDigits, notDigit]
  | cons d more ih =>
    have first := digits d (by simp)
    have others := ih fun c member => digits c (by simp [member])
    simp only [spanDigits, Prod.mk.injEq] at others
    simp [spanDigits, first, others]

/-- Reading digits with a point: the digits on both sides make the mantissa, and the digits after
the point count down the exponent. -/
theorem readUnsigned_point {whole frac : List Char} (digits : ∀ c ∈ whole ++ frac, c.isDigit = true)
    (nonempty : whole ≠ []) :
    readUnsigned (whole ++ '.' :: frac) = some (digitsValue (whole ++ frac), -(frac.length : ℤ)) := by
  have split : spanDigits (whole ++ '.' :: frac) = (whole, '.' :: frac) := spanDigits_append
    (fun c member => digits c (List.mem_append_left _ member)) (by simp [Char.isDigit])
  have tail : spanDigits (frac ++ []) = (frac, []) :=
    spanDigits_append (fun c member => digits c (List.mem_append_right whole member)) (by simp)
  rw [List.append_nil] at tail
  unfold readUnsigned
  simp only [split, tail, List.isEmpty_iff, nonempty, false_and, if_false, Option.map_some,
    zero_sub]

theorem digitsValue_eq (ds : List Char) : digitsValue ds = Nat.ofDigitChars 10 ds 0 := rfl

/-- A decimal below the units is written with a point: at least one digit before it, as many
after it as the exponent is below zero, and the digits read back as the decimal's digits. -/
theorem positional_of_neg (s : Scientific) (fractional : s.exponent < 0) :
    ∃ whole frac : List Char, whole ≠ [] ∧ frac.length = (-s.exponent).toNat ∧
      (∀ c ∈ whole ++ frac, c.isDigit = true) ∧ digitsValue (whole ++ frac) = s.digits ∧
      s.positional = String.ofList (whole ++ '.' :: frac) := by
  have digit : ∀ c ∈ Nat.toDigits 10 s.digits, c.isDigit = true :=
    fun c member => Nat.isDigit_of_mem_toDigits (by norm_num) (by norm_num) member
  have length : 0 < (Nat.toDigits 10 s.digits).length := Nat.length_toDigits_pos
  unfold Scientific.positional
  rw [if_neg (by omega)]
  dsimp only
  split_ifs with inside
  · -- the point falls among the digits
    refine ⟨(Nat.toDigits 10 s.digits).take ((Nat.toDigits 10 s.digits).length - (-s.exponent).toNat),
      (Nat.toDigits 10 s.digits).drop ((Nat.toDigits 10 s.digits).length - (-s.exponent).toNat),
      ?_, ?_, ?_, ?_, rfl⟩
    · simp only [ne_eq, List.take_eq_nil_iff, not_or]
      exact ⟨by omega, Nat.toDigits_ne_nil⟩
    · simp only [List.length_drop]
      omega
    · rw [List.take_append_drop]
      exact digit
    · rw [List.take_append_drop, digitsValue_eq, Nat.ofDigitChars_ten_toDigits]
  · -- the point comes first, behind a zero and the zeros that fill up to the digits
    refine ⟨['0'], List.replicate ((-s.exponent).toNat - (Nat.toDigits 10 s.digits).length) '0' ++
      Nat.toDigits 10 s.digits, by simp, ?_, ?_, ?_, rfl⟩
    · simp only [List.length_append, List.length_replicate]
      omega
    · intro c member
      simp only [List.singleton_append, List.mem_cons, List.mem_append, List.mem_replicate] at member
      rcases member with rfl | ⟨-, rfl⟩ | deep
      · rfl
      · rfl
      · exact digit c deep
    · rw [digitsValue_eq, List.singleton_append, ← List.singleton_append, Nat.ofDigitChars_append,
        Nat.ofDigitChars_append, Nat.ofDigitChars_replicate_zero,
        show Nat.ofDigitChars 10 ['0'] 0 = 0 from rfl, Nat.mul_zero, Nat.ofDigitChars_ten_toDigits]

end LuaIntrospect.Decimal
