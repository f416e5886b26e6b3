import LuaIntrospect.Decimal.Binary
/-!
The shortest decimal that reads back as a given binary64 value. The reals that round to
`m · 2 ^ q` form an interval around it, its ends included when `m` is even; on the grids of one,
two, ... seventeen significant digits the first grid with a point in that interval gives the
digits, and of two such points the nearer one; a point halfway between goes to the one of greater
magnitude.
-/
namespace LuaIntrospect.Decimal

-- `^` is the core power even with other instances in scope; numeral exponents are typed for it
attribute [local instance (high)] instPowNat

/-- A decimal `digits · 10 ^ exponent`. -/
structure Scientific where
  digits : Nat
  exponent : Int
  deriving Repr, DecidableEq

/-- `x · 10 ^ p` with `p` of either sign, as the fraction `(numerator, denominator)`. -/
def scaleTen (x : Nat) (p : Int) : Nat × Nat :=
  if 0 ≤ p then (x * 10 ^ p.toNat, 1) else (x, 10 ^ (-p).toNat)

/-- `x · 2 ^ p` with `p` of either sign, as a fraction. -/
def scaleTwo (x : Nat) (p : Int) : Nat × Nat :=
  if 0 ≤ p then (x * 2 ^ p.toNat, 1) else (x, 2 ^ (-p).toNat)

def compareFractions (x y : Nat × Nat) : Ordering := compare (x.1 * y.2) (y.1 * x.2)

/-- The rounding interval of `m · 2 ^ q` in units of `2 ^ (q - 2)`: its low end, the value
and its high end. The gap below is halved at the bottom of a binade. -/
def roundingInterval (m : Nat) (q : Int) : Nat × Nat × Nat :=
  let low := if m = 2 ^ fractionBits ∧ q > minExponent then 4 * m - 1 else 4 * m - 2
  (low, 4 * m, 4 * m + 2)

/-- Whether `c · 10 ^ p` lies in the rounding interval of `m · 2 ^ q`; the ends count when
`m` is even. -/
def inInterval (m : Nat) (q : Int) (c : Nat) (p : Int) : Bool :=
  let (low, _, high) := roundingInterval m q
  let point := scaleTen c p
  let lowEnd := scaleTwo low (q - 2)
  let highEnd := scaleTwo high (q - 2)
  let closed := m % 2 = 0
  let aboveLow := match compareFractions point lowEnd with
    | .gt => true
    | .eq => closed
    | .lt => false
  let belowHigh := match compareFractions point highEnd with
    | .lt => true
    | .eq => closed
    | .gt => false
  aboveLow && belowHigh

/-- The exponent `E` with `10 ^ E ≤ m · 2 ^ q < 10 ^ (E + 1)`, for `m > 0`. -/
def decimalExponent (m : Nat) (q : Int) : Int :=
  let v := scaleTwo m q
  if v.2 ≤ v.1 then
    ((Nat.toDigits 10 (v.1 / v.2)).length : Int) - 1
  else
    -- below one: the least `k` with `v · 10 ^ k ≥ 1`; binary64 needs at most 324 of them
    let k := (List.range 330).find? (fun k => v.2 ≤ v.1 * 10 ^ (k + 1))
    Int.neg ((k.getD 329 : Int) + 1)

/-- The two points of the grid of step `10 ^ p` next to `m · 2 ^ q`, below and above, and
whether the lower one is strictly nearer (`true`); at the midpoint the upper one is taken. -/
def gridNeighbours (m : Nat) (q : Int) (p : Int) : Nat × Nat × Bool :=
  -- `v / 10 ^ p` as a fraction
  let v := scaleTwo m q
  let s := scaleTen 1 p
  let num := v.1 * s.2
  let den := v.2 * s.1
  let lower := num / den
  let twice := 2 * num
  let mid := (2 * lower + 1) * den
  let lowerNearer := twice < mid
  (lower, lower + 1, lowerNearer)

/-- The point of the grid with `k` significant digits that reads back, if there is one. -/
def onGrid (m : Nat) (q : Int) (k : Nat) : Option Scientific :=
  let p := decimalExponent m q - k + 1
  let (lower, upper, lowerNearer) := gridNeighbours m q p
  match inInterval m q lower p, inInterval m q upper p with
  | true, true => some ⟨if lowerNearer then lower else upper, p⟩
  | true, false => some ⟨lower, p⟩
  | false, true => some ⟨upper, p⟩
  | false, false => none

/-- Removes trailing zero digits, raising the exponent. -/
def Scientific.normalize (s : Scientific) : Scientific :=
  let rec go (fuel : Nat) (d : Nat) (e : Int) : Scientific :=
    match fuel with
    | 0 => ⟨d, e⟩
    | fuel + 1 => if d ≠ 0 ∧ d % 10 = 0 then go fuel (d / 10) (e + 1) else ⟨d, e⟩
  go (Nat.toDigits 10 s.digits).length s.digits s.exponent

/-- The shortest decimal that reads back as `m · 2 ^ q` (`m > 0`), the nearer of two (the
upper one at a tie), without trailing zeros. Seventeen digits always suffice; the exact value stands in otherwise. -/
def shortest (m : Nat) (q : Int) : Scientific :=
  let found := (List.range 17).findSome? (fun k => onGrid m q (k + 1))
  (found.getD (if 0 ≤ q then ⟨m * 2 ^ q.toNat, 0⟩ else ⟨m * 5 ^ (-q).toNat, q⟩)).normalize

/-- Positional text of `digits · 10 ^ exponent`: no exponent mark, a leading `0.` below one, and
zeros filled in on either side of the point. -/
def Scientific.positional (s : Scientific) : String :=
  let ds := Nat.toDigits 10 s.digits
  if 0 ≤ s.exponent then
    String.ofList (ds ++ List.replicate s.exponent.toNat '0')
  else
    let shift := (-s.exponent).toNat
    if shift < ds.length then
      String.ofList (ds.take (ds.length - shift) ++ '.' :: ds.drop (ds.length - shift))
    else
      String.ofList ('0' :: '.' :: List.replicate (shift - ds.length) '0' ++ ds)

end LuaIntrospect.Decimal
