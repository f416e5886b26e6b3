/-!
Binary64 numbers taken apart and put together in exact arithmetic. A finite number is
`± m · 2 ^ q` with a natural mantissa; reading a rational number rounds it to the nearest
binary64 value, a tie going to the even mantissa.
-/
namespace LuaIntrospect.Decimal

-- `^` is the core power even with other instances in scope; numeral exponents are typed for it
attribute [local instance (high)] instPowNat

/-- A binary64 value by its class: not a number, an infinity, or `± m · 2 ^ q`. -/
inductive Binary where
  | nan
  | inf (negative : Bool)
  | finite (negative : Bool) (m : Nat) (q : Int)
  deriving Repr, DecidableEq

def fractionBits : Nat := 52

/-- Exponent of the least subnormal step, `2 ^ minExponent`. -/
def minExponent : Int := -1074

/-- Takes the bits of a float apart into sign, mantissa and binary exponent. -/
def Binary.ofFloat (x : Float) : Binary :=
  let bits : Nat := x.toBits.toNat
  let negative := bits ≥ 2 ^ (63 : Nat)
  let field : Nat := (bits / 2 ^ fractionBits) % 2 ^ (11 : Nat)
  let fraction : Nat := bits % 2 ^ fractionBits
  if field = 2 ^ (11 : Nat) - 1 then
    if fraction = 0 then .inf negative else .nan
  else if field = 0 then
    .finite negative fraction minExponent
  else
    .finite negative (fraction + 2 ^ fractionBits) ((field : Int) - 1075)

/-- The integer that a finite value equals, if it is one. -/
def Binary.integral? : Binary → Option Int
  | .finite negative m q =>
    let magnitude : Option Nat :=
      if 0 ≤ q then some (m * 2 ^ q.toNat)
      else if m % 2 ^ (-q).toNat = 0 then some (m / 2 ^ (-q).toNat) else none
    magnitude.map fun n => if negative then -(n : Int) else n
  | _ => none

/-- Whether a float is finite and has no fractional part. -/
def isIntegral (x : Float) : Bool := (Binary.ofFloat x).integral?.isSome

/-- Clamps an integer into the 64-bit signed range, as a saturating conversion does. -/
def clampInt64 (i : Int) : Int64 :=
  if i < -2 ^ (63 : Nat) then Int64.ofInt (-2 ^ (63 : Nat))
  else if i ≥ 2 ^ (63 : Nat) then Int64.ofInt (2 ^ (63 : Nat) - 1)
  else Int64.ofInt i

/-- The integer of an integral finite float, saturated to 64 bits. -/
def integralInt64? (x : Float) : Option Int64 :=
  (Binary.ofFloat x).integral?.map clampInt64

/-- Quotient of `a` by `b` rounded to the nearest natural, a tie going to the even one. -/
def roundHalfEven (a b : Nat) : Nat :=
  let q := a / b
  let r := a % b
  if 2 * r < b then q
  else if 2 * r > b then q + 1
  else if q % 2 = 0 then q else q + 1

/-- Assembles the bits of a non-negative finite value `m · 2 ^ q`, where `m < 2 ^ 53` and the
value is normal (`2 ^ 52 ≤ m`) or `q = minExponent`. Values past the largest finite number
become an infinity. -/
def assemble (negative : Bool) (m : Nat) (q : Int) : Float :=
  let sign : Nat := if negative then 2 ^ (63 : Nat) else 0
  let magnitude : Nat :=
    if m < 2 ^ fractionBits then m
    else if q + 1075 ≥ 2 ^ (11 : Nat) - 1 then (2 ^ (11 : Nat) - 1) * 2 ^ fractionBits
    else (q + 1075).toNat * 2 ^ fractionBits + (m - 2 ^ fractionBits)
  Float.ofBits (sign + magnitude).toUInt64

/-- Scales `a / b` by `2 ^ -q` and rounds to the nearest natural. -/
def scaledRound (a b : Nat) (q : Int) : Nat :=
  if 0 ≤ q then roundHalfEven a (b * 2 ^ q.toNat) else roundHalfEven (a * 2 ^ (-q).toNat) b

/-- The binary64 value nearest to `± a / b` (`b > 0`), a tie going to the even mantissa. -/
def nearest (negative : Bool) (a b : Nat) : Float :=
  if a = 0 then assemble negative 0 minExponent
  else
    -- `2 ^ e ≤ a / b < 2 ^ (e + 1)` for `e = log2 a - log2 b` or one less
    let e0 : Int := (Nat.log2 a : Int) - Nat.log2 b
    let e : Int := if 0 ≤ e0 then
        (if a < b * 2 ^ e0.toNat then e0 - 1 else e0)
      else (if a * 2 ^ (-e0).toNat < b then e0 - 1 else e0)
    let q := max (e - fractionBits) minExponent
    let m := scaledRound a b q
    -- rounding up may reach the next binade
    if m = 2 ^ (fractionBits + 1) then assemble negative (2 ^ fractionBits) (q + 1)
    else assemble negative m q

def infinity (negative : Bool) : Float :=
  Float.ofBits (if negative then 0xFFF0000000000000 else 0x7FF0000000000000)

def ofInt (i : Int) : Float := nearest (i < 0) i.natAbs 1

/-- The binary64 value nearest to `± n · 10 ^ e`. Exponents far outside the range give zero or
an infinity without computing the power. -/
def ofDecimal (negative : Bool) (n : Nat) (e : Int) : Float :=
  let digits : Int := (Nat.toDigits 10 n).length
  if n = 0 then nearest negative 0 1
  else if digits + e > 311 then nearest negative (2 ^ (1100 : Nat)) 1
  else if digits + e < -345 then nearest negative 0 1
  else if 0 ≤ e then nearest negative (n * 10 ^ e.toNat) 1
  else nearest negative n (10 ^ (-e).toNat)

end LuaIntrospect.Decimal
