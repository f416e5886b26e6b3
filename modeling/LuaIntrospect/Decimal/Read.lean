import LuaIntrospect.Decimal.Binary
/-!
Reading decimal float text: an optional sign, then `inf`, `infinity` or `nan` in any case, or
digits with an optional point and an optional exponent, at least one digit before the exponent.
The value is rounded once, to the nearest binary64 number.
-/
namespace LuaIntrospect.Decimal

def spanDigits (cs : List Char) : List Char × List Char :=
  (cs.takeWhile Char.isDigit, cs.dropWhile Char.isDigit)

/-- The natural number written by a list of decimal digits. -/
def digitsValue (ds : List Char) : Nat :=
  ds.foldl (fun acc d => 10 * acc + (d.toNat - '0'.toNat)) 0

/-- Reads an exponent part after its mark: an optional sign and at least one digit. -/
def readExponent (cs : List Char) : Option Int :=
  let (negative, rest) := match cs with
    | '+' :: r => (false, r)
    | '-' :: r => (true, r)
    | r => (false, r)
  let (ds, tail) := spanDigits rest
  if ds.isEmpty ∨ ¬ tail.isEmpty then none
  else
    let n : Int := digitsValue ds
    some (if negative then -n else n)

/-- Reads unsigned decimal text into digits and a power of ten. -/
def readUnsigned (cs : List Char) : Option (Nat × Int) :=
  let (whole, rest) := spanDigits cs
  let (fraction, rest) := match rest with
    | '.' :: r => spanDigits r
    | r => ([], r)
  if whole.isEmpty ∧ fraction.isEmpty then none
  else
    let exponent : Option Int := match rest with
      | [] => some 0
      | c :: r => if c = 'e' ∨ c = 'E' then readExponent r else none
    exponent.map fun e => (digitsValue (whole ++ fraction), e - fraction.length)

/-- Reads float text, or gives `none` when it is not float text. -/
def readFloat (s : String) : Option Float :=
  let cs := s.toList
  let (negative, rest) := match cs with
    | '+' :: r => (false, r)
    | '-' :: r => (true, r)
    | r => (false, r)
  let word := String.ofList (rest.map Char.toLower)
  if word = "inf" ∨ word = "infinity" then
    some (infinity negative)
  else if word = "nan" then
    some (Float.ofBits 0x7FF8000000000000)
  else
    (readUnsigned rest).map fun (n, e) => ofDecimal negative n e

end LuaIntrospect.Decimal
