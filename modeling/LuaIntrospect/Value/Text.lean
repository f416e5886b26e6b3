import LuaIntrospect.Value.Basic
import LuaIntrospect.Decimal.Shortest
/-!
The text of scalar values, as `tostring` and the inspector print them. A float keeps a
fractional part in its text so that it never reads like an integer: an integral float is written
with every digit and `.0`, any other with the fewest digits that read back, never with an
exponent.
-/
namespace LuaIntrospect

open Decimal

/-- Text of a float: `NaN`, `inf`, `-inf`, the exact digits of an integral value followed by
`.0` (the sign of a negative zero kept), or the shortest positional decimal. -/
def floatText (x : Float) : String :=
  match Binary.ofFloat x with
  | .nan => "NaN"
  | .inf negative => if negative then "-inf" else "inf"
  | .finite negative m q =>
    let sign := if negative then "-" else ""
    match (Binary.finite negative m q).integral? with
    | some i => sign ++ toString i.natAbs ++ ".0"
    | none => sign ++ (shortest m q).positional

/-- Text of a thread: the main thread by name, any other by number. -/
def threadText (id : UInt32) : String :=
  if id = 0 then "thread: main" else "thread: " ++ toString id.toNat

/-- Text of a scalar value; references have none (their text would show an address). -/
def Value.scalarText? : Value → Option String
  | .nil => some "nil"
  | .bool b => some (if b then "true" else "false")
  | .int i => some (toString i.toInt)
  | .num x => some (floatText x)
  | .str s => some s
  | .thread id => some (threadText id)
  | _ => none

end LuaIntrospect
