import LuaIntrospect.Builtin
import LuaIntrospect.Decimal.Binary
/-!
Guest values. Scalars are held directly; tables, functions and userdata are references whose
identity decides equality. Integers and floats are both of type `number` and compare across the
two representations through rounding the integer to a float.
-/
namespace LuaIntrospect

open Decimal

/-- A table, named by its slot in the heap. -/
structure TableRef where
  slot : Nat
  deriving DecidableEq, Repr

/-- A function value by identity: one the program defines, a library entry, or a closure made by
`coroutine.wrap`. -/
inductive Callable where
  | script (index : Nat)
  | builtin (entry : Builtin)
  | wrapper (index : Nat)
  deriving DecidableEq, Repr

inductive Value where
  | nil
  | bool (b : Bool)
  | int (i : Int64)
  | num (x : Float)
  | str (s : String)
  | table (t : TableRef)
  | func (f : Callable)
  | thread (id : UInt32)
  | userdata (id : Nat) (typeName : String)
  deriving Inhabited

/-- The types of guest values; integers and floats share `number`. -/
inductive Kind where
  | nil | boolean | number | string | table | function | thread | userdata
  deriving DecidableEq, Repr

/-- The name `type` reports for a kind. -/
def Kind.name : Kind → String
  | .nil => "nil"
  | .boolean => "boolean"
  | .number => "number"
  | .string => "string"
  | .table => "table"
  | .function => "function"
  | .thread => "thread"
  | .userdata => "userdata"

namespace Value

def kind : Value → Kind
  | nil => .nil
  | bool _ => .boolean
  | int _ | num _ => .number
  | str _ => .string
  | table _ => .table
  | func _ => .function
  | thread _ => .thread
  | userdata _ _ => .userdata

def typeName (v : Value) : String := v.kind.name

/-- Only `nil` and `false` are false. -/
def truthy : Value → Bool
  | nil => false
  | bool b => b
  | _ => true

/-- Whether a value is `nil`. -/
def isNil : Value → Bool
  | nil => true
  | _ => false

/-- An integer, or a finite float without fractional part converted with saturation. -/
def asInteger? : Value → Option Int64
  | int i => some i
  | num x => integralInt64? x
  | _ => none

/-- Raw equality: kinds must agree except for the two number forms, which compare after the
integer is rounded to a float; a NaN equals nothing; references compare by identity. -/
def equal : Value → Value → Bool
  | nil, nil => true
  | bool a, bool b => a == b
  | int a, int b => a == b
  | num a, num b => a == b
  | int a, num b => ofInt a.toInt == b
  | num a, int b => ofInt b.toInt == a
  | str a, str b => a == b
  | table a, table b => a == b
  | func a, func b => a == b
  | userdata a _, userdata b _ => a == b
  | thread a, thread b => a == b
  | _, _ => false

end Value

/-- A key of a table: booleans, integers and strings. -/
inductive TableKey where
  | bool (b : Bool)
  | int (i : Int64)
  | str (s : String)
  deriving DecidableEq, Repr

namespace TableKey

/-- The key a value indexes with. An integral finite float indexes as its integer; `nil`, NaN,
other floats and references are no keys. -/
def ofValue? : Value → Option TableKey
  | .int i => some (int i)
  | .num x => (integralInt64? x).map int
  | .str s => some (str s)
  | .bool b => some (bool b)
  | _ => none

def toValue : TableKey → Value
  | bool b => .bool b
  | int i => .int i
  | str s => .str s

/-- Keys in rendering order: booleans with `false` first, then integers ascending, then strings
by code points, which is the order of their UTF-8 bytes. -/
def compare : TableKey → TableKey → Ordering
  | bool a, bool b => Ord.compare a b
  | bool _, _ => .lt
  | int _, bool _ => .gt
  | int a, int b => Ord.compare a.toInt b.toInt
  | int _, str _ => .lt
  | str a, str b => Ord.compare a b
  | str _, _ => .gt

end TableKey

end LuaIntrospect
