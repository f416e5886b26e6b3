import LuaIntrospect.Value.Basic
/-!
Tables: entries kept in key order with at most one entry per key, and an optional metatable.
Storing `nil` removes a key, so no entry holds `nil`. The border is the count of keys `1, 2, ...`
present without a gap from one.
-/
namespace LuaIntrospect

structure Table where
  entries : List (TableKey × Value) := []
  metatable : Option TableRef := none
  deriving Inhabited

namespace Table

def empty : Table := {}

/-- Inserts or replaces the entry of a key in a list ordered by key. -/
def insertEntry (k : TableKey) (v : Value) : List (TableKey × Value) → List (TableKey × Value)
  | [] => [(k, v)]
  | (k', v') :: rest =>
    match TableKey.compare k k' with
    | .lt => (k, v) :: (k', v') :: rest
    | .eq => (k, v) :: rest
    | .gt => (k', v') :: insertEntry k v rest

/-- The value stored under a key, `nil` if none. -/
def get (t : Table) (k : TableKey) : Value :=
  match t.entries.find? (fun e => e.1 == k) with
  | some e => e.2
  | none => .nil

def contains (t : Table) (k : TableKey) : Bool :=
  t.entries.any (fun e => e.1 == k)

/-- Stores a value under a key; `nil` removes the key. -/
def set (t : Table) (k : TableKey) (v : Value) : Table :=
  if v.isNil then { t with entries := t.entries.filter (fun e => e.1 != k) }
  else { t with entries := insertEntry k v t.entries }

def setField (t : Table) (name : String) (v : Value) : Table := t.set (.str name) v

def getField (t : Table) (name : String) : Value := t.get (.str name)

/-- Counts `1, 2, ...` while the next integer key is present, looking at most `fuel` keys ahead. -/
def borderFrom (t : Table) (n : Nat) : Nat → Nat
  | 0 => n
  | fuel + 1 => if t.contains (.int (Int64.ofNat (n + 1))) then t.borderFrom (n + 1) fuel else n

/-- The border: the largest `n` with every key `1 .. n` present, counted from one. -/
def border (t : Table) : Nat := t.borderFrom 0 t.entries.length

end Table

end LuaIntrospect
