import LuaIntrospect.Value.Basic
import LuaIntrospect.Fault
/-!
Yield collection. A yield cannot suspend the call it runs in, so each wrapped run installs a
fresh sink, and a yield appends its arguments to the innermost sink. Sinks are installed and
removed in last-in, first-out order, so the collector is a stack of sinks.
-/
namespace LuaIntrospect

/-- What one yield recorded, by the number of its values. -/
inductive Yielded where
  | none
  | single (v : Value)
  | many (vs : List Value)

namespace Yielded

/-- Records a yield's arguments: none, one, or several. -/
def ofArgs : List Value → Yielded
  | [] => none
  | [v] => single v
  | vs => many vs

/-- The values a replayed record returns; a yield of nothing returns one `nil`. -/
def values : Yielded → List Value
  | none => [.nil]
  | single v => [v]
  | many vs => vs

end Yielded

/-- The installed sinks, innermost first. -/
structure YieldCollector where
  sinks : List (Array Yielded) := []

namespace YieldCollector

def depth (c : YieldCollector) : Nat := c.sinks.length

def install (c : YieldCollector) : YieldCollector := ⟨#[] :: c.sinks⟩

/-- Removes the innermost sink and gives what it collected. -/
def remove (c : YieldCollector) : Array Yielded × YieldCollector :=
  match c.sinks with
  | [] => (#[], c)
  | s :: rest => (s, ⟨rest⟩)

/-- Appends a yield's arguments to the innermost sink; without one there is no coroutine to
yield from. -/
def divert (c : YieldCollector) (args : List Value) : Except LuaError YieldCollector :=
  match c.sinks with
  | [] => .error (.raise "attempt to yield from outside a coroutine")
  | s :: rest => .ok ⟨s.push (Yielded.ofArgs args) :: rest⟩

end YieldCollector

end LuaIntrospect
