import LuaIntrospect.Machine.State
import LuaIntrospect.Value.Text
/-!
Showing values in records. A reference gets the next identity number of its kind the first time
it is shown and keeps it for the rest of the run; a table at the top of a record shows its own
number first, then its entries in key order, then its metatable.
-/
namespace LuaIntrospect

namespace Identities

/-- The number of a key in a numbering, or the next number added for it. -/
def number [BEq α] (known : List (α × Nat)) (key : α) : Nat × List (α × Nat) :=
  match known.find? (fun e => e.1 == key) with
  | some e => (e.2, known)
  | none => (known.length + 1, known ++ [(key, known.length + 1)])

end Identities

namespace Exec

open Identities

def tableNumber (t : TableRef) : Exec Nat := modifyGet fun m =>
  let (n, known) := number m.ids.tables t.slot
  (n, { m with ids := { m.ids with tables := known } })

def functionNumber (f : Callable) : Exec Nat := modifyGet fun m =>
  let (n, known) := number m.ids.functions f
  (n, { m with ids := { m.ids with functions := known } })

def userdataNumber (id : Nat) : Exec Nat := modifyGet fun m =>
  let (n, known) := number m.ids.userdata id
  (n, { m with ids := { m.ids with userdata := known } })

/-- Shows a value, a table by its number only. -/
def shallow : Value → Exec Shown
  | .nil => pure .nil
  | .bool b => pure (.bool b)
  | .int i => pure (.int i)
  | .num x => pure (.num (floatText x))
  | .str s => pure (.str s)
  | .thread id => pure (.thread id)
  | .func f => do
    let n ← functionNumber f
    let sig := (← get).signature f
    pure (.func n sig.isNative sig.name?)
  | .userdata id typeName => do pure (.userdata (← userdataNumber id) typeName)
  | .table t => do pure (.table (← tableNumber t))

/-- Shows a value at the top of a record: a table with its entries and metatable. -/
def deep : Value → Exec Rendered
  | .table t => do
    let n ← tableNumber t
    let contents := (← get).table t
    let entries ← contents.entries.mapM fun (k, v) => do
      let key ← shallow k.toValue
      pure (key, ← shallow v)
    let mt ← contents.metatable.mapM tableNumber
    pure (.table n entries mt)
  | v => do pure (.plain (← shallow v))

def errorClass : LuaError → ErrorClass
  | .badArgument .. => .badArgument
  | .notImplemented _ => .notImplemented
  | .runtime .. => .runtime
  | .tailCall .. => .tailCall

/-- Shows an error: its class and text. -/
def errorReport (e : LuaError) : ErrorReport := ⟨errorClass e, e.message⟩

/-- Shows a frame: locals and upvalues shallow, upvalues read from their cells. -/
def frameReport (f : Frame) : Exec FrameReport := do
  let locals ← f.locals.toList.mapM fun (n, v) => do pure (n, ← shallow v)
  let upvalues ← f.upvalues.mapM fun ups => ups.mapM fun u => do
    pure (u.name, ← shallow ((← get).cell u.cell))
  pure { name := f.name, kind := f.kind, line := f.line, scriptPath := f.scriptPath,
         span := f.span, locals := locals, upvalues := upvalues }

/-- Shows the call stack from the newest frame, and the yield collector's depth. -/
def stackReport : Exec StackReport := do
  let m ← get
  let frames ← m.stack.newestFirst.mapM frameReport
  pure { depth := m.stack.depth, yieldDepth := m.yields.depth,
         scriptPath := m.stack.scriptPath, frames := frames }

end Exec

end LuaIntrospect
