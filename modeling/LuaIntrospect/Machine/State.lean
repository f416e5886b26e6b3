import LuaIntrospect.Table
import LuaIntrospect.Stack.CallStack
import LuaIntrospect.Yield
import LuaIntrospect.Machine.Script
import LuaIntrospect.Machine.Event
/-!
The state of a running program: the heap of tables and upvalue cells, the metatables of value
types, the call stack, the yield collector, the state of every wrapped coroutine, the functions
the program defines, its session variables, and the records written so far. Steps run in a
state-and-error monad whose state survives an error, as mutation does in the runtime.
-/
namespace LuaIntrospect

/-- The state of a closure made by `coroutine.wrap`: its target, whether it has run, the records
of its first run, and the next record to replay. -/
structure WrapState where
  target : Value
  started : Bool := false
  recorded : Array Yielded := #[]
  cursor : Nat := 0

/-- A function the program defined: its identifier, what it tells about itself, and its body. -/
structure Script where
  id : String
  signature : Signature
  body : List Stmt

/-- Identity numbers given so far, with the next number of each kind. -/
structure Identities where
  tables : List (Nat × Nat) := []
  functions : List (Callable × Nat) := []
  userdata : List (Nat × Nat) := []

structure Machine where
  config : Config := {}
  globals : TableRef := ⟨0⟩
  registry : TableRef := ⟨1⟩
  tables : Array Table := #[]
  cells : Array Value := #[]
  userdataCount : Nat := 0
  typeMetatables : List (Kind × TableRef) := []
  stack : CallStack := {}
  yields : YieldCollector := {}
  wrappers : Array WrapState := #[]
  scripts : Array Script := #[]
  vars : List (String × Value) := []
  log : Array Event := #[]
  ids : Identities := {}

/-- Why a run stops: a guest error, a request that cannot be read, or fuel running out. -/
inductive Halt where
  | error (e : LuaError)
  | malformed (message : String)
  | exhausted

abbrev Exec := EStateM Halt Machine

namespace Exec

def fail (e : LuaError) : Exec α := throw (.error e)

/-- Stops the run: the request cannot be read. -/
def malformed (message : String) : Exec α := throw (.malformed message)

/-- Runs a step and keeps a guest error as a value; other halts go on. -/
def attempt (x : Exec α) : Exec (Except LuaError α) := fun s =>
  match x s with
  | .ok a s => .ok (.ok a) s
  | .error (.error e) s => .ok (.error e) s
  | .error h s => .error h s

/-- Gives back a kept result: its value, or its error again. -/
def rethrow : Except LuaError α → Exec α
  | .ok a => pure a
  | .error e => fail e

def emit (e : Event) : Exec Unit := modify fun m => { m with log := m.log.push e }

end Exec

namespace Machine

def table (m : Machine) (t : TableRef) : Table := m.tables.getD t.slot Table.empty

def modifyTable (m : Machine) (t : TableRef) (g : Table → Table) : Machine :=
  { m with tables := m.tables.modify t.slot g }

def allocTable (m : Machine) (t : Table) : TableRef × Machine :=
  (⟨m.tables.size⟩, { m with tables := m.tables.push t })

def cell (m : Machine) (c : CellRef) : Value := m.cells.getD c.slot .nil

def allocCell (m : Machine) (v : Value) : CellRef × Machine :=
  (⟨m.cells.size⟩, { m with cells := m.cells.push v })

/-- What a function tells about itself: a defined function its signature, a library entry or a
wrapped coroutine a host function of its name. -/
def signature (m : Machine) : Callable → Signature
  | .script i => match m.scripts[i]? with
    | some s => s.signature
    | none => .native ""
  | .builtin b => .native b.name
  | .wrapper _ => .native "wrap"

def global (m : Machine) (name : String) : Value := (m.table m.globals).getField name

/-- The metatable of a value without the protection field: a table's own, or its type's. -/
def rawMetatable (m : Machine) (v : Value) : Option TableRef :=
  match v with
  | .table t => (m.table t).metatable
  | v => (m.typeMetatables.find? (fun e => e.1 == v.kind)).map Prod.snd

/-- The metatable as guest code sees it: the `__metatable` field hides the table when present. -/
def metatableOf (m : Machine) (v : Value) : Value :=
  match m.rawMetatable v with
  | some mt =>
    let marker := (m.table mt).getField "__metatable"
    if marker.isNil then .table mt else marker
  | none => .nil

/-- Sets the metatable of a table, or of all values of another value's type. -/
def setMetatable (m : Machine) (v : Value) (mt : Option TableRef) : Machine :=
  match v with
  | .table t => m.modifyTable t fun tb => { tb with metatable := mt }
  | v =>
    let rest := m.typeMetatables.filter (fun e => e.1 != v.kind)
    { m with typeMetatables := match mt with
      | some r => (v.kind, r) :: rest
      | none => rest }

/-- A library's table: each entry stored under its name. -/
def libraryTable (lib : Library) : Table :=
  (Builtin.entries lib).foldl (fun t b => t.setField b.name (.func (.builtin b))) Table.empty

/-- A fresh machine: the globals table holding itself as `_G` and both libraries, and an empty
registry. -/
def boot (config : Config) : Machine :=
  let m : Machine := { config := config, stack := { scriptPath := config.scriptPath } }
  let (globals, m) := m.allocTable Table.empty
  let (registry, m) := m.allocTable Table.empty
  let (debug, m) := m.allocTable (libraryTable .debug)
  let (coroutine, m) := m.allocTable (libraryTable .coroutine)
  let m := { m with globals := globals, registry := registry }
  m.modifyTable globals fun t =>
    ((t.setField "_G" (.table globals)).setField Library.debug.name (.table debug)).setField
      Library.coroutine.name (.table coroutine)

end Machine

end LuaIntrospect
