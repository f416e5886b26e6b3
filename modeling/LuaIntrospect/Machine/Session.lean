import LuaIntrospect.Machine.Exec
/-!
Running a program. A fresh machine gets the program's functions: each guest function's upvalue
cells are made with it, and their expressions are evaluated once every function exists, in
order and without arguments. The top-level statements then run in order; the answer is the
list of records, or the reason the request could not be read.
-/
namespace LuaIntrospect

/-- How a run ends: its records, or an unreadable request with a message. -/
inductive Outcome where
  | records (log : List Event)
  | malformed (message : String)
  | exhausted

namespace Exec

/-- Makes a definition a function of the machine, with fresh `nil` cells for its upvalues, and
gives the upvalue expressions still to evaluate with their cells. -/
def define (d : FunctionDef) : Exec (List (CellRef × Expr)) := do
  match d with
  | .native id name body =>
    modify fun m => { m with scripts := m.scripts.push ⟨id, .native name, body⟩ }
    pure []
  | .guest id name chunk span isMain upvalues body =>
    let mut pending : List (CellRef × Expr) := []
    let mut ups : Option (List Upvalue) := none
    match upvalues with
    | none => pure ()
    | some list =>
      let mut cells : List Upvalue := []
      for (n, e) in list do
        let c ← modifyGet fun m => m.allocCell .nil
        cells := cells ++ [⟨n, c⟩]
        pending := pending ++ [(c, e)]
      ups := some cells
    let sig := Signature.guest name chunk span isMain ups
    modify fun m => { m with scripts := m.scripts.push ⟨id, sig, body⟩ }
    pure pending

/-- Defines every function, then fills the upvalue cells in order. -/
def install (defs : List FunctionDef) : Exec Unit := do
  let mut pending : List (CellRef × Expr) := []
  for d in defs do
    pending := pending ++ (← define d)
  for (c, e) in pending do
    let v ← eval none e
    modify fun m => { m with cells := m.cells.set! c.slot v }

end Exec

/-- The fuel a run gets: far deeper than any nesting a call-depth limit lets through. -/
def runFuel : Nat := 1000000

def Program.run (p : Program) : Outcome :=
  let steps : Exec Unit := do
    Exec.install p.functions
    let _ ← Exec.execBlock runFuel none p.steps
  match steps (Machine.boot p.config) with
  | .ok _ m => .records m.log.toList
  | .error (.malformed message) _ => .malformed message
  | .error .exhausted _ => .exhausted
  | .error (.error _) m => .records m.log.toList

end LuaIntrospect
