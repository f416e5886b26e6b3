import LuaIntrospect.Machine.State
import LuaIntrospect.Value.Text
/-!
Evaluating expressions of a body. Expressions read session variables, globals, tables, the
arguments of the running body and the depths of the call stack and the yield collector; they
create tables and userdata but call no function. A table key that is no key, or a function
identifier the program does not define, makes the request unreadable.
-/
namespace LuaIntrospect

namespace Exec

/-- A session variable, `nil` when unset. -/
def readVariable (name : String) : Exec Value := do
  pure (((← get).vars.find? (fun e => e.1 == name)).map Prod.snd |>.getD .nil)

def setVariable (name : String) (v : Value) : Exec Unit :=
  modify fun m => { m with vars := (name, v) :: m.vars.filter (fun e => e.1 != name) }

def definedFunction (id : String) : Exec Value := do
  match (← get).scripts.findIdx? (fun s => s.id == id) with
  | some i => pure (.func (.script i))
  | none => malformed ("unknown function " ++ id)

/-- The key a value indexes with, or an unreadable request. -/
def keyOf (v : Value) : Exec TableKey :=
  match TableKey.ofValue? v with
  | some k => pure k
  | none => malformed "invalid table key"

/-- A new table from evaluated entries, stored with `set` so that `nil` values leave no entry. -/
def newTable (entries : List (Value × Value)) : Exec Value := do
  let mut t := Table.empty
  for (k, v) in entries do
    t := t.set (← keyOf k) v
  let r ← modifyGet fun m => m.allocTable t
  pure (.table r)

/-- A new userdata: a fresh identity with a type name. -/
def newUserdata (typeName : String) : Exec Value := modifyGet fun m =>
  (.userdata m.userdataCount typeName, { m with userdataCount := m.userdataCount + 1 })

/-- The field of a table value under a key value; `nil` for anything else. -/
def fieldOf (t k : Value) : Exec Value := do
  match t, TableKey.ofValue? k with
  | .table r, some key => pure (((← get).table r).get key)
  | _, _ => pure .nil

/-- The field `b` of the global `a`, for a path `a.b`. -/
def libraryField (path : String) : Exec Value := do
  let (lib, name) := match path.splitOn "." with
    | [] => ("", "")
    | lib :: rest => (lib, String.intercalate "." rest)
  fieldOf ((← get).global lib) (.str name)

/-- The text `tostring` gives; references, whose text would show an address, by their kind. -/
def textOf (v : Value) : String :=
  match v.scalarText? with
  | some s => s
  | none => "<" ++ v.typeName ++ ">"

/-- The argument of a body at a 1-based index; `nil` out of range and at top level. -/
def argument (args : Option (List Value)) (i : Int) : Value :=
  match args with
  | some vs => if i ≥ 1 then vs.getD (i - 1).toNat .nil else .nil
  | none => .nil

mutual

/-- Evaluates an expression, with the running body's arguments when inside a body. -/
def eval (args : Option (List Value)) : Expr → Exec Value
  | .lit l => pure l.toValue
  | .var name => readVariable name
  | .func id => definedFunction id
  | .arg i => pure (argument args i)
  | .argCount => pure (.int (Int64.ofNat (args.getD []).length))
  | .table entries => do newTable (← evalEntries args entries)
  | .global name => do pure ((← get).global name)
  | .libraryField path => libraryField path
  | .field t k => do
    let tv ← eval args t
    let kv ← eval args k
    fieldOf tv kv
  | .border t => do
    match ← eval args t with
    | .table r => pure (.int (Int64.ofNat ((← get).table r).border))
    | _ => pure .nil
  | .thread id => pure (.thread id)
  | .userdata typeName => newUserdata typeName
  | .equal a b => do
    let x ← eval args a
    let y ← eval args b
    pure (.bool (x.equal y))
  | .not e => do pure (.bool !(← eval args e).truthy)
  | .typeOf e => do pure (.str (← eval args e).typeName)
  | .toText e => do pure (.str (textOf (← eval args e)))
  | .depth => do pure (.int (Int64.ofNat (← get).stack.depth))
  | .yieldDepth => do pure (.int (Int64.ofNat (← get).yields.depth))
  | .invalid message => malformed message

/-- Evaluates table entries, key before value. -/
def evalEntries (args : Option (List Value)) : List (Expr × Expr) → Exec (List (Value × Value))
  | [] => pure []
  | (k, v) :: rest => do
    let kv ← eval args k
    let vv ← eval args v
    pure ((kv, vv) :: (← evalEntries args rest))

end

/-- Evaluates an argument list; `varargs` stands for all arguments of the running body. -/
def evalArgs (args : Option (List Value)) : List Arg → Exec (List Value)
  | [] => pure []
  | .expr e :: rest => do
    let v ← eval args e
    pure (v :: (← evalArgs args rest))
  | .varargs :: rest => do pure ((args.getD []) ++ (← evalArgs args rest))

end Exec

end LuaIntrospect
