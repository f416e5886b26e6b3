import LuaIntrospect.Machine.State
import LuaIntrospect.Debug.Info
import LuaIntrospect.Value.Text
/-!
The library entries that do not call back into guest code: every `debug` entry and all of
`coroutine` except calling a wrapped closure. Levels given to the `debug` entries count from
their caller: the entry's own frame is the newest, so a level `n` names stack level `n + 1`.
-/
namespace LuaIntrospect

-- `^` is the core power even with other instances in scope; numeral exponents are typed for it
attribute [local instance (high)] instPowNat

namespace Library

/-- Drops a leading thread argument: only the main thread exists. -/
def skipThread : List Value → List Value
  | .thread _ :: rest => rest
  | args => args

/-- The argument at a position, `nil` when missing. -/
def argAt (args : List Value) (i : Nat) : Value := args.getD i .nil

/-- An argument as an integer, if it is one. -/
def optInteger (args : List Value) (i : Nat) : Option Int64 := (args[i]?).bind Value.asInteger?

/-- The name of an argument's type, or `no value` when it is missing. -/
def typeNameOf : Option Value → String
  | some v => v.typeName
  | none => "no value"

def checkFunction (args : List Value) (i : Nat) (fn : String) : Except LuaError Callable :=
  match args[i]? with
  | some (.func f) => .ok f
  | other => .error (.badArgument (i + 1) fn ("function expected, got " ++ typeNameOf other))

/-- Requires a table or `nil` argument; a missing one is neither. -/
def checkTableOrNil (args : List Value) (i : Nat) (fn : String) :
    Except LuaError (Option TableRef) :=
  match args[i]? with
  | some .nil => .ok none
  | some (.table t) => .ok (some t)
  | _ => .error (.badArgument (i + 1) fn "nil or table expected")

/-- Requires at least `n` arguments. -/
def checkArity (args : List Value) (n : Nat) (fn : String) : Except LuaError Unit :=
  if args.length < n then .error (.badArgument (args.length + 1) fn "value expected") else .ok ()

/-- The stack level a user level names, one deeper for the entry's own frame; levels that do not
fit a 64-bit word or are negative name none. -/
def stackLevel (level : Int64) : Option Nat :=
  let l := level.toInt + 1
  if l < 0 ∨ l ≥ 2 ^ (63 : Nat) then none else some l.toNat

def frameForLevel (s : CallStack) (level : Int64) : Option Frame :=
  (stackLevel level).bind s.frameAt?

/-- The line of a traceback that stands for the host frame. -/
def tracebackTail : String := "stack traceback:\n\t[C]: in ?"

/-- The traceback text for a message, the message line left out when it is empty. -/
def tracebackText (message : Option String) : String :=
  match message with
  | some msg => if msg.isEmpty then tracebackTail else msg ++ "\n" ++ tracebackTail
  | none => tracebackTail

end Library

namespace DebugInfo

/-- The value a field takes in the table guest code receives. -/
def Field.toValue : Field → Value
  | .text s => .str s
  | .number n => .int (Int64.ofInt n)
  | .flag b => .bool b

/-- The table guest code receives for a record: every present field under its name. -/
def toTable (i : DebugInfo) : Table :=
  i.fields.foldl (fun t p => t.setField p.1 p.2.toValue) Table.empty

end DebugInfo

namespace Exec

open Library

/-- Turns a library check's failure into a guest error. -/
def check : Except LuaError α → Exec α
  | .ok a => pure a
  | .error e => fail e

/-- A new table holding a `getinfo` record. -/
def infoTable (i : DebugInfo) : Exec Value := do
  let r ← modifyGet fun m => m.allocTable i.toTable
  pure (.table r)

/-- `debug.getinfo`: a record of a function, of the frame at a level (the newest frame when the
level names none), or of host code for any other target. -/
def getinfo (args : List Value) : Exec (List Value) := do
  let args := skipThread args
  let some target := args.head? | fail (.badArgument 1 "getinfo" "function or level expected")
  let what : String ← match (args[1]? : Option Value) with
    | none | some .nil => pure InfoOptions.all
    | some (.str s) => pure s
    | some other => fail (.badArgument 2 "getinfo" ("string expected, got " ++ other.typeName))
  let some options := InfoOptions.parse? what | fail (.badArgument 2 "getinfo" "invalid option")
  let m ← get
  let fallback := m.stack.scriptPath
  let info := match target with
    | .func f => DebugInfo.forFunction (m.signature f) fallback options
    | v => match v.asInteger? with
      | some level => match (frameForLevel m.stack level).orElse fun _ => m.stack.top? with
        | some frame => DebugInfo.forFrame frame fallback options
        | none => DebugInfo.nativeDefaults options
      | none => DebugInfo.nativeDefaults options
  pure [← infoTable info]

/-- `debug.getlocal`: the name and value of a local at a level, or `nil`s. -/
def getlocal (args : List Value) : Exec (List Value) := do
  let args := skipThread args
  match args.head? with
  | some (.func _) => pure [.nil]
  | _ =>
    match optInteger args 0, optInteger args 1 with
    | some level, some index =>
      match (frameForLevel (← get).stack level).bind (·.local? index.toInt) with
      | some (name, v) => pure [.str name, v]
      | none => pure [.nil, .nil]
    | _, _ => pure [.nil, .nil]

/-- `debug.getupvalue`: a tracked upvalue of a guest function by 1-based index; without a tracked
list, index 2 is the environment `_ENV`. -/
def getupvalue (args : List Value) : Exec (List Value) := do
  let f ← check (checkFunction args 0 "getupvalue")
  let some index := optInteger args 1 | pure [.nil, .nil]
  let m ← get
  match m.signature f with
  | .guest _ _ _ _ (some ups) =>
    let found := if index.toInt ≥ 1 then ups[(index.toInt - 1).toNat]? else none
    match found with
    | some u => pure [.str u.name, m.cell u.cell]
    | none => pure [.nil, .nil]
  | _ => if index.toInt = 2 then pure [.str "_ENV", .table m.globals] else pure [.nil, .nil]

/-- `debug.traceback`: the message, if any, above the traceback; numbers become text and any
other non-string message is given back unchanged. -/
def traceback (args : List Value) : Exec (List Value) := do
  let args := skipThread args
  match args.head? with
  | none | some .nil => pure [.str (tracebackText none)]
  | some (.str s) => pure [.str (tracebackText (some s))]
  | some (.int i) => pure [.str (tracebackText ((Value.int i).scalarText?))]
  | some (.num x) => pure [.str (tracebackText (some (floatText x)))]
  | some other => pure [other]

/-- `coroutine.wrap`: a new closure over a function, not yet started. -/
def wrap (args : List Value) : Exec (List Value) := do
  let _ ← check (checkFunction args 0 "wrap")
  let target := argAt args 0
  let w ← modifyGet fun m => (m.wrappers.size, { m with wrappers := m.wrappers.push { target } })
  pure [.func (.wrapper w)]

/-- `coroutine.yield`: hands the arguments to the innermost sink. -/
def yieldValues (args : List Value) : Exec (List Value) := do
  let c ← check ((← get).yields.divert args)
  modify fun m => { m with yields := c }
  pure []

def callBuiltin (b : Builtin) (args : List Value) : Exec (List Value) :=
  match b with
  | .getinfo => getinfo args
  | .getlocal => getlocal args
  | .getupvalue => getupvalue args
  | .getmetatable => do
    check (checkArity args 1 "getmetatable")
    pure [(← get).metatableOf (argAt args 0)]
  | .setmetatable => do
    let mt ← check (checkTableOrNil args 1 "setmetatable")
    let v := argAt args 0
    modify fun m => m.setMetatable v mt
    pure [v]
  | .traceback => traceback args
  | .getregistry => do pure [.table (← get).registry]
  | .sethook =>
    if (skipThread args).all Value.isNil then pure [] else fail (.notImplemented "debug.sethook")
  | .gethook => pure [.nil]
  | .setlocal => do check (checkArity (skipThread args) 3 "setlocal"); pure [.nil]
  | .setupvalue => do check (checkArity args 3 "setupvalue"); pure [.nil]
  | .getuservalue => pure [.nil, .bool false]
  | .setuservalue => do check (checkArity args 2 "setuservalue"); pure [argAt args 0]
  | .upvalueid => fail (.notImplemented "debug.upvalueid")
  | .upvaluejoin => fail (.notImplemented "debug.upvaluejoin")
  | .create => fail (.notImplemented "coroutine.create")
  | .resume => fail (.notImplemented "coroutine.resume")
  | .yield => yieldValues args
  | .wrap => wrap args
  | .status => pure [.str "running"]
  | .close => fail (.notImplemented "coroutine.close")
  | .isyieldable => pure [.bool false]
  | .running => pure [.thread 0, .bool true]

end Exec

end LuaIntrospect
