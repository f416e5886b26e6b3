import LuaIntrospect.Machine.Eval
import LuaIntrospect.Machine.Library
import LuaIntrospect.Machine.Report
/-!
Calls and bodies. `invoke` performs one call: it refuses a non-function and a full stack, pushes
the callee's frame, runs it, locates an unlocated runtime error at the newest frame, and unwinds
the stack to its depth before the call. `callFunction` follows tail calls in a trampoline. A
closure made by `coroutine.wrap` runs its target once under a fresh yield sink, then replays
what it recorded, then runs the target afresh. Every step takes fuel, so that all of this is
total; fuel only bounds how deep the run may nest.
-/
namespace LuaIntrospect

namespace Exec

/-- How statements end: go on with the next one, or return from the body. -/
inductive Flow where
  | next
  | returned (values : List Value)

/-- Locates an unlocated runtime error at the newest frame: at its chunk's short name and line,
unless there is no frame or the frame runs host code. -/
def locateIn (s : CallStack) (e : LuaError) : LuaError :=
  match s.top? with
  | none => e
  | some frame =>
    let chunk := ChunkSource.forFrame frame s.scriptPath
    if chunk.isNative then e else e.locate ⟨chunk.shortSrc, frame.line⟩

def modifyStack (g : CallStack → CallStack) : Exec Unit :=
  modify fun m => { m with stack := g m.stack }

/-- Stores results in variables by position; missing results are `nil`. -/
def storeResults (names : List String) (vs : List Value) : Exec Unit := do
  for (name, i) in names.zipIdx do
    setVariable name (vs.getD i .nil)

/-- Records the outcome of a call and keeps its results. Inside a body an error that is not
recovered from ends the body; at top level it is only recorded. -/
def recordCall (r : Except LuaError (List Value)) (h : Handling) (inBody : Bool) : Exec Unit := do
  match r with
  | .ok vs =>
    let shown ← vs.mapM deep
    emit (.returned shown)
    storeResults h.store vs
  | .error e =>
    emit (.failed (errorReport e))
    if inBody && !h.recover then fail e

/-- The frame a `FrameSpec` describes, its locals and upvalues evaluated in order and each
upvalue given a new cell. -/
def buildFrame (args : Option (List Value)) (spec : FrameSpec) : Exec Frame := do
  let mut frame : Frame := { name := spec.name.bind normalizeCallName, kind := spec.kind,
                             scriptPath := spec.scriptPath, span := spec.span }
  frame := frame.setLine (spec.line.getD 0)
  for (name, e) in spec.locals do
    frame := frame.declareLocal name (← eval args e)
  match spec.upvalues with
  | none => pure frame
  | some ups =>
    let mut cells : List Upvalue := []
    for (name, e) in ups do
      let v ← eval args e
      let c ← modifyGet fun m => m.allocCell v
      cells := cells ++ [⟨name, c⟩]
    pure { frame with upvalues := some cells }

/-- Writes the cell of a guest function's upvalue by 1-based index; anything else is left. -/
def writeUpvalue (f : Value) (index : Int) (v : Value) : Exec Unit := do
  match f with
  | .func c =>
    match (← get).signature c with
    | .guest _ _ _ _ (some ups) =>
      if index ≥ 1 then
        match ups[(index - 1).toNat]? with
        | some u => modify fun m => { m with cells := m.cells.set! u.cell.slot v }
        | none => pure ()
      else pure ()
    | _ => pure ()
  | _ => pure ()

def wrapState (w : Nat) : Exec WrapState := do
  pure ((← get).wrappers.getD w { target := .nil })

def modifyWrap (w : Nat) (g : WrapState → WrapState) : Exec Unit :=
  modify fun m => { m with wrappers := m.wrappers.modify w g }

mutual

/-- Performs exactly one call. A tail call the callee hands back surfaces as an error. -/
def invoke : Nat → Value → List Value → Exec (List Value)
  | 0, _, _ => throw .exhausted
  | fuel + 1, callee, args => do
    match callee with
    | .func f =>
      let m ← get
      let base := m.stack.depth
      if base ≥ m.config.maxCallDepth then fail (.raise "stack overflow")
      modifyStack (·.push (Frame.forFunction (m.signature f)))
      let r ← attempt (enter fuel f args)
      let s := (← get).stack
      let r := match r with
        | .error e => if e.isUnlocated then .error (locateIn s e) else .error e
        | ok => ok
      modifyStack (·.unwindTo base)
      rethrow r
    | other => fail (.raise ("attempt to call a " ++ other.typeName ++ " value"))

/-- Calls and follows every tail call the callee hands back. -/
def callFunction : Nat → Value → List Value → Exec (List Value)
  | 0, _, _ => throw .exhausted
  | fuel + 1, callee, args => do
    match ← attempt (invoke fuel callee args) with
    | .error (.tailCall target rest) => callFunction fuel target rest
    | r => rethrow r

/-- Runs a callee whose frame is pushed: a defined function's body, a library entry, or a wrapped
closure. -/
def enter : Nat → Callable → List Value → Exec (List Value)
  | 0, _, _ => throw .exhausted
  | fuel + 1, .script i, args => do
    let body := ((← get).scripts[i]?.map Script.body).getD []
    match ← execBlock fuel (some args) body with
    | .returned vs => pure vs
    | .next => pure []
  | _ + 1, .builtin b, args => callBuiltin b args
  | fuel + 1, .wrapper w, args => resume fuel w args

/-- Calls a wrapped closure. The first call runs the target and, if it yielded, keeps the yields
and then its results as records and returns the first; later calls replay the records in order
without running the target; once they are used up, every call runs the target afresh and drops
its yields. -/
def resume : Nat → Nat → List Value → Exec (List Value)
  | 0, _, _ => throw .exhausted
  | fuel + 1, w, args => do
    let st ← wrapState w
    if !st.started then
      modifyWrap w fun s => { s with started := true }
      let (result, captured) ← collect fuel st.target args
      match captured.toList with
      | [] => pure result
      | first :: _ =>
        modifyWrap w fun s => { s with recorded := captured.push (.many result), cursor := 1 }
        pure first.values
    else
      match st.recorded[st.cursor]? with
      | some record =>
        modifyWrap w fun s => { s with cursor := st.cursor + 1 }
        pure record.values
      | none =>
        let (result, _) ← collect fuel st.target args
        pure result

/-- Runs a target under a fresh yield sink, following a tail call it hands back, and gives its
results with what it yielded. The sink is removed on every way out. -/
def collect : Nat → Value → List Value → Exec (List Value × Array Yielded)
  | 0, _, _ => throw .exhausted
  | fuel + 1, target, args => do
    modify fun m => { m with yields := m.yields.install }
    let r ← attempt do
      match ← attempt (invoke fuel target args) with
      | .error (.tailCall next rest) => callFunction fuel next rest
      | r => rethrow r
    let captured ← modifyGet fun m =>
      let (sink, yields) := m.yields.remove
      (sink, { m with yields := yields })
    let vs ← rethrow r
    pure (vs, captured)

/-- Runs statements in order until one returns. The statements of one block share the fuel of
the block: fuel bounds how deep blocks and calls nest, not how many statements run. -/
def execBlock : Nat → Option (List Value) → List Stmt → Exec Flow
  | 0, _, _ => throw .exhausted
  | fuel + 1, args, stmts => do
    for s in stmts do
      match ← execStmt fuel args s with
      | .next => pure ()
      | flow => return flow
    pure .next

/-- Runs one statement, inside a body when `args` holds its arguments, else at top level. -/
def execStmt : Nat → Option (List Value) → Stmt → Exec Flow
  | 0, _, _ => throw .exhausted
  | fuel + 1, args, stmt => do
    match stmt with
    | .call target argList mode h =>
      let callee ← eval args target
      let vs ← evalArgs args argList
      let r ← attempt (match mode with
        | .trampoline => callFunction fuel callee vs
        | .once => invoke fuel callee vs)
      recordCall r h args.isSome
      pure .next
    | .direct entry argList h =>
      match Builtin.ofQualifiedName? entry with
      | none => malformed ("unknown library function " ++ entry)
      | some b =>
        let vs ← evalArgs args argList
        let r ← attempt (callBuiltin b vs)
        recordCall r h args.isSome
        pure .next
    | .ret values =>
      if args.isNone then malformed "return at top level"
      pure (.returned (← evalArgs args values))
    | .tailCall target argList =>
      if args.isNone then malformed "tailcall at top level"
      let callee ← eval args target
      let vs ← evalArgs args argList
      fail (.tailCall callee vs)
    | .raise message =>
      if args.isNone then malformed "error at top level"
      fail (.raise message)
    | .line n =>
      modifyStack (·.modifyTop (·.setLine n))
      pure .next
    | .position offset source =>
      modifyStack (·.modifyTop (·.setPosition offset (LineIndex.ofString source)))
      pure .next
    | .declareLocal name e =>
      let v ← eval args e
      modifyStack (·.modifyTop (·.declareLocal name v))
      pure .next
    | .assign name e =>
      setVariable name (← eval args e)
      pure .next
    | .increment name =>
      let v ← readVariable name
      setVariable name (.int ((v.asInteger?.getD 0) + 1))
      pure .next
    | .setField t k v =>
      let tv ← eval args t
      let kv ← eval args k
      let vv ← eval args v
      match tv with
      | .table r =>
        let key ← keyOf kv
        modify fun m => m.modifyTable r (·.set key vv)
        pure .next
      | _ => malformed "setfield on a value that is not a table"
    | .setGlobal name e =>
      let v ← eval args e
      modify fun m => m.modifyTable m.globals (·.setField name v)
      pure .next
    | .setUpvalue f index e =>
      let fv ← eval args f
      let v ← eval args e
      writeUpvalue fv index v
      pure .next
    | .cond test yes no =>
      let v ← eval args test
      execBlock fuel args (if v.truthy then yes else no)
    | .log e =>
      let v ← eval args e
      emit (.value (← deep v))
      pure .next
    | .pushFrame spec =>
      let frame ← buildFrame args spec
      modifyStack (·.push frame)
      emit (.depth (← get).stack.depth)
      pure .next
    | .popFrame =>
      modifyStack (·.pop)
      emit (.depth (← get).stack.depth)
      pure .next
    | .stack =>
      emit (.stack (← stackReport))
      pure .next
    | .invalid message => malformed message

end

end Exec

end LuaIntrospect
