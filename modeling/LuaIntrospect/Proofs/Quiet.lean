import LuaIntrospect.Proofs.Keeps

/-! Steps that call nothing leave the settings, the call stack, the yield collector and the
wrapped closures as they were. -/
namespace LuaIntrospect

namespace Event

/-- Whether a record is the depth record that a frame push or pop writes. -/
def isDepth : Event → Bool
  | .depth _ => true
  | _ => false

end Event

namespace Machine

/-- `m'` follows `m` by steps that call nothing. -/
structure Quiet (m m' : Machine) : Prop where
  config : m'.config = m.config
  stack : m'.stack = m.stack
  yields : m'.yields = m.yields
  wrappers : m'.wrappers = m.wrappers
  log : ∃ added, m'.log.toList = m.log.toList ++ added ∧ ∀ e ∈ added, e.isDepth = false

theorem Quiet.of_eq {m m' : Machine} (config : m'.config = m.config) (stack : m'.stack = m.stack)
    (yields : m'.yields = m.yields) (wrappers : m'.wrappers = m.wrappers) (log : m'.log = m.log) :
    Quiet m m' :=
  ⟨config, stack, yields, wrappers, [], by simp [log], by simp⟩

instance : Std.Refl Quiet := ⟨fun _ => Quiet.of_eq rfl rfl rfl rfl rfl⟩

instance : Trans Quiet Quiet Quiet where
  trans first second := by
    obtain ⟨config₁, stack₁, yields₁, wrappers₁, added₁, log₁, plain₁⟩ := first
    obtain ⟨config₂, stack₂, yields₂, wrappers₂, added₂, log₂, plain₂⟩ := second
    refine ⟨config₂.trans config₁, stack₂.trans stack₁, yields₂.trans yields₁,
      wrappers₂.trans wrappers₁, added₁ ++ added₂, by simp [log₂, log₁], ?_⟩
    intro e member
    rcases List.mem_append.mp member with old | new
    · exact plain₁ e old
    · exact plain₂ e new

theorem Quiet.allocTable (m : Machine) (t : Table) : Quiet m (m.allocTable t).2 :=
  Quiet.of_eq rfl rfl rfl rfl rfl

theorem Quiet.allocCell (m : Machine) (v : Value) : Quiet m (m.allocCell v).2 :=
  Quiet.of_eq rfl rfl rfl rfl rfl

theorem Quiet.modifyTable (m : Machine) (t : TableRef) (g : Table → Table) :
    Quiet m (m.modifyTable t g) :=
  Quiet.of_eq rfl rfl rfl rfl rfl

theorem Quiet.setMetatable (m : Machine) (v : Value) (mt : Option TableRef) :
    Quiet m (m.setMetatable v mt) := by
  unfold Machine.setMetatable
  split
  · exact Quiet.modifyTable m _ _
  · exact Quiet.of_eq rfl rfl rfl rfl rfl

theorem Quiet.push_log (m : Machine) (e : Event) (plain : e.isDepth = false) :
    Quiet m { m with log := m.log.push e } :=
  ⟨rfl, rfl, rfl, rfl, [e], by simp, by simpa using plain⟩

end Machine

namespace Exec

open Machine

theorem readVariable_quiet (name : String) : Keeps Quiet (readVariable name) :=
  Keeps.get.bind fun _ => Keeps.pure _

theorem setVariable_quiet (name : String) (v : Value) : Keeps Quiet (setVariable name v) :=
  Keeps.modify fun _ => Quiet.of_eq rfl rfl rfl rfl rfl

theorem definedFunction_quiet (id : String) : Keeps Quiet (definedFunction id) := by
  refine Keeps.get.bind fun m => ?_
  split
  · exact Keeps.pure _
  · exact Keeps.malformed _

theorem keyOf_quiet (v : Value) : Keeps Quiet (keyOf v) := by
  unfold keyOf
  split
  · exact Keeps.pure _
  · exact Keeps.malformed _

theorem newTable_quiet (entries : List (Value × Value)) : Keeps Quiet (newTable entries) := by
  unfold newTable
  refine (Keeps.forIn fun entry t => ?_).bind fun t => ?_
  · exact (keyOf_quiet entry.1).bind fun _ => Keeps.pure _
  · exact (Keeps.modifyGet fun m => Quiet.allocTable m _).bind fun _ => Keeps.pure _

theorem newUserdata_quiet (typeName : String) : Keeps Quiet (newUserdata typeName) :=
  Keeps.modifyGet fun _ => Quiet.of_eq rfl rfl rfl rfl rfl

theorem fieldOf_quiet (t k : Value) : Keeps Quiet (fieldOf t k) := by
  unfold fieldOf
  split
  · exact Keeps.get.bind fun _ => Keeps.pure _
  · exact Keeps.pure _

theorem libraryField_quiet (path : String) : Keeps Quiet (libraryField path) :=
  Keeps.get.bind fun _ => fieldOf_quiet _ _

mutual

theorem eval_quiet (args : Option (List Value)) : (e : Expr) → Keeps Quiet (eval args e)
  | .lit _ | .arg _ | .argCount | .thread _ => Keeps.pure _
  | .var name => readVariable_quiet name
  | .func id => definedFunction_quiet id
  | .table entries => (evalEntries_quiet args entries).bind newTable_quiet
  | .global _ | .depth | .yieldDepth => Keeps.get.bind fun _ => Keeps.pure _
  | .libraryField path => libraryField_quiet path
  | .field t k => (eval_quiet args t).bind fun tv => (eval_quiet args k).bind (fieldOf_quiet tv)
  | .border t => (eval_quiet args t).bind fun tv => by
      split
      · exact Keeps.get.bind fun _ => Keeps.pure _
      · exact Keeps.pure _
  | .userdata typeName => newUserdata_quiet typeName
  | .equal a b => (eval_quiet args a).bind fun _ => (eval_quiet args b).bind fun _ => Keeps.pure _
  | .not e | .typeOf e | .toText e => (eval_quiet args e).bind fun _ => Keeps.pure _
  | .invalid message => Keeps.malformed message

theorem evalEntries_quiet (args : Option (List Value)) :
    (entries : List (Expr × Expr)) → Keeps Quiet (evalEntries args entries)
  | [] => Keeps.pure _
  | (k, v) :: rest =>
    (eval_quiet args k).bind fun _ => (eval_quiet args v).bind fun _ =>
      (evalEntries_quiet args rest).bind fun _ => Keeps.pure _

end

theorem evalArgs_quiet (args : Option (List Value)) :
    (list : List Arg) → Keeps Quiet (evalArgs args list)
  | [] => Keeps.pure _
  | .expr e :: rest =>
    (eval_quiet args e).bind fun _ => (evalArgs_quiet args rest).bind fun _ => Keeps.pure _
  | .varargs :: rest => (evalArgs_quiet args rest).bind fun _ => Keeps.pure _

theorem emit_quiet (e : Event) (plain : e.isDepth = false) : Keeps Quiet (emit e) :=
  Keeps.modify fun m => Quiet.push_log m e plain

theorem storeResults_quiet (names : List String) (vs : List Value) :
    Keeps Quiet (storeResults names vs) := by
  unfold storeResults
  refine Keeps.bind ?_ fun _ => Keeps.pure _
  apply Keeps.forIn
  intro ⟨name, i⟩ _
  exact (setVariable_quiet name _).bind fun _ => Keeps.pure _

theorem tableNumber_quiet (t : TableRef) : Keeps Quiet (tableNumber t) :=
  Keeps.modifyGet fun _ => Quiet.of_eq rfl rfl rfl rfl rfl

theorem functionNumber_quiet (f : Callable) : Keeps Quiet (functionNumber f) :=
  Keeps.modifyGet fun _ => Quiet.of_eq rfl rfl rfl rfl rfl

theorem userdataNumber_quiet (id : Nat) : Keeps Quiet (userdataNumber id) :=
  Keeps.modifyGet fun _ => Quiet.of_eq rfl rfl rfl rfl rfl

theorem shallow_quiet (v : Value) : Keeps Quiet (shallow v) := by
  cases v with
  | func f =>
    exact (functionNumber_quiet f).bind fun _ => Keeps.get.bind fun _ => Keeps.pure _
  | userdata id typeName => exact (userdataNumber_quiet id).bind fun _ => Keeps.pure _
  | table t => exact (tableNumber_quiet t).bind fun _ => Keeps.pure _
  | _ => exact Keeps.pure _

theorem deep_quiet (v : Value) : Keeps Quiet (deep v) := by
  cases v with
  | table t =>
    refine (tableNumber_quiet t).bind fun n => Keeps.get.bind fun m => ?_
    refine (Keeps.mapM (fun ⟨k, v⟩ => (shallow_quiet _).bind fun _ =>
      (shallow_quiet v).bind fun _ => Keeps.pure _) _).bind fun _ => ?_
    exact (Keeps.optionMapM tableNumber_quiet _).bind fun _ => Keeps.pure _
  | _ => exact (shallow_quiet _).bind fun _ => Keeps.pure _

theorem recordCall_quiet (r : Except LuaError (List Value)) (h : Handling) (inBody : Bool) :
    Keeps Quiet (recordCall r h inBody) := by
  unfold recordCall
  cases r with
  | ok vs =>
    exact (Keeps.mapM deep_quiet vs).bind fun _ => (emit_quiet _ rfl).bind fun _ =>
      storeResults_quiet h.store vs
  | error e =>
    refine (emit_quiet _ rfl).bind fun _ => ?_
    split
    · exact Keeps.fail e
    · exact Keeps.pure _

theorem buildFrame_quiet (args : Option (List Value)) (spec : FrameSpec) :
    Keeps Quiet (buildFrame args spec) := by
  unfold buildFrame
  refine (Keeps.forIn fun ⟨name, e⟩ _ => (eval_quiet args e).bind fun _ => Keeps.pure _).bind
    fun frame => ?_
  split
  · exact Keeps.pure _
  · refine (Keeps.forIn fun ⟨name, e⟩ _ => ?_).bind fun _ => Keeps.pure _
    exact (eval_quiet args e).bind fun _ =>
      (Keeps.modifyGet fun m => Quiet.allocCell m _).bind fun _ => Keeps.pure _

theorem writeUpvalue_quiet (f : Value) (index : Int) (v : Value) :
    Keeps Quiet (writeUpvalue f index v) := by
  unfold writeUpvalue
  split
  · refine Keeps.get.bind fun m => ?_
    split
    · split
      · split
        · exact Keeps.modify fun _ => Quiet.of_eq rfl rfl rfl rfl rfl
        · exact Keeps.pure _
      · exact Keeps.pure _
    · exact Keeps.pure _
  · exact Keeps.pure _

theorem frameReport_quiet (f : Frame) : Keeps Quiet (frameReport f) := by
  unfold frameReport
  refine (Keeps.mapM (fun ⟨n, v⟩ => (shallow_quiet v).bind fun _ => Keeps.pure _) _).bind
    fun _ => ?_
  refine (Keeps.optionMapM (fun ups => Keeps.mapM (fun u => ?_) ups) _).bind fun _ =>
    Keeps.pure _
  exact Keeps.get.bind fun _ => (shallow_quiet _).bind fun _ => Keeps.pure _

theorem stackReport_quiet : Keeps Quiet stackReport :=
  Keeps.get.bind fun _ => (Keeps.mapM frameReport_quiet _).bind fun _ => Keeps.pure _

theorem check_quiet {α : Type} (r : Except LuaError α) : Keeps Quiet (check r) := by
  cases r with
  | ok a => exact Keeps.pure a
  | error e => exact Keeps.fail e

theorem infoTable_quiet (i : DebugInfo) : Keeps Quiet (infoTable i) :=
  (Keeps.modifyGet fun m => Quiet.allocTable m _).bind fun _ => Keeps.pure _

theorem getinfo_quiet (args : List Value) : Keeps Quiet (getinfo args) := by
  unfold getinfo
  simp only [pure_bind, fail_bind]
  split
  · -- the option string: the default, a string argument, or a refusal
    split
    case h_4 => exact Keeps.fail _
    all_goals
      split
      · exact Keeps.get.bind fun _ => (infoTable_quiet _).bind fun _ => Keeps.pure _
      · exact Keeps.fail _
  · exact Keeps.fail _

theorem getlocal_quiet (args : List Value) : Keeps Quiet (getlocal args) := by
  unfold getlocal
  simp only
  split
  · exact Keeps.pure _
  · split
    · refine Keeps.get.bind fun _ => ?_
      split
      · exact Keeps.pure _
      · exact Keeps.pure _
    · exact Keeps.pure _

theorem getupvalue_quiet (args : List Value) : Keeps Quiet (getupvalue args) := by
  unfold getupvalue
  refine (check_quiet _).bind fun f => ?_
  split
  · refine Keeps.get.bind fun m => ?_
    split
    · simp only
      split
      · exact Keeps.pure _
      · exact Keeps.pure _
    · split
      · exact Keeps.pure _
      · exact Keeps.pure _
  · exact Keeps.pure _

theorem traceback_quiet (args : List Value) : Keeps Quiet (traceback args) := by
  unfold traceback
  simp only
  split <;> exact Keeps.pure _

/-- Every library entry but `yield` and `wrap` calls nothing and touches neither the yield
collector nor the wrapped closures. -/
theorem callBuiltin_quiet (b : Builtin) (args : List Value) (notYield : b ≠ .yield)
    (notWrap : b ≠ .wrap) : Keeps Quiet (callBuiltin b args) := by
  cases b
  case getinfo => exact getinfo_quiet args
  case getlocal => exact getlocal_quiet args
  case getupvalue => exact getupvalue_quiet args
  case getmetatable =>
    exact (check_quiet _).bind fun _ => Keeps.get.bind fun _ => Keeps.pure _
  case setmetatable =>
    exact (check_quiet _).bind fun _ =>
      (Keeps.modify fun m => Quiet.setMetatable m _ _).bind fun _ => Keeps.pure _
  case traceback => exact traceback_quiet args
  case getregistry => exact Keeps.get.bind fun _ => Keeps.pure _
  case sethook =>
    show Keeps Quiet (if _ then _ else _)
    split
    · exact Keeps.pure _
    · exact Keeps.fail _
  case setlocal | setupvalue | setuservalue =>
    exact (check_quiet _).bind fun _ => Keeps.pure _
  case gethook | getuservalue | status | isyieldable | running => exact Keeps.pure _
  case upvalueid | upvaluejoin | create | resume | close => exact Keeps.fail _
  case yield => exact absurd rfl notYield
  case wrap => exact absurd rfl notWrap

end Exec

end LuaIntrospect
