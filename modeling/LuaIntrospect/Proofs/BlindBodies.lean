import Mathlib
import LuaIntrospect.Proofs.NestedWrap

/-! Guest bodies that do not look beneath where they run: they run the same with the settings,
the frames below the newest, the yield sinks and the wrapped closures changed. Main statements:
`invoke_blind_script_deeper` and `invoke_blind_script_outer`. -/
namespace LuaIntrospect

mutual

/-- The expression reads neither the depth of the call stack nor that of the yield sinks. -/
def Expr.blind : Expr → Bool
  | .table entries => Expr.blindEntries entries
  | .field t k | .equal t k => t.blind && k.blind
  | .border e | .not e | .typeOf e | .toText e => e.blind
  | .depth | .yieldDepth => false
  | _ => true

def Expr.blindEntries : List (Expr × Expr) → Bool
  | [] => true
  | (k, v) :: rest => k.blind && v.blind && Expr.blindEntries rest

end

def Arg.blind : Arg → Bool
  | .expr e => e.blind
  | .varargs => true

mutual

/-- The statement does not look beneath the newest frame and the innermost sink: it calls
nothing, pushes, pops and reports no frame, and reads no depth. -/
def Stmt.blind : Stmt → Bool
  | .ret values => values.all Arg.blind
  | .raise _ | .line _ | .position _ _ | .increment _ | .invalid _ => true
  | .declareLocal _ e | .assign _ e | .setGlobal _ e | .log e => e.blind
  | .setField t k v => t.blind && k.blind && v.blind
  | .setUpvalue f _ e => f.blind && e.blind
  | .cond test yes no => test.blind && Stmt.allBlind yes && Stmt.allBlind no
  | .call .. | .direct .. | .tailCall .. | .pushFrame _ | .popFrame | .stack => false

def Stmt.allBlind : List Stmt → Bool
  | [] => true
  | stmt :: rest => stmt.blind && Stmt.allBlind rest

end

theorem List.modify_length_append_singleton {α : Type} (l : List α) (x : α) (g : α → α) :
    (l ++ [x]).modify l.length g = l ++ [g x] := by
  rw [List.modify_eq_take_cons_drop (by simp)]
  simp

theorem CallStack.depth_modifyTop (s : CallStack) (g : Frame → Frame) :
    (s.modifyTop g).depth = s.depth := by
  unfold CallStack.modifyTop
  split <;> simp [CallStack.depth]

theorem CallStack.modifyTop_insertIdx (s : CallStack) (g : Frame → Frame) {d : Nat}
    (inside : d < s.depth) :
    ({ s with frames := (s.frames.toList.insertIdx d wrapperFrame).toArray } : CallStack).modifyTop g =
      { s.modifyTop g with frames := ((s.modifyTop g).frames.toList.insertIdx d wrapperFrame).toArray } := by
  obtain ⟨init, last, frames⟩ : ∃ init last, s.frames.toList = init ++ [last] := by
    rcases List.eq_nil_or_concat s.frames.toList with empty | ⟨init, last, split⟩
    · simp [CallStack.depth, ← Array.length_toList, empty] at inside
    · exact ⟨init, last, by rw [split, List.concat_eq_append]⟩
  have within : d ≤ init.length := by
    have size := congrArg List.length frames
    simp only [Array.length_toList, List.length_append, List.length_singleton] at size
    simp only [CallStack.depth] at inside
    omega
  have sized : s.frames.size = init.length + 1 := by
    rw [← Array.length_toList, frames, List.length_append, List.length_singleton]
  have modified : s.frames.modify (s.frames.size - 1) g = (init ++ [g last]).toArray := by
    apply Array.toList_inj.mp
    simp [frames, sized, List.modify_length_append_singleton]
  have pushed : (s.frames.toList.insertIdx d wrapperFrame).toArray.modify
      ((s.frames.toList.insertIdx d wrapperFrame).toArray.size - 1) g =
        (init.insertIdx d wrapperFrame ++ [g last]).toArray := by
    simp only [frames, List.insertIdx_append_singleton _ _ _ within, List.size_toArray,
      List.length_append, List.length_singleton, Nat.add_sub_cancel]
    apply Array.toList_inj.mp
    simp [List.modify_length_append_singleton]
  simp only [CallStack.modifyTop, if_neg (show s.frames.size ≠ 0 by omega), modified, pushed]
  rw [if_neg (by simp [frames, List.insertIdx_append_singleton _ _ _ within]),
    List.insertIdx_append_singleton _ _ _ within]

namespace Machine

/-- A change of the parts of a machine that a blind step neither reads nor writes: the settings,
the call stack below the newest frame, the yield sinks and the wrapped closures. -/
structure Hidden where
  config : Config → Config
  stack : CallStack → CallStack
  yields : YieldCollector → YieldCollector
  wrappers : Array WrapState → Array WrapState

/-- The machine with its hidden parts changed. -/
def Hidden.apply (h : Hidden) (m : Machine) : Machine :=
  { m with
    config := h.config m.config
    stack := h.stack m.stack
    yields := h.yields m.yields
    wrappers := h.wrappers m.wrappers }

/-- The machine one wrapped closure deeper, as a change of its hidden parts. -/
def Hidden.deeper (w : Nat) (o : WrapState) (d e : Nat) : Hidden where
  config c := { c with maxCallDepth := c.maxCallDepth + 1 }
  stack s := { s with frames := (s.frames.toList.insertIdx d wrapperFrame).toArray }
  yields y := ⟨y.sinks.insertIdx (y.sinks.length - e) #[]⟩
  wrappers ws := ws.setIfInBounds w o

/-- The machine of a closure wrapping another between calls, as a change of its hidden parts:
one more level of call depth and the outer closure's state. -/
def Hidden.outer (w : Nat) (o : WrapState) : Hidden where
  config c := { c with maxCallDepth := c.maxCallDepth + 1 }
  stack := id
  yields := id
  wrappers ws := ws.setIfInBounds w o

end Machine

namespace Exec

open Machine

variable {h : Hidden} {P : Nat → Nat → Prop} {α β : Type}

/-- The second machine is the first with its hidden parts changed by `h`, and the first has the
depth and the sinks that `P` asks for. -/
def Hides (h : Hidden) (P : Nat → Nat → Prop) (m m' : Machine) : Prop :=
  P m.stack.depth m.yields.depth ∧ m' = h.apply m

/-- A step runs the same with the hidden parts changed, from every machine whose depth and sinks
`P` allows, and keeps them allowed. -/
def RunsHidden (h : Hidden) (P : Nat → Nat → Prop) (x : Exec α) : Prop :=
  ∀ m, P m.stack.depth m.yields.depth → Matches (Hides h P) (x m) (x (h.apply m))

theorem RunsHidden.pure (a : α) : RunsHidden h P (Pure.pure a : Exec α) :=
  fun _ room => Matches.pure ⟨room, rfl⟩ a

theorem RunsHidden.bind {x : Exec α} {f : α → Exec β} (first : RunsHidden h P x)
    (rest : ∀ a, RunsHidden h P (f a)) : RunsHidden h P (x >>= f) := by
  intro m room
  apply Matches.bind (first m room)
  rintro a m₁ _ ⟨room₁, rfl⟩
  exact rest a m₁ room₁

theorem RunsHidden.malformed (message : String) :
    RunsHidden h P (Exec.malformed message : Exec α) :=
  fun _ _ => .inr (.inr ⟨_, _, _, rfl, rfl, fun _ => nofun⟩)

theorem RunsHidden.fail (err : LuaError) : RunsHidden h P (Exec.fail err : Exec α) :=
  fun _ room => .inr (.inl ⟨err, _, _, rfl, rfl, room, rfl⟩)

theorem RunsHidden.forIn {γ : Type} {l : List γ} {b : β} {f : γ → β → Exec (ForInStep β)}
    (body : ∀ a ∈ l, ∀ b, RunsHidden h P (f a b)) :
    RunsHidden h P (ForIn.forIn l b f) := by
  induction l generalizing b with
  | nil => exact RunsHidden.pure b
  | cons a rest ih =>
    rw [List.forIn_cons]
    refine (body a List.mem_cons_self b).bind fun step => ?_
    cases step with
    | done b => exact RunsHidden.pure b
    | yield b => exact ih fun a member => body a (List.mem_cons_of_mem _ member)

theorem RunsHidden.mapM {γ : Type} {f : γ → Exec α} (each : ∀ a, RunsHidden h P (f a))
    (l : List γ) : RunsHidden h P (l.mapM f) := by
  induction l with
  | nil => exact RunsHidden.pure []
  | cons a rest ih =>
    rw [List.mapM_cons]
    exact (each a).bind fun _ => ih.bind fun _ => RunsHidden.pure _

theorem RunsHidden.optionMapM {γ : Type} {f : γ → Exec α}
    (each : ∀ a, RunsHidden h P (f a)) (x : Option γ) :
    RunsHidden h P (x.mapM f) := by
  cases x with
  | none => exact RunsHidden.pure none
  | some a => exact (each a).bind fun _ => RunsHidden.pure _

theorem Matches.read {R : Machine → Machine → Prop} {f : Machine → Exec α} {m : Machine}
    (same : f (h.apply m) = f m) (ran : Matches R (f m m) (f m (h.apply m))) :
    Matches R ((get >>= f) m) ((get >>= f) (h.apply m)) := by
  show Matches R (f m m) (f (h.apply m) (h.apply m))
  rw [same]
  exact ran

theorem RunsHidden.read {f : Machine → Exec α} (same : ∀ m, f (h.apply m) = f m)
    (each : ∀ m, RunsHidden h P (f m)) : RunsHidden h P (get >>= f) :=
  fun m room => Matches.read (same m) (each m m room)

theorem readVariable_hidden (name : String) : RunsHidden h P (readVariable name) :=
  fun _ room => .inl ⟨_, _, _, rfl, rfl, room, rfl⟩

theorem setVariable_hidden (name : String) (v : Value) :
    RunsHidden h P (setVariable name v) :=
  fun _ room => .inl ⟨_, _, _, rfl, rfl, room, rfl⟩

theorem definedFunction_hidden (id : String) : RunsHidden h P (definedFunction id) := by
  refine RunsHidden.read (fun _ => rfl) fun m => ?_
  split
  · exact RunsHidden.pure _
  · exact RunsHidden.malformed _

theorem keyOf_hidden (v : Value) : RunsHidden h P (keyOf v) := by
  unfold keyOf
  split
  · exact RunsHidden.pure _
  · exact RunsHidden.malformed _

theorem allocTable_hidden (t : Table) :
    RunsHidden h P (modifyGet fun m => m.allocTable t : Exec TableRef) :=
  fun _ room => .inl ⟨_, _, _, rfl, rfl, room, rfl⟩

theorem newTable_hidden (entries : List (Value × Value)) :
    RunsHidden h P (newTable entries) := by
  unfold newTable
  refine (RunsHidden.forIn fun entry _ t => ?_).bind fun t => ?_
  · exact (keyOf_hidden entry.1).bind fun _ => RunsHidden.pure _
  · exact (allocTable_hidden t).bind fun r => RunsHidden.pure _

theorem newUserdata_hidden (typeName : String) : RunsHidden h P (newUserdata typeName) :=
  fun _ room => .inl ⟨_, _, _, rfl, rfl, room, rfl⟩

theorem fieldOf_hidden (t k : Value) : RunsHidden h P (fieldOf t k) := by
  unfold fieldOf
  split
  · exact fun _ room => .inl ⟨_, _, _, rfl, rfl, room, rfl⟩
  · exact RunsHidden.pure _

theorem libraryField_hidden (path : String) : RunsHidden h P (libraryField path) :=
  RunsHidden.read (fun _ => rfl) fun _ => fieldOf_hidden _ _

theorem tableNumber_hidden (t : TableRef) : RunsHidden h P (tableNumber t) :=
  fun _ room => .inl ⟨_, _, _, rfl, rfl, room, rfl⟩

theorem functionNumber_hidden (f : Callable) : RunsHidden h P (functionNumber f) :=
  fun _ room => .inl ⟨_, _, _, rfl, rfl, room, rfl⟩

theorem userdataNumber_hidden (id : Nat) : RunsHidden h P (userdataNumber id) :=
  fun _ room => .inl ⟨_, _, _, rfl, rfl, room, rfl⟩

theorem shallow_hidden (v : Value) : RunsHidden h P (shallow v) := by
  cases v with
  | func f =>
    exact (functionNumber_hidden f).bind fun _ =>
      RunsHidden.read (fun _ => rfl) fun _ => RunsHidden.pure _
  | userdata id typeName => exact (userdataNumber_hidden id).bind fun _ => RunsHidden.pure _
  | table t => exact (tableNumber_hidden t).bind fun _ => RunsHidden.pure _
  | _ => exact RunsHidden.pure _

theorem deep_hidden (v : Value) : RunsHidden h P (deep v) := by
  cases v with
  | table t =>
    refine (tableNumber_hidden t).bind fun n => RunsHidden.read (fun _ => rfl) fun m => ?_
    refine (RunsHidden.mapM (fun ⟨k, v⟩ => (shallow_hidden _).bind fun _ =>
      (shallow_hidden v).bind fun _ => RunsHidden.pure _) _).bind fun _ => ?_
    exact (RunsHidden.optionMapM tableNumber_hidden _).bind fun _ => RunsHidden.pure _
  | _ => exact (shallow_hidden _).bind fun _ => RunsHidden.pure _

theorem emit_hidden (ev : Event) : RunsHidden h P (emit ev) :=
  fun _ room => .inl ⟨_, _, _, rfl, rfl, room, rfl⟩

theorem modifyTable_hidden (t : Machine → TableRef) (same : ∀ m, t (h.apply m) = t m)
    (g : Table → Table) :
    RunsHidden h P (modify fun m => m.modifyTable (t m) g : Exec PUnit) := by
  intro m room
  refine .inl ⟨(), _, _, rfl, ?_, room, rfl⟩
  show EStateM.Result.ok () ((h.apply m).modifyTable (t (h.apply m)) g) = _
  rw [same]
  rfl

theorem writeUpvalue_hidden (f : Value) (index : Int) (v : Value) :
    RunsHidden h P (writeUpvalue f index v) := by
  unfold writeUpvalue
  split
  · refine RunsHidden.read (fun _ => rfl) fun m => ?_
    split
    · split
      · split
        · exact fun _ room => .inl ⟨_, _, _, rfl, rfl, room, rfl⟩
        · exact RunsHidden.pure _
      · exact RunsHidden.pure _
    · exact RunsHidden.pure _
  · exact RunsHidden.pure _

theorem modifyTop_hidden (g : Frame → Frame)
    (tops : ∀ (s : CallStack) y, P s.depth y → h.stack (s.modifyTop g) = (h.stack s).modifyTop g) :
    RunsHidden h P (modifyStack (·.modifyTop g)) := by
  intro m room
  have room' : P (m.stack.modifyTop g).depth m.yields.depth := by
    rwa [CallStack.depth_modifyTop]
  refine .inl ⟨(), _, _, rfl, rfl, room', ?_⟩
  simp only [Hidden.apply, tops m.stack _ room]

mutual

theorem eval_hidden (args : Option (List Value)) :
    (ex : Expr) → ex.blind = true → RunsHidden h P (eval args ex)
  | .lit _, _ | .arg _, _ | .argCount, _ | .thread _, _ => RunsHidden.pure _
  | .var name, _ => readVariable_hidden name
  | .func id, _ => definedFunction_hidden id
  | .table entries, blind => (evalEntries_hidden args entries blind).bind newTable_hidden
  | .global _, _ => RunsHidden.read (fun _ => rfl) fun _ => RunsHidden.pure _
  | .libraryField path, _ => libraryField_hidden path
  | .field t k, blind => by
    have parts : t.blind = true ∧ k.blind = true := by simpa [Expr.blind] using blind
    exact (eval_hidden args t parts.1).bind fun tv =>
      (eval_hidden args k parts.2).bind (fieldOf_hidden tv)
  | .border t, blind => (eval_hidden args t blind).bind fun tv => by
      split
      · exact RunsHidden.read (fun _ => rfl) fun _ => RunsHidden.pure _
      · exact RunsHidden.pure _
  | .userdata typeName, _ => newUserdata_hidden typeName
  | .equal a b, blind => by
    have parts : a.blind = true ∧ b.blind = true := by simpa [Expr.blind] using blind
    exact (eval_hidden args a parts.1).bind fun _ =>
      (eval_hidden args b parts.2).bind fun _ => RunsHidden.pure _
  | .not ex, blind | .typeOf ex, blind | .toText ex, blind =>
    (eval_hidden args ex blind).bind fun _ => RunsHidden.pure _
  | .depth, blind | .yieldDepth, blind => absurd blind (by simp [Expr.blind])
  | .invalid message, _ => RunsHidden.malformed message

theorem evalEntries_hidden (args : Option (List Value)) :
    (entries : List (Expr × Expr)) → Expr.blindEntries entries = true →
      RunsHidden h P (evalEntries args entries)
  | [], _ => RunsHidden.pure _
  | (k, v) :: rest, blind => by
    have parts : k.blind = true ∧ v.blind = true ∧ Expr.blindEntries rest = true := by
      simpa [Expr.blindEntries, Bool.and_assoc] using blind
    exact (eval_hidden args k parts.1).bind fun _ => (eval_hidden args v parts.2.1).bind fun _ =>
      (evalEntries_hidden args rest parts.2.2).bind fun _ => RunsHidden.pure _

end

theorem evalArgs_hidden (args : Option (List Value)) :
    (list : List Arg) → list.all Arg.blind = true → RunsHidden h P (evalArgs args list)
  | [], _ => RunsHidden.pure _
  | .expr ex :: rest, blind => by
    have parts : ex.blind = true ∧ rest.all Arg.blind = true := by
      simpa [Arg.blind] using blind
    exact (eval_hidden args ex parts.1).bind fun _ =>
      (evalArgs_hidden args rest parts.2).bind fun _ => RunsHidden.pure _
  | .varargs :: rest, blind => by
    have parts : rest.all Arg.blind = true := by simpa [Arg.blind] using blind
    exact (evalArgs_hidden args rest parts).bind fun _ => RunsHidden.pure _

theorem Stmt.allBlind_iff (stmts : List Stmt) :
    Stmt.allBlind stmts = true ↔ ∀ stmt ∈ stmts, stmt.blind = true := by
  induction stmts with
  | nil => simp [Stmt.allBlind]
  | cons stmt rest ih => simp [Stmt.allBlind, ih]

/-- Statements that do not look beneath the newest frame run the same with the hidden parts
changed, as long as that change leaves edits of the newest frame alone. -/
theorem blind_runs_hidden (h : Hidden) (P : Nat → Nat → Prop)
    (tops : ∀ (s : CallStack) y g, P s.depth y → h.stack (s.modifyTop g) = (h.stack s).modifyTop g)
    (fuel : Nat) :
    (∀ args stmt, stmt.blind = true → RunsHidden h P (execStmt fuel args stmt)) ∧
      (∀ args stmts, Stmt.allBlind stmts = true → RunsHidden h P (execBlock fuel args stmts)) := by
  induction fuel with
  | zero => exact ⟨fun _ _ _ _ _ => Matches.exhausted _ _, fun _ _ _ _ _ => Matches.exhausted _ _⟩
  | succ fuel ih =>
    constructor
    · intro args stmt blind
      cases stmt with
      | ret values =>
        simp only [execStmt]
        split
        · exact RunsHidden.malformed _
        · exact (evalArgs_hidden args values blind).bind fun _ => RunsHidden.pure _
      | raise message =>
        simp only [execStmt]
        split
        · exact (RunsHidden.malformed _).bind fun _ => RunsHidden.fail _
        · exact RunsHidden.fail _
      | line n => exact (modifyTop_hidden _ fun s y => tops s y _).bind fun _ => RunsHidden.pure _
      | position offset source => exact (modifyTop_hidden _ fun s y => tops s y _).bind fun _ => RunsHidden.pure _
      | declareLocal name ex =>
        exact (eval_hidden args ex blind).bind fun _ =>
          (modifyTop_hidden _ fun s y => tops s y _).bind fun _ => RunsHidden.pure _
      | assign name ex =>
        exact (eval_hidden args ex blind).bind fun _ =>
          (setVariable_hidden name _).bind fun _ => RunsHidden.pure _
      | increment name =>
        exact (readVariable_hidden name).bind fun _ =>
          (setVariable_hidden name _).bind fun _ => RunsHidden.pure _
      | setField t k v =>
        have parts : t.blind = true ∧ k.blind = true ∧ v.blind = true := by
          simpa [Stmt.blind, Bool.and_assoc] using blind
        refine (eval_hidden args t parts.1).bind fun tv => (eval_hidden args k parts.2.1).bind
          fun kv => (eval_hidden args v parts.2.2).bind fun vv => ?_
        cases tv
        case table r =>
          exact (keyOf_hidden kv).bind fun key =>
            (modifyTable_hidden (fun _ => r) (fun _ => rfl) _).bind fun _ => RunsHidden.pure _
        all_goals exact RunsHidden.malformed _
      | setGlobal name ex =>
        exact (eval_hidden args ex blind).bind fun _ =>
          (modifyTable_hidden Machine.globals (fun _ => rfl) _).bind fun _ => RunsHidden.pure _
      | setUpvalue f index ex =>
        have parts : f.blind = true ∧ ex.blind = true := by simpa [Stmt.blind] using blind
        exact (eval_hidden args f parts.1).bind fun _ => (eval_hidden args ex parts.2).bind
          fun _ => (writeUpvalue_hidden _ index _).bind fun _ => RunsHidden.pure _
      | cond test yes no =>
        have parts : test.blind = true ∧ Stmt.allBlind yes = true ∧ Stmt.allBlind no = true := by
          simpa [Stmt.blind, Bool.and_assoc] using blind
        exact (eval_hidden args test parts.1).bind fun v =>
          ih.2 args _ (by cases v.truthy <;> simp [parts.2.1, parts.2.2])
      | log ex =>
        exact (eval_hidden args ex blind).bind fun _ => (deep_hidden _).bind fun _ =>
          (emit_hidden _).bind fun _ => RunsHidden.pure _
      | invalid message => exact RunsHidden.malformed _
      | call | direct | tailCall | pushFrame | popFrame | stack => simp [Stmt.blind] at blind
    · intro args stmts blind
      have each := (Stmt.allBlind_iff stmts).mp blind
      unfold execBlock
      refine (RunsHidden.forIn fun stmt member _ =>
        (ih.1 args stmt (each stmt member)).bind fun flow => ?_).bind fun r => ?_
      · cases flow <;> exact RunsHidden.pure _
      · obtain ⟨returned, _⟩ := r
        cases returned <;> exact RunsHidden.pure _

theorem enter_blind_hidden (h : Hidden) (P : Nat → Nat → Prop)
    (tops : ∀ (s : CallStack) y g, P s.depth y → h.stack (s.modifyTop g) = (h.stack s).modifyTop g)
    (fuel i : Nat) (args : List Value) (m : Machine)
    (blind : Stmt.allBlind ((m.scripts[i]?.map Script.body).getD []) = true)
    (room : P m.stack.depth m.yields.depth) :
    Matches (Hides h P) (enter (fuel + 1) (.script i) args m)
      (enter (fuel + 1) (.script i) args (h.apply m)) := by
  -- the body is the machine's definition of the function, which the change leaves alone
  refine Matches.read rfl ?_
  exact ((blind_runs_hidden h P tops fuel).2 _ _ blind).bind (fun flow => by
    cases flow <;> exact RunsHidden.pure _) _ room

/-- A call of a guest function whose body does not look beneath the newest frame, made with room
for the outer closure's frame and sink below it, runs the same one closure deeper. `Oblivious`
asks this of a target in every machine; a guest function meets it in the machines whose
definition of it has such a body. -/
theorem invoke_blind_script_deeper {w : Nat} {o : WrapState} {d e : Nat} (fuel i : Nat)
    (args : List Value) (m : Machine)
    (blind : Stmt.allBlind ((m.scripts[i]?.map Script.body).getD []) = true)
    (room : m.Room (d + 1) (e + 1)) :
    Matches (Deeper w o d e (d + 1) (e + 1)) (invoke (fuel + 1) (.func (.script i)) args m)
      (invoke (fuel + 1) (.func (.script i)) args (m.deeper w o d e)) := by
  apply invoke_deeper (Nat.le_succ d) fuel args m room
  intro pushed
  cases fuel with
  | zero => exact Matches.exhausted _ _
  | succ fuel =>
    -- the newest frame is the callee's, above the outer closure's frame
    have tops : ∀ (s : CallStack) y g, (d + 1 + 1 ≤ s.depth ∧ e + 1 ≤ y) →
        (Hidden.deeper w o d e).stack (s.modifyTop g) =
          ((Hidden.deeper w o d e).stack s).modifyTop g :=
      fun s _ g below => (CallStack.modifyTop_insertIdx s g (by omega)).symm
    exact enter_blind_hidden (Hidden.deeper w o d e) (fun a b => d + 1 + 1 ≤ a ∧ e + 1 ≤ b) tops
      fuel i args _ blind pushed

theorem finishCall_outer {w : Nat} {o : WrapState} (b : Nat)
    {r r' : EStateM.Result Halt Machine (List Value)}
    (ran : Matches (Hides (Hidden.outer w o) fun _ _ => True) r r') :
    Matches (Hides (Hidden.outer w o) fun _ _ => True) (finishCall b r) (finishCall b r') := by
  rcases ran with ⟨a, m, _, rfl, rfl, -, rfl⟩ | ⟨err, m, _, rfl, rfl, -, rfl⟩ |
    ⟨halt, m, m', rfl, rfl, notError⟩
  · exact .inl ⟨a, _, _, rfl, rfl, trivial, rfl⟩
  · exact .inr (.inl ⟨_, _, _, rfl, rfl, trivial, rfl⟩)
  · cases halt with
    | error err => exact absurd rfl (notError err)
    | malformed message => exact .inr (.inr ⟨_, _, _, rfl, rfl, notError⟩)
    | exhausted => exact .inr (.inr ⟨_, _, _, rfl, rfl, notError⟩)

/-- A call of a guest function whose body does not look beneath the newest frame, made below the
depth limit, runs the same between the calls of a closure wrapping another: the extra level of
depth and the outer closure's state change nothing, since the call is the run's only depth
check. -/
theorem invoke_blind_script_outer {w : Nat} {o : WrapState} (fuel i : Nat) (args : List Value)
    (m : Machine) (blind : Stmt.allBlind ((m.scripts[i]?.map Script.body).getD []) = true)
    (below : m.stack.depth < m.config.maxCallDepth) :
    Matches (Hides (Hidden.outer w o) fun _ _ => True) (invoke (fuel + 1) (.func (.script i)) args m)
      (invoke (fuel + 1) (.func (.script i)) args (m.outer w o)) := by
  rw [invoke_func, invoke_func]
  show Matches _ (if m.config.maxCallDepth ≤ m.stack.depth then _ else _)
    (if m.config.maxCallDepth + 1 ≤ m.stack.depth then _ else _)
  rw [if_neg (by omega), if_neg (by omega)]
  apply finishCall_outer
  cases fuel with
  | zero => exact Matches.exhausted _ _
  | succ fuel =>
    exact enter_blind_hidden (Hidden.outer w o) (fun _ _ => True) (fun _ _ _ _ => rfl) fuel i args
      _ blind trivial

end Exec

end LuaIntrospect
