import LuaIntrospect.Proofs.Calls

/-! Every run evolves the machine, by induction on the fuel over all the interpreter's functions. -/
namespace LuaIntrospect.Exec

open Machine

/-- Every run of every function of the interpreter with this fuel evolves the machine. -/
structure EvolvesAt (fuel : Nat) : Prop where
  invoke : ∀ callee args, Keeps Evolves (invoke fuel callee args)
  callFunction : ∀ callee args, Keeps Evolves (callFunction fuel callee args)
  enter : ∀ c args, Keeps Evolves (enter fuel c args)
  resume : ∀ w args, Keeps Evolves (resume fuel w args)
  collect : ∀ target args, Keeps Evolves (collect fuel target args)
  execBlock : ∀ args stmts, Keeps Evolves (execBlock fuel args stmts)
  execStmt : ∀ args stmt, Keeps Evolves (execStmt fuel args stmt)

theorem Keeps.evolves {α : Type} {x : Exec α} (quiet : Keeps Quiet x) : Keeps Evolves x :=
  quiet.mono fun _ _ => Evolves.of_quiet

theorem yieldValues_evolves (args : List Value) : Keeps Evolves (yieldValues args) := by
  intro m m' ended
  simp only [yieldValues, bind, EStateM.bind, get, getThe, MonadStateOf.get, EStateM.get] at ended
  cases diverted : m.yields.divert args with
  | error e =>
    simp only [diverted, check, fail, throw, throwThe, MonadExceptOf.throw, EStateM.throw] at ended
    cases ended
    exact Evolves.refl m
  | ok c =>
    simp only [diverted, check, pure, EStateM.pure, modify, modifyGet, MonadStateOf.modifyGet,
      EStateM.modifyGet] at ended
    cases ended
    exact Evolves.divert diverted

theorem callBuiltin_evolves (b : Builtin) (args : List Value) :
    Keeps Evolves (callBuiltin b args) := by
  by_cases notYield : b = .yield
  · subst notYield
    exact yieldValues_evolves args
  by_cases notWrap : b = .wrap
  · subst notWrap
    exact (check_quiet _).evolves.bind fun _ =>
      (Keeps.modifyGet fun m => Evolves.newWrapper m _).bind fun _ => Keeps.pure _
  exact (callBuiltin_quiet b args notYield notWrap).evolves

section Step

variable {fuel : Nat} (ih : EvolvesAt fuel)
include ih

theorem invoke_evolves (callee : Value) (args : List Value) :
    Keeps Evolves (invoke (fuel + 1) callee args) := by
  intro m m' ended
  cases callee
  case func f =>
    rw [invoke_func] at ended
    split at ended
    · cases ended
      exact Evolves.refl m
    · -- the callee ran above its pushed frame; the call cuts the stack back
      obtain ⟨m₁, ran, rfl⟩ := ending_finishCall ended
      exact Evolves.unwind (ih.enter f args _ m₁ ran)
  all_goals
    rw [invoke_not_func _ _ _ _ (by simp)] at ended
    cases ended
    exact Evolves.refl m

theorem callFunction_evolves (callee : Value) (args : List Value) :
    Keeps Evolves (callFunction (fuel + 1) callee args) := by
  intro m m' ended
  rw [callFunction_succ] at ended
  split at ended
  · rename_i target rest m₁ tail
    have first := ih.invoke callee args m m₁ (by simp [tail])
    exact first.trans (ih.callFunction target rest m₁ m' ended)
  · exact ih.invoke callee args m m' ended

theorem collect_evolves (target : Value) (args : List Value) :
    Keeps Evolves (collect (fuel + 1) target args) := by
  intro m m' ended
  rw [collect_succ] at ended
  obtain ⟨m₁, ran, rfl⟩ := ending_finishCollect ended
  exact (Evolves.withSink (callFunction_evolves ih target args _ m₁ ran)).2

theorem enter_evolves (c : Callable) (args : List Value) :
    Keeps Evolves (enter (fuel + 1) c args) := by
  cases c with
  | script i =>
    refine Keeps.get.bind fun _ => (ih.execBlock _ _).bind fun flow => ?_
    cases flow <;> exact Keeps.pure _
  | builtin b => exact callBuiltin_evolves b args
  | wrapper w => exact ih.resume w args

theorem resume_evolves (w : Nat) (args : List Value) :
    Keeps Evolves (resume (fuel + 1) w args) := by
  intro m m' ended
  rw [resume_succ] at ended
  generalize current : m.wrappers.getD w { target := .nil } = st at ended
  have lookup : ∀ s, m.wrappers[w]? = some s → s = st := fun s found =>
    (wrapState_of_found found).symm.trans current
  cases started : st.started
  · -- the first call: the closure starts, then its target runs under a fresh sink
    simp only [started, Bool.false_eq_true, ↓reduceIte] at ended
    have start := Evolves.markStarted m w fun s found => by
      rw [lookup s found]
      exact started
    cases run : collect fuel st.target args
        { m with wrappers := m.wrappers.modify w fun s => { s with started := true } } with
    | ok r m₁ =>
      obtain ⟨result, captured⟩ := r
      have body := ih.collect st.target args
        { m with wrappers := m.wrappers.modify w fun s => { s with started := true } } m₁
        (by simp [run])
      simp only [run] at ended
      cases listed : captured.toList with
      | nil =>
        simp only [listed] at ended
        cases ended
        exact start.trans body
      | cons first rest =>
        simp only [listed] at ended
        cases ended
        -- nothing out of range has a target that runs, so the closure is in range
        cases found : m.wrappers[w]? with
        | none =>
          have nothing : st.target = .nil := by rw [← current, wrapState_of_missing found]
          exact absurd run (collect_not_func _ _ _ (by simp [nothing]) _ _)
        | some s =>
          rw [← lookup s found] at started
          exact Evolves.recordFirstRun found started body (fun _ => rfl) (fun _ => rfl)
    | error h m₁ =>
      simp only [run] at ended
      exact start.trans
        (ih.collect st.target args _ m' (by rw [run, ending_error_retype]; exact ended))
  · simp only [started, ↓reduceIte] at ended
    cases found : st.recorded[st.cursor]? with
    | some record =>
      simp only [found] at ended
      cases ended
      refine Evolves.modifyWrap fun s foundState => ?_
      rw [lookup s foundState]
      exact WrapState.Advances.replay started found
    | none =>
      simp only [found] at ended
      cases run : collect fuel st.target args m with
      | ok r m₁ =>
        simp only [run] at ended
        cases ended
        exact ih.collect st.target args m m' (by simp [run])
      | error h m₁ =>
        simp only [run] at ended
        exact ih.collect st.target args m m' (by rw [run, ending_error_retype]; exact ended)

theorem execBlock_evolves (args : Option (List Value)) (stmts : List Stmt) :
    Keeps Evolves (execBlock (fuel + 1) args stmts) := by
  unfold execBlock
  refine (Keeps.forIn fun stmt _ => (ih.execStmt args stmt).bind fun flow => ?_).bind
    fun r => ?_
  · cases flow <;> exact Keeps.pure _
  · obtain ⟨returned, _⟩ := r
    cases returned <;> exact Keeps.pure _

theorem execStmt_evolves (args : Option (List Value)) (stmt : Stmt) :
    Keeps Evolves (execStmt (fuel + 1) args stmt) := by
  cases stmt with
  | call target argList mode h =>
    refine (eval_quiet args target).evolves.bind fun callee =>
      (evalArgs_quiet args argList).evolves.bind fun vs => Keeps.bind ?_ fun r =>
        (recordCall_quiet r h _).evolves.bind fun _ => Keeps.pure _
    cases mode
    · exact Keeps.attempt (ih.callFunction callee vs)
    · exact Keeps.attempt (ih.invoke callee vs)
  | direct entry argList h =>
    simp only [execStmt]
    split
    · exact Keeps.malformed _
    · exact (evalArgs_quiet args argList).evolves.bind fun vs =>
        (Keeps.attempt (callBuiltin_evolves _ vs)).bind fun r =>
          (recordCall_quiet r h _).evolves.bind fun _ => Keeps.pure _
  | ret values =>
    simp only [execStmt]
    split
    · exact Keeps.malformed_bind _
    · exact (evalArgs_quiet args values).evolves.bind fun _ => Keeps.pure _
  | tailCall target argList =>
    simp only [execStmt]
    split
    · exact Keeps.malformed_bind _
    · exact (eval_quiet args target).evolves.bind fun _ =>
        (evalArgs_quiet args argList).evolves.bind fun _ => Keeps.fail _
  | raise message =>
    simp only [execStmt]
    split
    · exact Keeps.malformed_bind _
    · exact Keeps.fail _
  | line n =>
    exact (Keeps.modify fun m => Evolves.modifyTop m fun f => Frame.Edited.setLine f n).bind fun _ =>
      Keeps.pure _
  | position offset source =>
    exact (Keeps.modify fun m => Evolves.modifyTop m fun f =>
      Frame.Edited.setPosition f offset _).bind fun _ => Keeps.pure _
  | declareLocal name e =>
    exact (eval_quiet args e).evolves.bind fun v =>
      (Keeps.modify fun m => Evolves.modifyTop m fun f => Frame.Edited.declareLocal f name v).bind
        fun _ => Keeps.pure _
  | assign name e =>
    exact (eval_quiet args e).evolves.bind fun _ =>
      (setVariable_quiet name _).evolves.bind fun _ => Keeps.pure _
  | increment name =>
    exact (readVariable_quiet name).evolves.bind fun _ =>
      (setVariable_quiet name _).evolves.bind fun _ => Keeps.pure _
  | setField t k v =>
    refine (eval_quiet args t).evolves.bind fun tv => (eval_quiet args k).evolves.bind fun kv =>
      (eval_quiet args v).evolves.bind fun vv => ?_
    cases tv
    case table r =>
      exact (keyOf_quiet kv).evolves.bind fun key =>
        (Keeps.modify fun m => Evolves.of_quiet (Quiet.modifyTable m r _)).bind fun _ =>
          Keeps.pure _
    all_goals exact Keeps.malformed _
  | setGlobal name e =>
    exact (eval_quiet args e).evolves.bind fun _ =>
      (Keeps.modify fun m => Evolves.of_quiet (Quiet.modifyTable m _ _)).bind fun _ =>
        Keeps.pure _
  | setUpvalue f index e =>
    exact (eval_quiet args f).evolves.bind fun _ => (eval_quiet args e).evolves.bind fun _ =>
      (writeUpvalue_quiet _ index _).evolves.bind fun _ => Keeps.pure _
  | cond test yes no =>
    exact (eval_quiet args test).evolves.bind fun _ => ih.execBlock args _
  | log e =>
    exact (eval_quiet args e).evolves.bind fun _ => (deep_quiet _).evolves.bind fun _ =>
      (emit_quiet _ rfl).evolves.bind fun _ => Keeps.pure _
  | pushFrame spec =>
    exact (buildFrame_quiet args spec).evolves.bind fun frame =>
      (Keeps.modify fun m => Evolves.pushFrame m frame).bind fun _ => Keeps.get.bind fun _ =>
        (Keeps.modify fun m => Evolves.recordDepth m _).bind fun _ => Keeps.pure _
  | popFrame =>
    -- the pop and the record of the depth it leaves form one step of `Evolves`
    intro m m' ended
    simp only [execStmt, modifyStack, emit, modify, modifyGet, MonadStateOf.modifyGet,
      EStateM.modifyGet, bind, EStateM.bind, get, getThe, MonadStateOf.get, EStateM.get, pure,
      EStateM.pure] at ended
    cases ended
    exact Evolves.popRecorded m
  | stack =>
    exact (stackReport_quiet.evolves).bind fun _ => (emit_quiet _ rfl).evolves.bind fun _ =>
      Keeps.pure _
  | invalid message => exact Keeps.malformed _

end Step

/-- Every run of every function of the interpreter evolves the machine. With no fuel left every
function stops at once, which asks nothing. -/
theorem evolvesAt (fuel : Nat) : EvolvesAt fuel := by
  induction fuel with
  | zero =>
    refine ⟨?_, ?_, ?_, ?_, ?_, ?_, ?_⟩ <;>
      exact fun _ _ _ _ ended => nomatch ended
  | succ fuel ih =>
    exact ⟨invoke_evolves ih, callFunction_evolves ih, enter_evolves ih, resume_evolves ih,
      collect_evolves ih, execBlock_evolves ih, execStmt_evolves ih⟩

end LuaIntrospect.Exec
