import LuaIntrospect.Proofs.Evolves

/-! One equation for each calling function of the interpreter, in terms of the runs it makes;
later proofs use these and never unfold the functions. -/
namespace LuaIntrospect.Exec

/-- How a call ends once its callee's run has ended: an unlocated runtime error is located at the
newest frame the callee left, and the stack is cut back to the depth the call started at. Runs
stopped for an unreadable request or for fuel go on unchanged. -/
def finishCall (base : Nat) :
    EStateM.Result Halt Machine (List Value) → EStateM.Result Halt Machine (List Value)
  | .ok vs m => .ok vs { m with stack := m.stack.unwindTo base }
  | .error (.error e) m =>
    .error (.error (if e.isUnlocated then locateIn m.stack e else e))
      { m with stack := m.stack.unwindTo base }
  | .error h m => .error h m

theorem ending_finishCall {base : Nat} {r : EStateM.Result Halt Machine (List Value)}
    {m' : Machine} (ended : ending (finishCall base r) = some m') :
    ∃ m₁, ending r = some m₁ ∧ m' = { m₁ with stack := m₁.stack.unwindTo base } := by
  cases r with
  | ok vs m₁ =>
    cases ended
    exact ⟨m₁, rfl, rfl⟩
  | error h m₁ =>
    cases h with
    | error e =>
      cases ended
      exact ⟨m₁, rfl, rfl⟩
    | malformed message => cases ended
    | exhausted => cases ended

theorem invoke_not_func (fuel : Nat) (callee : Value) (args : List Value) (m : Machine)
    (notFunction : ∀ f, callee ≠ .func f) :
    invoke (fuel + 1) callee args m =
      .error (.error (.raise ("attempt to call a " ++ callee.typeName ++ " value"))) m := by
  cases callee
  case func f => exact absurd rfl (notFunction f)
  all_goals rfl

theorem invoke_func (fuel : Nat) (f : Callable) (args : List Value) (m : Machine) :
    invoke (fuel + 1) (.func f) args m =
      if m.config.maxCallDepth ≤ m.stack.depth then .error (.error (.raise "stack overflow")) m
      else finishCall m.stack.depth
        (enter fuel f args { m with stack := m.stack.push (Frame.forFunction (m.signature f)) }) := by
  simp only [invoke, bind, EStateM.bind, get, getThe, MonadStateOf.get, EStateM.get]
  split
  · rfl
  · simp only [modifyStack, modify, modifyGet, MonadStateOf.modifyGet, EStateM.modifyGet,
      EStateM.bind, EStateM.get, attempt]
    cases enter fuel f args { m with stack := m.stack.push (Frame.forFunction (m.signature f)) } with
    | ok vs m' => simp [finishCall, rethrow, pure, EStateM.pure]
    | error h m' =>
      cases h with
      | error e =>
        simp only [finishCall]
        split <;> simp [rethrow, fail, throw, throwThe, MonadExceptOf.throw, EStateM.throw]
      | malformed message => simp [finishCall]
      | exhausted => simp [finishCall]

theorem callFunction_succ (fuel : Nat) (callee : Value) (args : List Value) (m : Machine) :
    callFunction (fuel + 1) callee args m =
      match invoke fuel callee args m with
      | .error (.error (.tailCall target rest)) m' => callFunction fuel target rest m'
      | r => r := by
  simp only [callFunction, bind, EStateM.bind, attempt]
  cases invoke fuel callee args m with
  | ok vs m' => simp [rethrow, pure, EStateM.pure]
  | error h m' =>
    cases h with
    | error e =>
      cases e <;> simp [rethrow, fail, throw, throwThe, MonadExceptOf.throw, EStateM.throw]
    | malformed message => simp
    | exhausted => simp

/-- How a wrapped run ends: the innermost sink is removed and, on success, what it received is
given with the results. -/
def finishCollect :
    EStateM.Result Halt Machine (List Value) →
      EStateM.Result Halt Machine (List Value × Array Yielded)
  | .ok vs m => .ok (vs, m.yields.remove.1) { m with yields := m.yields.remove.2 }
  | .error (.error e) m => .error (.error e) { m with yields := m.yields.remove.2 }
  | .error h m => .error h m

theorem ending_finishCollect {r : EStateM.Result Halt Machine (List Value)} {m' : Machine}
    (ended : ending (finishCollect r) = some m') :
    ∃ m₁, ending r = some m₁ ∧ m' = { m₁ with yields := m₁.yields.remove.2 } := by
  cases r with
  | ok vs m₁ =>
    cases ended
    exact ⟨m₁, rfl, rfl⟩
  | error h m₁ =>
    cases h with
    | error e =>
      cases ended
      exact ⟨m₁, rfl, rfl⟩
    | malformed message => cases ended
    | exhausted => cases ended

theorem collect_succ (fuel : Nat) (target : Value) (args : List Value) (m : Machine) :
    collect (fuel + 1) target args m =
      finishCollect (callFunction (fuel + 1) target args { m with yields := m.yields.install }) := by
  rw [callFunction_succ]
  simp only [collect, bind, EStateM.bind, attempt, modify, modifyGet, MonadStateOf.modifyGet,
    EStateM.modifyGet]
  cases invoke fuel target args { m with yields := m.yields.install } with
  | ok vs m' => simp [finishCollect, rethrow, pure, EStateM.pure]
  | error h m' =>
    cases h with
    | error e =>
      cases e
      case tailCall next rest =>
        simp only
        cases callFunction fuel next rest m' with
        | ok vs m'' => simp [finishCollect, rethrow, pure, EStateM.pure]
        | error h m'' =>
          cases h <;> simp [finishCollect, rethrow, fail, throw, throwThe, MonadExceptOf.throw,
            EStateM.throw]
      all_goals simp [finishCollect, rethrow, fail, throw, throwThe, MonadExceptOf.throw,
        EStateM.throw]
    | malformed message => simp [finishCollect]
    | exhausted => simp [finishCollect]

theorem collect_not_func (fuel : Nat) {target : Value} (args : List Value) (m : Machine)
    (notFunction : ∀ f, target ≠ .func f) (r : List Value × Array Yielded) (m' : Machine) :
    collect fuel target args m ≠ .ok r m' := by
  cases fuel with
  | zero => nofun
  | succ fuel =>
    rw [collect_succ, callFunction_succ]
    cases fuel with
    | zero => nofun
    | succ fuel =>
      rw [invoke_not_func _ _ _ _ notFunction]
      nofun

theorem wrapState_of_found {m : Machine} {w : Nat} {st : WrapState}
    (found : m.wrappers[w]? = some st) : m.wrappers.getD w { target := .nil } = st := by
  rw [Array.getD_eq_getD_getElem?, found]
  rfl

theorem wrapState_of_missing {m : Machine} {w : Nat} (missing : m.wrappers[w]? = none) :
    m.wrappers.getD w { target := .nil } = { target := .nil } := by
  rw [Array.getD_eq_getD_getElem?, missing]
  rfl

/-- A call of a wrapped closure, by the closure's state: a closure that has not started marks
itself started and runs its target; if that run yielded, it keeps the yields and then the
results as records and gives the first. A started closure gives the record under its cursor
and moves the cursor, or, with no record left, runs its target afresh and gives its results. -/
theorem resume_succ (fuel w : Nat) (args : List Value) (m : Machine) :
    resume (fuel + 1) w args m =
      let st := m.wrappers.getD w { target := .nil }
      if st.started then
        match st.recorded[st.cursor]? with
        | some record =>
          .ok record.values
            { m with wrappers := m.wrappers.modify w fun s => { s with cursor := st.cursor + 1 } }
        | none =>
          match collect fuel st.target args m with
          | .ok (result, _) m' => .ok result m'
          | .error h m' => .error h m'
      else
        match collect fuel st.target args
            { m with wrappers := m.wrappers.modify w fun s => { s with started := true } } with
        | .ok (result, captured) m' =>
          match captured.toList with
          | [] => .ok result m'
          | first :: _ =>
            .ok first.values { m' with wrappers := m'.wrappers.modify w fun s =>
              { s with recorded := captured.push (.many result), cursor := 1 } }
        | .error h m' => .error h m' := by
  simp only [resume, wrapState, bind, EStateM.bind, get, getThe, MonadStateOf.get, EStateM.get,
    pure, EStateM.pure]
  split
  · rename_i unstarted
    simp only [Bool.not_eq_true'] at unstarted
    simp only [unstarted, Bool.false_eq_true, ↓reduceIte, modifyWrap, modify, modifyGet,
      MonadStateOf.modifyGet, EStateM.modifyGet, EStateM.bind]
    cases collect fuel (m.wrappers.getD w { target := .nil }).target args
        { m with wrappers := m.wrappers.modify w fun s => { s with started := true } } with
    | ok r m' =>
      obtain ⟨result, captured⟩ := r
      simp only
      cases captured.toList <;> rfl
    | error h m' => rfl
  · rename_i started
    simp only [Bool.not_eq_true', Bool.not_eq_false] at started
    simp only [started, ↓reduceIte]
    cases (m.wrappers.getD w { target := .nil }).recorded[(m.wrappers.getD w
        { target := .nil }).cursor]? with
    | some record => rfl
    | none =>
      simp only [EStateM.bind]
      cases collect fuel (m.wrappers.getD w { target := .nil }).target args m with
      | ok r m' => rfl
      | error h m' => rfl

end LuaIntrospect.Exec
