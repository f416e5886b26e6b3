import LuaIntrospect.Proofs.RunInvariant

/-! A closure made by `coroutine.wrap` as a machine of three phases. Main statement:
`wrapped_closure_follows_phases`. -/
namespace LuaIntrospect

namespace WrapState

/-- What the next calls of a wrapped closure do. -/
inductive Phase where
  /-- Not called yet: the next call runs the target and records what it yields. -/
  | fresh
  /-- The next calls give these lists of values, one per call, in order. -/
  | replaying (values : List (List Value))
  /-- Every call runs the target afresh. -/
  | rerunning

/-- The phase of a started closure with these values left to replay. -/
def Phase.ofPending : List (List Value) → Phase
  | [] => .rerunning
  | values => .replaying values

/-- The phase of a closure, read off its state. -/
def phase (st : WrapState) : Phase :=
  if st.started then Phase.ofPending (st.pending.map Yielded.values) else .fresh

-- a first run yielded nothing and then one value; the first call gave `nil`, the second gives `1`
example : phase ⟨.nil, true, #[.none, .single (.int 1)], 1⟩ = .replaying [[.int 1]] := rfl

@[simp] theorem Phase.ofPending_ne_fresh (values : List (List Value)) :
    Phase.ofPending values ≠ .fresh := by
  cases values <;> simp [Phase.ofPending]

@[simp] theorem Phase.ofPending_eq_rerunning (values : List (List Value)) :
    Phase.ofPending values = .rerunning ↔ values = [] := by
  cases values <;> simp [Phase.ofPending]

@[simp] theorem Phase.ofPending_eq_replaying (values vs : List (List Value)) :
    Phase.ofPending values = .replaying vs ↔ values ≠ [] ∧ values = vs := by
  cases values <;> simp [Phase.ofPending]

@[simp] theorem Phase.ofPending_cons (v : List Value) (vs : List (List Value)) :
    Phase.ofPending (v :: vs) = .replaying (v :: vs) := rfl

theorem phase_eq_fresh {st : WrapState} : st.phase = .fresh ↔ st.started = false := by
  unfold phase
  cases st.started <;> simp

theorem pending_eq_nil {st : WrapState} : st.pending = [] ↔ st.recorded.size ≤ st.cursor := by
  simp [pending]

theorem phase_eq_rerunning {st : WrapState} :
    st.phase = .rerunning ↔ st.started = true ∧ st.recorded.size ≤ st.cursor := by
  unfold phase
  cases st.started <;> simp [pending_eq_nil]

theorem pending_eq_cons {st : WrapState} {y : Yielded} (next : st.recorded[st.cursor]? = some y) :
    st.pending = y :: { st with cursor := st.cursor + 1 }.pending := by
  obtain ⟨inside, atCursor⟩ := Array.getElem?_eq_some_iff.mp next
  have listed : st.cursor < st.recorded.toList.length := by simpa using inside
  simp only [pending]
  rw [List.drop_eq_getElem_cons listed]
  simp [atCursor]

theorem phase_eq_replaying {st : WrapState} {v : List Value} {vs : List (List Value)}
    (replaying : st.phase = .replaying (v :: vs)) :
    st.started = true ∧ ∃ y, st.recorded[st.cursor]? = some y ∧ y.values = v ∧
      { st with cursor := st.cursor + 1 }.pending.map Yielded.values = vs := by
  unfold phase at replaying
  cases started : st.started
  · simp [started] at replaying
  · simp only [started, ↓reduceIte] at replaying
    refine ⟨rfl, ?_⟩
    cases next : st.recorded[st.cursor]? with
    | none =>
      have spent : st.pending = [] := pending_eq_nil.mpr (by simpa using next)
      simp [spent, Phase.ofPending] at replaying
    | some y =>
      rw [pending_eq_cons next] at replaying
      simp only [List.map_cons, Phase.ofPending_cons, Phase.replaying.injEq,
        List.cons.injEq] at replaying
      exact ⟨y, rfl, replaying⟩

theorem Advances.of_rerunning {st st' : WrapState} (rerunning : st.phase = .rerunning)
    (advanced : st.Advances st') : st' = st := by
  obtain ⟨started, spent⟩ := phase_eq_rerunning.mp rerunning
  exact advanced.spent started spent

theorem Advances.pending_drop {st st' : WrapState} (started : st.started = true)
    (advanced : st.Advances st') : ∃ k, st'.pending = st.pending.drop k := by
  obtain ⟨_, recorded, forward⟩ := advanced.started started
  refine ⟨st'.cursor - st.cursor, ?_⟩
  simp only [pending, recorded, List.drop_drop]
  congr 1
  omega

end WrapState

mutual

/-- The statement calls nothing: it is no call and no tail call, and neither branch of a test
holds one. -/
def Stmt.callFree : Stmt → Bool
  | .call .. | .tailCall .. => false
  | .cond _ yes no => Stmt.allCallFree yes && Stmt.allCallFree no
  | _ => true

/-- Every statement of the block calls nothing. -/
def Stmt.allCallFree : List Stmt → Bool
  | [] => true
  | stmt :: rest => stmt.callFree && Stmt.allCallFree rest

end

theorem Stmt.allCallFree_iff (stmts : List Stmt) :
    Stmt.allCallFree stmts = true ↔ ∀ stmt ∈ stmts, stmt.callFree = true := by
  induction stmts with
  | nil => simp [Stmt.allCallFree]
  | cons stmt rest ih => simp [Stmt.allCallFree, ih]

namespace Machine

/-- The phase of closure `w`, if it exists. -/
def phaseOf (m : Machine) (w : Nat) : Option WrapState.Phase :=
  m.wrappers[w]?.map WrapState.phase

/-- Every closure of the machine is in a state a closure can reach. -/
def WrappersValid (m : Machine) : Prop :=
  ∀ (w : Nat) (st : WrapState), m.wrappers[w]? = some st → st.Valid

/-- The machine with closure `w` marked started, as a first call leaves it to run the target. -/
def withStarted (m : Machine) (w : Nat) : Machine :=
  { m with wrappers := m.wrappers.modify w fun s => { s with started := true } }

/-- The machine with the cursor of closure `w` at `n`, as a replay leaves it. -/
def withCursor (m : Machine) (w n : Nat) : Machine :=
  { m with wrappers := m.wrappers.modify w fun s => { s with cursor := n } }

/-- The machine with closure `w` holding the records of its first run, the first of which that
run's call gives. -/
def withRecording (m : Machine) (w : Nat) (records : Array Yielded) : Machine :=
  { m with wrappers := m.wrappers.modify w fun s => { s with recorded := records, cursor := 1 } }

/-- Every closure of `m` is in `m'` in the same state; `m'` may hold new ones after them. -/
def KeepsClosures (m m' : Machine) : Prop :=
  ∀ (w : Nat) (st : WrapState), m.wrappers[w]? = some st → m'.wrappers[w]? = some st

instance : Std.Refl KeepsClosures := ⟨fun _ _ _ found => found⟩

instance : Trans KeepsClosures KeepsClosures KeepsClosures where
  trans first second w st found := second w st (first w st found)

theorem KeepsClosures.of_wrappers {m m' : Machine} (same : m'.wrappers = m.wrappers) :
    KeepsClosures m m' := fun w st found => by rw [same]; exact found

theorem Quiet.keepsClosures {m m' : Machine} (quiet : Quiet m m') : KeepsClosures m m' :=
  KeepsClosures.of_wrappers quiet.wrappers

theorem withCursor_self {m : Machine} {w : Nat} {st : WrapState} (found : m.wrappers[w]? = some st) :
    m.withCursor w st.cursor = m := by
  have same : m.wrappers.modify w (fun s => { s with cursor := st.cursor }) = m.wrappers := by
    apply Array.ext_getElem?
    intro i
    rw [Array.getElem?_modify]
    split
    · next here => subst here; simp [found]
    · rfl
  simp only [withCursor, same]

theorem withCursor_withCursor (m : Machine) (w n k : Nat) :
    (m.withCursor w n).withCursor w k = m.withCursor w k := by
  simp only [withCursor, Machine.mk.injEq, and_true, true_and]
  apply Array.ext_getElem?
  intro i
  simp only [Array.getElem?_modify]
  split
  · rw [Option.map_map]
    rfl
  · rfl

theorem withCursor_found {m : Machine} {w : Nat} {st : WrapState} (found : m.wrappers[w]? = some st)
    (n : Nat) : (m.withCursor w n).wrappers[w]? = some { st with cursor := n } := by
  simp [withCursor, Array.getElem?_modify, found]

theorem phaseOf_modify {m : Machine} {w : Nat} {st : WrapState} (g : WrapState → WrapState)
    (found : m.wrappers[w]? = some st) :
    ({ m with wrappers := m.wrappers.modify w g } : Machine).phaseOf w = some (g st).phase := by
  simp [phaseOf, Array.getElem?_modify, found]

theorem WrappersValid.evolves {m m' : Machine} (valid : m.WrappersValid) (run : Evolves m m') :
    m'.WrappersValid := by
  intro w st' found'
  cases found : m.wrappers[w]? with
  | none => exact run.wrappers.new w st' found' found
  | some st =>
    obtain ⟨later, foundLater, advanced⟩ := run.wrappers.old w st found
    rw [found'] at foundLater
    cases foundLater
    exact advanced.valid (valid w st found)

theorem Evolves.phaseOf_rerunning {m m' : Machine} {w : Nat} (run : Evolves m m')
    (rerunning : m.phaseOf w = some .rerunning) : m'.phaseOf w = some .rerunning := by
  unfold phaseOf at rerunning ⊢
  obtain ⟨st, found, phase⟩ := Option.map_eq_some_iff.mp rerunning
  obtain ⟨st', found', advanced⟩ := run.wrappers.old w st found
  rw [found', advanced.of_rerunning phase]
  simp [phase]

theorem Evolves.phaseOf_replaying {m m' : Machine} {w : Nat} {values : List (List Value)}
    (run : Evolves m m') (replaying : m.phaseOf w = some (.replaying values)) :
    ∃ k, m'.phaseOf w = some (WrapState.Phase.ofPending (values.drop k)) := by
  unfold phaseOf at replaying ⊢
  obtain ⟨st, found, phase⟩ := Option.map_eq_some_iff.mp replaying
  obtain ⟨st', found', advanced⟩ := run.wrappers.old w st found
  have started : st.started = true := by
    cases unstarted : st.started
    · simp [WrapState.phase, unstarted] at phase
    · rfl
  obtain ⟨k, dropped⟩ := advanced.pending_drop started
  have values_eq : st.pending.map Yielded.values = values := by
    simp only [WrapState.phase, started, ↓reduceIte, WrapState.Phase.ofPending_eq_replaying] at phase
    exact phase.2
  refine ⟨k, ?_⟩
  rw [found']
  simp [WrapState.phase, (advanced.started started).1, dropped, ← values_eq, List.map_drop]

end Machine

namespace Exec

open Machine WrapState

variable {fuel w : Nat} {args : List Value} {m : Machine} {st : WrapState}

theorem modify_keepsClosures {g : Machine → Machine} (same : ∀ m, (g m).wrappers = m.wrappers) :
    Keeps KeepsClosures (modify g : Exec PUnit) :=
  Keeps.modify fun m => KeepsClosures.of_wrappers (same m)

theorem Keeps.keepsClosures {α : Type} {x : Exec α} (quiet : Keeps Quiet x) :
    Keeps KeepsClosures x :=
  quiet.mono fun _ _ => Quiet.keepsClosures

theorem callBuiltin_keepsClosures (b : Builtin) (args : List Value) :
    Keeps KeepsClosures (callBuiltin b args) := by
  by_cases isYield : b = .yield
  · subst isYield
    exact Keeps.get.bind fun _ => (check_quiet _).keepsClosures.bind fun _ =>
      (modify_keepsClosures fun _ => by rfl).bind fun _ => Keeps.pure _
  by_cases isWrap : b = .wrap
  · subst isWrap
    refine (check_quiet _).keepsClosures.bind fun _ =>
      (Keeps.modifyGet fun m w st found => ?_).bind fun _ => Keeps.pure _
    have inside : w < m.wrappers.size := (Array.getElem?_eq_some_iff.mp found).1
    simp [Array.getElem?_push, Nat.ne_of_lt inside, found]
  exact (callBuiltin_quiet b args isYield isWrap).keepsClosures

theorem callFree_keepsClosures (fuel : Nat) :
    (∀ args stmt, stmt.callFree = true → Keeps KeepsClosures (execStmt fuel args stmt)) ∧
      (∀ args stmts, Stmt.allCallFree stmts = true →
        Keeps KeepsClosures (execBlock fuel args stmts)) := by
  induction fuel with
  | zero => exact ⟨fun _ _ _ => Keeps.throw _, fun _ _ _ => Keeps.throw _⟩
  | succ fuel ih =>
    constructor
    · intro args stmt free
      cases stmt with
      | call => simp [Stmt.callFree] at free
      | tailCall => simp [Stmt.callFree] at free
      | direct entry argList h =>
        simp only [execStmt]
        split
        · exact Keeps.malformed _
        · exact (evalArgs_quiet args argList).keepsClosures.bind fun vs =>
            (Keeps.attempt (callBuiltin_keepsClosures _ vs)).bind fun r =>
              (recordCall_quiet r h _).keepsClosures.bind fun _ => Keeps.pure _
      | ret values =>
        simp only [execStmt]
        split
        · exact Keeps.malformed_bind _
        · exact (evalArgs_quiet args values).keepsClosures.bind fun _ => Keeps.pure _
      | raise message =>
        simp only [execStmt]
        split
        · exact Keeps.malformed_bind _
        · exact Keeps.fail _
      | line n =>
        exact (modify_keepsClosures fun _ => by rfl).bind fun _ => Keeps.pure _
      | position offset source =>
        exact (modify_keepsClosures fun _ => by rfl).bind fun _ => Keeps.pure _
      | declareLocal name e =>
        exact (eval_quiet args e).keepsClosures.bind fun _ =>
          (modify_keepsClosures fun _ => by rfl).bind fun _ => Keeps.pure _
      | assign name e =>
        exact (eval_quiet args e).keepsClosures.bind fun _ =>
          (setVariable_quiet name _).keepsClosures.bind fun _ => Keeps.pure _
      | increment name =>
        exact (readVariable_quiet name).keepsClosures.bind fun _ =>
          (setVariable_quiet name _).keepsClosures.bind fun _ => Keeps.pure _
      | setField t k v =>
        refine (eval_quiet args t).keepsClosures.bind fun tv =>
          (eval_quiet args k).keepsClosures.bind fun kv =>
            (eval_quiet args v).keepsClosures.bind fun vv => ?_
        cases tv
        case table r =>
          exact (keyOf_quiet kv).keepsClosures.bind fun _ =>
            (modify_keepsClosures fun _ => by rfl).bind fun _ =>
              Keeps.pure _
        all_goals exact Keeps.malformed _
      | setGlobal name e =>
        exact (eval_quiet args e).keepsClosures.bind fun _ =>
          (modify_keepsClosures fun _ => by rfl).bind fun _ =>
            Keeps.pure _
      | setUpvalue f index e =>
        exact (eval_quiet args f).keepsClosures.bind fun _ =>
          (eval_quiet args e).keepsClosures.bind fun _ =>
            (writeUpvalue_quiet _ index _).keepsClosures.bind fun _ => Keeps.pure _
      | cond test yes no =>
        -- the branch taken is a block that calls nothing
        have branches : Stmt.allCallFree yes = true ∧ Stmt.allCallFree no = true := by
          simpa [Stmt.callFree] using free
        exact (eval_quiet args test).keepsClosures.bind fun v =>
          ih.2 args _ (by cases v.truthy <;> simp [branches])
      | log e =>
        exact (eval_quiet args e).keepsClosures.bind fun _ => (deep_quiet _).keepsClosures.bind
          fun _ => (emit_quiet _ rfl).keepsClosures.bind fun _ => Keeps.pure _
      | pushFrame spec =>
        exact (buildFrame_quiet args spec).keepsClosures.bind fun _ =>
          (modify_keepsClosures fun _ => by rfl).bind fun _ => Keeps.get.bind
            fun _ => (modify_keepsClosures fun _ => by rfl).bind fun _ =>
              Keeps.pure _
      | popFrame =>
        exact (modify_keepsClosures fun _ => by rfl).bind fun _ => Keeps.get.bind
          fun _ => (modify_keepsClosures fun _ => by rfl).bind fun _ =>
            Keeps.pure _
      | stack =>
        exact stackReport_quiet.keepsClosures.bind fun _ =>
          (emit_quiet _ rfl).keepsClosures.bind fun _ => Keeps.pure _
      | invalid message => exact Keeps.malformed _
    · intro args stmts free
      have each := (Stmt.allCallFree_iff stmts).mp free
      unfold execBlock
      refine (Keeps.forIn_mem fun stmt member _ =>
        (ih.1 args stmt (each stmt member)).bind fun flow => ?_).bind fun r => ?_
      · cases flow <;> exact Keeps.pure _
      · obtain ⟨returned, _⟩ := r
        cases returned <;> exact Keeps.pure _

theorem invoke_callFree_keepsClosures (fuel : Nat) (callee : Value) (args : List Value)
    (notClosure : ∀ w', callee ≠ .func (.wrapper w')) :
    Keeps (fun m m' => (∀ i, callee = .func (.script i) →
      Stmt.allCallFree ((m.scripts[i]?.map Script.body).getD []) = true) → KeepsClosures m m')
      (invoke fuel callee args) := by
  intro m m' ended quietBody
  cases fuel with
  | zero => cases ended
  | succ fuel =>
    by_cases function : ∃ f, callee = .func f
    · obtain ⟨f, rfl⟩ := function
      rw [invoke_func] at ended
      split at ended
      · cases ended
        exact fun _ _ found => found
      · -- the callee ran above its pushed frame; the call cuts the stack back
        obtain ⟨m₁, ran, rfl⟩ := ending_finishCall ended
        have body : KeepsClosures { m with stack := m.stack.push (Frame.forFunction (m.signature f)) }
            m₁ := by
          cases fuel with
          | zero => cases ran
          | succ fuel =>
            cases f with
            | script i =>
              exact (Keeps.get.bind fun _ =>
                ((callFree_keepsClosures fuel).2 _ _ (quietBody i rfl)).bind fun flow => by
                  cases flow <;> exact Keeps.pure _) _ _ ran
            | builtin b => exact callBuiltin_keepsClosures b args _ _ ran
            | wrapper w' => exact absurd rfl (notClosure w')
        exact fun w st found => body w st found
    · rw [invoke_not_func _ _ _ _ fun f same => function ⟨f, same⟩] at ended
      cases ended
      exact fun _ _ found => found

theorem resume_replaying (found : m.wrappers[w]? = some st) {v : List Value}
    {vs : List (List Value)} (replaying : st.phase = .replaying (v :: vs)) :
    resume (fuel + 1) w args m = .ok v (m.withCursor w (st.cursor + 1)) ∧
      (m.withCursor w (st.cursor + 1)).phaseOf w = some (Phase.ofPending vs) := by
  obtain ⟨started, y, next, values, rest⟩ := phase_eq_replaying replaying
  constructor
  · rw [resume_succ]
    simp only [wrapState_of_found found, started, ↓reduceIte, next, values]
    rfl
  · rw [withCursor, phaseOf_modify _ found]
    simp only [WrapState.phase, started, ↓reduceIte, pending] at rest ⊢
    rw [rest]

/-- Calls of closure `w`, one per list of arguments and each with `fuel`, one after another. -/
def resumeEach (fuel w : Nat) (argss : List (List Value)) : Exec (List (List Value)) :=
  argss.mapM fun args => resume fuel w args

theorem resumeEach_replays (argss : List (List Value)) :
    ∀ {m : Machine} {st : WrapState}, m.wrappers[w]? = some st → st.started = true →
      argss.length ≤ st.pending.length →
      resumeEach (fuel + 1) w argss m =
        .ok ((st.pending.map Yielded.values).take argss.length)
          (m.withCursor w (st.cursor + argss.length)) := by
  induction argss with
  | nil =>
    intro m st found _ _
    have same := withCursor_self found
    simp only [List.length_nil, Nat.add_zero, same, List.take_zero]
    rfl
  | cons args rest ih =>
    intro m st found started room
    obtain ⟨y, next⟩ : ∃ y, st.recorded[st.cursor]? = some y := by
      cases next : st.recorded[st.cursor]? with
      | none =>
        have spent : st.pending = [] := pending_eq_nil.mpr (by simpa using next)
        simp [spent] at room
      | some y => exact ⟨y, rfl⟩
    have left := pending_eq_cons next
    have replaying : st.phase = .replaying (y.values ::
        ({ st with cursor := st.cursor + 1 } : WrapState).pending.map Yielded.values) := by
      simp [WrapState.phase, started, left]
    have call : resume (fuel + 1) w args m = .ok y.values (m.withCursor w (st.cursor + 1)) :=
      (resume_replaying found replaying).1
    have later := ih (withCursor_found found (st.cursor + 1)) started
      (by simp only [left, List.length_cons] at room; omega)
    have unfolded : resumeEach (fuel + 1) w (args :: rest) m =
        (do
          let v ← resume (fuel + 1) w args
          let vs ← resumeEach (fuel + 1) w rest
          pure (v :: vs)) m := by
      simp only [resumeEach, List.mapM_cons]
    rw [unfolded]
    simp only [bind, EStateM.bind, call, later, pure, EStateM.pure, withCursor_withCursor, left,
      List.map_cons, List.length_cons, List.take_succ_cons]
    congr 2
    omega

/-- A rerunning closure runs its target afresh with the call's arguments and gives its results,
dropping what it yielded. -/
theorem resume_rerunning (found : m.wrappers[w]? = some st) (rerunning : st.phase = .rerunning) :
    resume (fuel + 1) w args m =
      match collect fuel st.target args m with
      | .ok (result, _) m' => .ok result m'
      | .error h m' => .error h m' := by
  obtain ⟨started, spent⟩ := phase_eq_rerunning.mp rerunning
  have nothingLeft : st.recorded[st.cursor]? = none := by simpa using spent
  have call := resume_succ fuel w args m
  simp only [wrapState_of_found found, started, ↓reduceIte, nothingLeft] at call
  exact call

theorem withStarted_rerunning (found : m.wrappers[w]? = some st) (valid : st.Valid)
    (fresh : st.phase = .fresh) : (m.withStarted w).phaseOf w = some .rerunning := by
  obtain ⟨recorded, cursor⟩ := valid (phase_eq_fresh.mp fresh)
  rw [withStarted, phaseOf_modify _ found]
  simp [WrapState.phase, pending, recorded, cursor]

/-- A first call marks the closure started and runs its target there; when the run yielded,
the closure keeps the records and the results, and the call gives the first record. -/
theorem resume_fresh (found : m.wrappers[w]? = some st) (fresh : st.phase = .fresh) :
    resume (fuel + 1) w args m =
      match collect fuel st.target args (m.withStarted w) with
      | .ok (result, captured) m' =>
        match captured.toList with
        | [] => .ok result m'
        | first :: _ => .ok first.values (m'.withRecording w (captured.push (.many result)))
      | .error h m' => .error h m' := by
  have call := resume_succ fuel w args m
  simp only [wrapState_of_found found, phase_eq_fresh.mp fresh, Bool.false_eq_true,
    ↓reduceIte] at call
  exact call

theorem resume_fresh_error (found : m.wrappers[w]? = some st) (valid : st.Valid)
    (fresh : st.phase = .fresh) {e : LuaError} {m' : Machine}
    (failed : collect fuel st.target args (m.withStarted w) = .error (.error e) m') :
    resume (fuel + 1) w args m = .error (.error e) m' ∧ m'.phaseOf w = some .rerunning := by
  have run := (evolvesAt fuel).collect st.target args (m.withStarted w) m' (by simp [failed])
  refine ⟨?_, run.phaseOf_rerunning (withStarted_rerunning found valid fresh)⟩
  rw [resume_fresh found fresh, failed]

theorem resume_fresh_quiet (found : m.wrappers[w]? = some st) (valid : st.Valid)
    (fresh : st.phase = .fresh) {result : List Value} {captured : Array Yielded} {m' : Machine}
    (ran : collect fuel st.target args (m.withStarted w) = .ok (result, captured) m')
    (none : captured.toList = []) :
    resume (fuel + 1) w args m = .ok result m' ∧ m'.phaseOf w = some .rerunning := by
  have run := (evolvesAt fuel).collect st.target args (m.withStarted w) m' (by simp [ran])
  refine ⟨?_, run.phaseOf_rerunning (withStarted_rerunning found valid fresh)⟩
  rw [resume_fresh found fresh, ran]
  simp only [none]

theorem resume_fresh_yielded (found : m.wrappers[w]? = some st) (valid : st.Valid)
    (fresh : st.phase = .fresh) {result : List Value} {captured : Array Yielded} {m' : Machine}
    {y : Yielded} {ys : List Yielded}
    (ran : collect fuel st.target args (m.withStarted w) = .ok (result, captured) m')
    (yielded : captured.toList = y :: ys) :
    resume (fuel + 1) w args m =
        .ok y.values (m'.withRecording w (captured.push (.many result))) ∧
      (m'.withRecording w (captured.push (.many result))).phaseOf w =
        some (.replaying (ys.map Yielded.values ++ [result])) := by
  have run := (evolvesAt fuel).collect st.target args (m.withStarted w) m' (by simp [ran])
  constructor
  · rw [resume_fresh found fresh, ran]
    simp only [yielded]
  · -- after the run the closure is still started with no records; the recording comes on top
    have rerunning := run.phaseOf_rerunning (withStarted_rerunning found valid fresh)
    obtain ⟨after, foundAfter, phase⟩ := Option.map_eq_some_iff.mp rerunning
    have started := (phase_eq_rerunning.mp phase).1
    rw [withRecording, phaseOf_modify _ foundAfter]
    cases ys <;> simp [WrapState.phase, started, pending, yielded, Yielded.values]

theorem execStmt_keeps_phases {fuel' : Nat} {args' : Option (List Value)} {stmt : Stmt}
    {m₁ m₂ : Machine} (ran : ending (execStmt fuel' args' stmt m₁) = some m₂) :
    (m₁.WrappersValid → m₂.WrappersValid) ∧
      (m₁.phaseOf w = some .rerunning → m₂.phaseOf w = some .rerunning) ∧
      (∀ vs, m₁.phaseOf w = some (.replaying vs) →
        ∃ k, m₂.phaseOf w = some (Phase.ofPending (vs.drop k))) := by
  have run := (evolvesAt fuel').execStmt args' stmt m₁ m₂ ran
  exact ⟨fun valid => valid.evolves run, run.phaseOf_rerunning,
    fun _ replaying => run.phaseOf_replaying replaying⟩

/-- A wrapped closure behaves as the machine of its phases. The first call marks it started, so
that calls made while the target runs rerun it, and runs the target once: a failure is passed
on, a run that yielded nothing gives its results, and a run that yielded gives the first yield's
values and leaves the other yields and then the results to replay. A replaying call gives the
next record without running anything and whatever its arguments, and calls one after another
give the records in order. A rerunning call runs the target afresh and drops its yields. Only
calls move a closure: a statement that calls nothing, and a call of anything but a closure whose
body calls nothing, leave it as it was, and any statement keeps every closure in a reachable
state and moves a replay only forward. -/
theorem wrapped_closure_follows_phases (fuel w : Nat) (args : List Value) (m : Machine)
    (st : WrapState) (found : m.wrappers[w]? = some st) (valid : st.Valid) :
    (st.phase = .fresh →
      (m.withStarted w).phaseOf w = some .rerunning ∧
      (∀ e m', collect fuel st.target args (m.withStarted w) = .error (.error e) m' →
        resume (fuel + 1) w args m = .error (.error e) m' ∧ m'.phaseOf w = some .rerunning) ∧
      (∀ result captured m',
        collect fuel st.target args (m.withStarted w) = .ok (result, captured) m' →
        captured.toList = [] →
        resume (fuel + 1) w args m = .ok result m' ∧ m'.phaseOf w = some .rerunning) ∧
      (∀ result captured m' y ys,
        collect fuel st.target args (m.withStarted w) = .ok (result, captured) m' →
        captured.toList = y :: ys →
        resume (fuel + 1) w args m =
          .ok y.values (m'.withRecording w (captured.push (.many result))) ∧
        (m'.withRecording w (captured.push (.many result))).phaseOf w =
          some (.replaying (ys.map Yielded.values ++ [result])))) ∧
    (∀ v vs, st.phase = .replaying (v :: vs) →
      resume (fuel + 1) w args m = .ok v (m.withCursor w (st.cursor + 1)) ∧
      (m.withCursor w (st.cursor + 1)).phaseOf w = some (Phase.ofPending vs)) ∧
    (∀ argss : List (List Value), st.started = true → argss.length ≤ st.pending.length →
      resumeEach (fuel + 1) w argss m =
        .ok ((st.pending.map Yielded.values).take argss.length)
          (m.withCursor w (st.cursor + argss.length))) ∧
    (st.phase = .rerunning →
      resume (fuel + 1) w args m =
        match collect fuel st.target args m with
        | .ok (result, _) m' => .ok result m'
        | .error h m' => .error h m') ∧
    (∀ fuel' args' stmt m₁ m₂, ending (execStmt fuel' args' stmt m₁) = some m₂ →
      (stmt.callFree = true → ∀ st', m₁.wrappers[w]? = some st' → m₂.wrappers[w]? = some st') ∧
      (m₁.WrappersValid → m₂.WrappersValid) ∧
      (m₁.phaseOf w = some .rerunning → m₂.phaseOf w = some .rerunning) ∧
      (∀ vs, m₁.phaseOf w = some (.replaying vs) →
        ∃ k, m₂.phaseOf w = some (Phase.ofPending (vs.drop k)))) ∧
    (∀ fuel' callee args' m₁ m₂, ending (invoke fuel' callee args' m₁) = some m₂ →
      (∀ w', callee ≠ .func (.wrapper w')) →
      (∀ i, callee = .func (.script i) →
        Stmt.allCallFree ((m₁.scripts[i]?.map Script.body).getD []) = true) →
      ∀ st', m₁.wrappers[w]? = some st' → m₂.wrappers[w]? = some st') := by
  refine ⟨fun fresh => ⟨withStarted_rerunning found valid fresh, ?_, ?_, ?_⟩,
    fun _ _ replaying => resume_replaying found replaying,
    fun argss started room => resumeEach_replays argss found started room,
    fun rerunning => resume_rerunning found rerunning,
    fun fuel' _ _ _ _ ran => ⟨fun free => (callFree_keepsClosures fuel').1 _ _ free _ _ ran w,
      execStmt_keeps_phases ran⟩,
    fun fuel' callee _ _ _ ran notClosure quietBody =>
      invoke_callFree_keepsClosures fuel' callee _ notClosure _ _ ran quietBody w⟩
  · exact fun _ _ failed => resume_fresh_error found valid fresh failed
  · exact fun _ _ _ ran none => resume_fresh_quiet found valid fresh ran none
  · exact fun _ _ _ _ _ ran yielded => resume_fresh_yielded found valid fresh ran yielded

/-- One closure, over `coroutine.yield`. -/
def yieldingClosure : Machine := { wrappers := #[{ target := .func (.builtin .yield) }] }

/-- The closure over `coroutine.yield`: its first call, with `1`, runs the target once, which
yields `1` and returns nothing; the call gives `1` and the closure keeps the empty results to
replay. The second call, with `5`, gives them without running anything, and the closure reruns
from then on. -/
theorem yieldingClosure_records_then_replays :
    ∃ m₁ m₂, resume 10 0 [.int 1] yieldingClosure = .ok [.int 1] m₁ ∧
      m₁.phaseOf 0 = some (.replaying [[]]) ∧
      resume 10 0 [.int 5] m₁ = .ok [] m₂ ∧ m₂.phaseOf 0 = some .rerunning := by
  have found : yieldingClosure.wrappers[0]? = some { target := .func (.builtin .yield) } := rfl
  have first := wrapped_closure_follows_phases 9 0 [.int 1] yieldingClosure _ found
    fun _ => ⟨rfl, rfl⟩
  obtain ⟨m', ran⟩ : ∃ m', collect 9 (.func (.builtin .yield)) [.int 1]
      (yieldingClosure.withStarted 0) = .ok ([], #[.single (.int 1)]) m' := ⟨_, rfl⟩
  obtain ⟨called, replaying⟩ := (first.1 rfl).2.2.2 [] _ m' (.single (.int 1)) [] ran rfl
  obtain ⟨st₁, found₁, phase₁⟩ := Option.map_eq_some_iff.mp replaying
  have second := wrapped_closure_follows_phases 9 0 [.int 5] _ st₁ found₁
    (valid_of_started (phase_eq_replaying phase₁).1)
  obtain ⟨replayed, rerunning⟩ := second.2.1 [] [] phase₁
  exact ⟨_, _, called, replaying, replayed, rerunning⟩

end Exec

end LuaIntrospect
