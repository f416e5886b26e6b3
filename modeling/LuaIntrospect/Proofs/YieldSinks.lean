import LuaIntrospect.Proofs.RunInvariant
import LuaIntrospect.Machine.Session

/-! Yield sinks nest with the wrapped runs. Main statement: `yield_sinks_nest`. -/
namespace LuaIntrospect

namespace YieldCollector

theorem Extends.of_install {c c' : YieldCollector} (grown : c.install.Extends c') :
    c'.sinks = c'.remove.1 :: c.sinks := by
  obtain ⟨added, sinks⟩ := grown
  simp [YieldCollector.install] at sinks
  simp [YieldCollector.remove, sinks]

end YieldCollector

namespace Exec

open Machine

variable {fuel : Nat} {target : Value} {args : List Value} {m m' : Machine}

theorem collect_ok_sinks {vs : List Value} {captured : Array Yielded}
    (ran : collect (fuel + 1) target args m = .ok (vs, captured) m') :
    ∃ m₁, callFunction (fuel + 1) target args { m with yields := m.yields.install } = .ok vs m₁ ∧
      m₁.yields.sinks = captured :: m.yields.sinks ∧ m' = { m₁ with yields := m.yields } := by
  rw [collect_succ] at ran
  cases run : callFunction (fuel + 1) target args { m with yields := m.yields.install } with
  | ok vs₁ m₁ =>
    have body := (evolvesAt (fuel + 1)).callFunction target args
      { m with yields := m.yields.install } m₁ (by simp [run])
    obtain ⟨restored, _⟩ := Evolves.withSink body
    rw [run] at ran
    simp only [finishCollect, EStateM.Result.ok.injEq, Prod.mk.injEq] at ran
    obtain ⟨⟨rfl, rfl⟩, rfl⟩ := ran
    exact ⟨m₁, rfl, body.yields.of_install, by rw [restored]⟩
  | error h m₁ =>
    rw [run] at ran
    cases h <;> simp [finishCollect] at ran

theorem collect_error_sinks {e : LuaError}
    (failed : collect (fuel + 1) target args m = .error (.error e) m') :
    ∃ m₁, callFunction (fuel + 1) target args { m with yields := m.yields.install } =
        .error (.error e) m₁ ∧ m' = { m₁ with yields := m.yields } := by
  rw [collect_succ] at failed
  cases run : callFunction (fuel + 1) target args { m with yields := m.yields.install } with
  | ok vs₁ m₁ =>
    rw [run] at failed
    simp [finishCollect] at failed
  | error h m₁ =>
    rw [run] at failed
    cases h with
    | error e₁ =>
      have body := (evolvesAt (fuel + 1)).callFunction target args
        { m with yields := m.yields.install } m₁ (by simp [run])
      obtain ⟨restored, _⟩ := Evolves.withSink body
      simp only [finishCollect, EStateM.Result.error.injEq, Halt.error.injEq] at failed
      obtain ⟨rfl, rfl⟩ := failed
      exact ⟨m₁, rfl, by rw [restored]⟩
    | malformed message => simp [finishCollect] at failed
    | exhausted => simp [finishCollect] at failed

/-- A yield inside a wrapped run appends one record of its arguments to the innermost sink and
changes nothing else. -/
theorem yieldValues_of_sink {s : Array Yielded} {rest : List (Array Yielded)}
    (innermost : m.yields.sinks = s :: rest) :
    yieldValues args m = .ok [] { m with yields := ⟨s.push (Yielded.ofArgs args) :: rest⟩ } := by
  simp [yieldValues, YieldCollector.divert, innermost, bind, EStateM.bind, get, getThe,
    MonadStateOf.get, EStateM.get, check, pure, EStateM.pure, modify, modifyGet,
    MonadStateOf.modifyGet, EStateM.modifyGet]

theorem yieldValues_outside (outside : m.yields.sinks = []) :
    yieldValues args m =
      .error (.error (.raise "attempt to yield from outside a coroutine")) m := by
  simp [yieldValues, YieldCollector.divert, outside, bind, EStateM.bind, get, getThe,
    MonadStateOf.get, EStateM.get, check, fail, throw, throwThe, MonadExceptOf.throw,
    EStateM.throw]

theorem define_quiet (d : FunctionDef) : Keeps Quiet (define d) := by
  unfold define
  cases d with
  | native id name body =>
    simp only
    exact Keeps.bind (Keeps.modify fun _ => Quiet.of_eq rfl rfl rfl rfl rfl) fun _ => Keeps.pure _
  | guest id name chunk span isMain upvalues body =>
    simp only
    cases upvalues with
    | none =>
      exact Keeps.bind (Keeps.modify fun _ => Quiet.of_eq rfl rfl rfl rfl rfl) fun _ => Keeps.pure _
    | some list =>
      refine (Keeps.forIn fun upvalue _ => ?_).bind fun _ => ?_
      · exact (Keeps.modifyGet fun m => Quiet.allocCell m _).bind fun _ => Keeps.pure _
      · exact Keeps.bind (Keeps.modify fun _ => Quiet.of_eq rfl rfl rfl rfl rfl) fun _ => Keeps.pure _

theorem install_quiet (defs : List FunctionDef) : Keeps Quiet (install defs) := by
  unfold install
  simp only
  refine (Keeps.forIn fun d _ => (define_quiet d).bind fun _ => Keeps.pure _).bind fun _ => ?_
  refine (Keeps.forIn fun filled _ => ?_).bind fun _ => Keeps.pure _
  exact (eval_quiet none _).bind fun _ =>
    Keeps.bind (Keeps.modify fun _ => Quiet.of_eq rfl rfl rfl rfl rfl) fun _ => Keeps.pure _

theorem topLevel_no_sinks (p : Program) (steps : Nat) (m' : Machine)
    (ended : ending ((install p.functions >>= fun _ => execBlock fuel none (p.steps.take steps))
      (Machine.boot p.config)) = some m') :
    m'.yields.sinks = [] := by
  have run := ((install_quiet p.functions).evolves.bind fun _ =>
    (evolvesAt fuel).execBlock none (p.steps.take steps)) _ m' ended
  obtain ⟨added, sinks⟩ := run.yields
  rw [sinks]
  rfl

/-- The yield sinks nest with the wrapped runs. A wrapped run runs its target with one fresh
sink on top of those it found and, however it ends, takes that sink off and leaves the others
as they were, giving on success what its target appended to its own sink. Every call of
anything ends with the sinks it found, records appended to the innermost one at most. A yield
appends one record to the innermost sink and to no other, and fails without one. Between the
top-level steps of a program no sink is installed. -/
theorem yield_sinks_nest (fuel : Nat) :
    (∀ target args m vs captured m', collect (fuel + 1) target args m = .ok (vs, captured) m' →
      ∃ m₁, callFunction (fuel + 1) target args { m with yields := m.yields.install } =
          .ok vs m₁ ∧
        m₁.yields.sinks = captured :: m.yields.sinks ∧ m' = { m₁ with yields := m.yields }) ∧
    (∀ target args m e m', collect (fuel + 1) target args m = .error (.error e) m' →
      ∃ m₁, callFunction (fuel + 1) target args { m with yields := m.yields.install } =
          .error (.error e) m₁ ∧ m' = { m₁ with yields := m.yields }) ∧
    (∀ callee args m m', ending (invoke fuel callee args m) = some m' →
      ∃ added, m'.yields.sinks = m.yields.sinks.modifyHead (· ++ added)) ∧
    (∀ callee args m m', ending (callFunction fuel callee args m) = some m' →
      ∃ added, m'.yields.sinks = m.yields.sinks.modifyHead (· ++ added)) ∧
    (∀ w args m m', ending (resume fuel w args m) = some m' →
      ∃ added, m'.yields.sinks = m.yields.sinks.modifyHead (· ++ added)) ∧
    (∀ args m s rest, m.yields.sinks = s :: rest →
      yieldValues args m = .ok [] { m with yields := ⟨s.push (Yielded.ofArgs args) :: rest⟩ }) ∧
    (∀ args m, m.yields.sinks = [] →
      yieldValues args m =
        .error (.error (.raise "attempt to yield from outside a coroutine")) m) ∧
    (∀ (p : Program) steps m',
      ending ((install p.functions >>= fun _ => execBlock fuel none (p.steps.take steps))
        (Machine.boot p.config)) = some m' →
      m'.yields.sinks = []) :=
  ⟨fun _ _ _ _ _ _ ran => collect_ok_sinks ran,
    fun _ _ _ _ _ failed => collect_error_sinks failed,
    fun callee args m m' ended => ((evolvesAt fuel).invoke callee args m m' ended).yields,
    fun callee args m m' ended => ((evolvesAt fuel).callFunction callee args m m' ended).yields,
    fun w args m m' ended => ((evolvesAt fuel).resume w args m m' ended).yields,
    fun _ _ _ _ innermost => yieldValues_of_sink innermost,
    fun _ _ outside => yieldValues_outside outside,
    fun p steps m' ended => topLevel_no_sinks p steps m' ended⟩

end Exec

end LuaIntrospect
