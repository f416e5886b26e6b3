import LuaIntrospect.Proofs.StackDiscipline

/-! The trampoline. Main statement: `trampoline_tail_calls`. -/
namespace LuaIntrospect.Exec

open Machine

/-- One call the trampoline makes: the fuel it is given, the callee, the arguments and the
machine it starts from. -/
structure Invocation where
  fuel : Nat
  callee : Value
  args : List Value
  machine : Machine

/-- The calls `callFunction fuel callee args m` makes, in order: the callee, then the target of
every tail call handed back. -/
def tailChain : Nat → Value → List Value → Machine → List Invocation
  | 0, _, _, _ => []
  | fuel + 1, callee, args, m =>
    ⟨fuel, callee, args, m⟩ ::
      match invoke fuel callee args m with
      | .error (.error (.tailCall target rest)) m' => tailChain fuel target rest m'
      | _ => []

theorem tailChain_no_deeper :
    ∀ (fuel : Nat) (callee : Value) (args : List Value) (m : Machine),
      ∀ c ∈ tailChain fuel callee args m,
        c.machine.stack.depth ≤ m.stack.depth ∧ c.machine.config = m.config
  | 0, _, _, _, c, member => nomatch member
  | fuel + 1, callee, args, m, c, member => by
    simp only [tailChain, List.mem_cons] at member
    rcases member with first | later
    · subst first
      exact ⟨Nat.le_refl _, rfl⟩
    · split at later
      · -- a tail call ended its call no deeper than it started, with the same settings
        rename_i target rest m₁ tail
        have ended : ending (invoke fuel callee args m) = some m₁ := by simp [tail]
        have shallower := invoke_noDeeper fuel callee args m m₁ ended
        have settings := ((evolvesAt fuel).invoke callee args m m₁ ended).config
        obtain ⟨deeper, same⟩ := tailChain_no_deeper fuel target rest m₁ c later
        exact ⟨Nat.le_trans deeper shallower, same.trans settings⟩
      · nomatch later

theorem tailChain_tail_of_not_func (fuel : Nat) {callee : Value} (args : List Value) (m : Machine)
    (notFunction : ∀ f, callee ≠ .func f) : (tailChain (fuel + 1) callee args m).tail = [] := by
  cases fuel with
  | zero => rfl
  | succ fuel =>
    simp only [tailChain, List.tail_cons, invoke_not_func _ _ _ _ notFunction]
    rfl

theorem callFunction_ne_tailCall :
    ∀ (fuel : Nat) (callee : Value) (args : List Value) (m : Machine) (target : Value)
      (rest : List Value) (m' : Machine),
      callFunction fuel callee args m ≠ .error (.error (.tailCall target rest)) m'
  | 0, _, _, _, _, _, _ => nofun
  | fuel + 1, callee, args, m, target, rest, m' => by
    rw [callFunction_succ]
    split
    · exact callFunction_ne_tailCall fuel _ _ _ target rest m'
    · rename_i r notTail
      exact notTail target rest m'

/-- The trampoline is the recursion that follows tail calls, and it uses no stack depth: every
call it makes starts no deeper than the first, so if the first call, when it checks the depth,
finds room, every later call does too; and it never hands back a tail call. -/
theorem trampoline_tail_calls (fuel : Nat) (callee : Value) (args : List Value) (m : Machine) :
    callFunction (fuel + 1) callee args m =
      (match invoke fuel callee args m with
        | .error (.error (.tailCall target rest)) m' => callFunction fuel target rest m'
        | r => r) ∧
    (∀ c ∈ tailChain (fuel + 1) callee args m, c.machine.stack.depth ≤ m.stack.depth) ∧
    (∀ target rest m',
      callFunction (fuel + 1) callee args m ≠ .error (.error (.tailCall target rest)) m') ∧
    ((∀ f, callee = .func f → m.stack.depth < m.config.maxCallDepth) →
      ∀ c ∈ (tailChain (fuel + 1) callee args m).tail,
        c.machine.stack.depth < c.machine.config.maxCallDepth) := by
  refine ⟨callFunction_succ fuel callee args m,
    fun c member => (tailChain_no_deeper _ _ _ _ c member).1,
    callFunction_ne_tailCall (fuel + 1) callee args m, fun room c later => ?_⟩
  by_cases function : ∃ f, callee = .func f
  · -- the first call found room, and no later call starts deeper or with other settings
    obtain ⟨f, isFunction⟩ := function
    have member : c ∈ tailChain (fuel + 1) callee args m := List.mem_of_mem_tail later
    obtain ⟨deeper, settings⟩ := tailChain_no_deeper _ _ _ _ c member
    rw [settings]
    exact Nat.lt_of_le_of_lt deeper (room f isFunction)
  · -- a call of something that is not a function is the last of its chain
    rw [tailChain_tail_of_not_func fuel args m fun f same => function ⟨f, same⟩] at later
    nomatch later

end LuaIntrospect.Exec
