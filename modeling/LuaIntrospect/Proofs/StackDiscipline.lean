import LuaIntrospect.Proofs.RunInvariant

/-! The call stack over a call. Main statement: `call_stack_discipline`. -/
namespace LuaIntrospect

namespace CallStack

theorem depth_unwindTo_le (s : CallStack) (depth : Nat) : (s.unwindTo depth).depth ≤ depth := by
  simp only [unwindTo, CallStack.depth, Array.take_eq_extract, Array.size_extract]
  omega

end CallStack

namespace Machine

/-- The stack of `m'` is no deeper than that of `m`. -/
def NoDeeper (m m' : Machine) : Prop := m'.stack.depth ≤ m.stack.depth

instance : Std.Refl NoDeeper := ⟨fun _ => Nat.le_refl _⟩

instance : Trans NoDeeper NoDeeper NoDeeper := ⟨fun first second => Nat.le_trans second first⟩

theorem NoDeeper.of_quiet {m m' : Machine} (quiet : Quiet m m') : NoDeeper m m' :=
  Nat.le_of_eq (congrArg CallStack.depth quiet.stack)

/-- How a call leaves the stack it found: no deeper; and, if it popped no frame that was there
before it, at the same depth with the frames it found, edited at most in place. -/
structure StackRestored (m m' : Machine) : Prop where
  noDeeper : m'.stack.depth ≤ m.stack.depth
  restored : StaysAbove m.stack.depth m m' →
    m'.stack.depth = m.stack.depth ∧ m.stack.KeepsBelow m.stack.depth m'.stack

theorem StackRestored.of_evolves {m m' : Machine} (run : Evolves m m') (noDeeper : NoDeeper m m') :
    StackRestored m m' := by
  refine ⟨noDeeper, fun above => ?_⟩
  have kept := run.floor m.stack.depth above (Nat.le_refl _)
  exact ⟨Nat.le_antisymm noDeeper kept.deep, kept⟩

end Machine

namespace Exec

open Machine

theorem Keeps.noDeeper {α : Type} {x : Exec α} (quiet : Keeps Quiet x) : Keeps NoDeeper x :=
  quiet.mono fun _ _ => NoDeeper.of_quiet

theorem finishCall_depth_le {base : Nat} {r : EStateM.Result Halt Machine (List Value)}
    {m' : Machine} (ended : ending (finishCall base r) = some m') : m'.stack.depth ≤ base := by
  obtain ⟨m₁, _, rfl⟩ := ending_finishCall ended
  exact CallStack.depth_unwindTo_le _ _

theorem invoke_noDeeper (fuel : Nat) (callee : Value) (args : List Value) :
    Keeps NoDeeper (invoke fuel callee args) := by
  intro m m' ended
  cases fuel with
  | zero => cases ended
  | succ fuel =>
    by_cases function : ∃ f, callee = .func f
    · obtain ⟨f, rfl⟩ := function
      rw [invoke_func] at ended
      split at ended
      · cases ended
        exact Nat.le_refl _
      · exact finishCall_depth_le ended
    · rw [invoke_not_func _ _ _ _ fun f same => function ⟨f, same⟩] at ended
      cases ended
      exact Nat.le_refl _

theorem callFunction_noDeeper :
    ∀ (fuel : Nat) (callee : Value) (args : List Value), Keeps NoDeeper (callFunction fuel callee args)
  | 0, _, _ => fun _ _ ended => nomatch ended
  | fuel + 1, callee, args => by
    refine (Keeps.attempt (invoke_noDeeper fuel callee args)).bind fun r => ?_
    split
    · exact callFunction_noDeeper fuel _ _
    · exact Keeps.rethrow _

theorem collect_noDeeper (fuel : Nat) (target : Value) (args : List Value) :
    Keeps NoDeeper (collect fuel target args) := by
  cases fuel with
  | zero => exact fun _ _ ended => nomatch ended
  | succ fuel =>
    refine Keeps.bind (Keeps.modify fun _ => Nat.le_refl _) fun _ => ?_
    refine Keeps.bind (Keeps.attempt ?_) fun r => ?_
    · refine (Keeps.attempt (invoke_noDeeper fuel target args)).bind fun r => ?_
      split
      · exact callFunction_noDeeper fuel _ _
      · exact Keeps.rethrow _
    · exact Keeps.bind (Keeps.modifyGet fun _ => Nat.le_refl _) fun _ =>
        (Keeps.rethrow r).bind fun _ => Keeps.pure _

theorem resume_noDeeper (fuel w : Nat) (args : List Value) :
    Keeps NoDeeper (resume fuel w args) := by
  cases fuel with
  | zero => exact fun _ _ ended => nomatch ended
  | succ fuel =>
    refine Keeps.bind (Keeps.bind Keeps.get fun _ => Keeps.pure _) fun st => ?_
    split
    · refine Keeps.bind (Keeps.modify fun _ => Nat.le_refl _) fun _ => ?_
      refine (collect_noDeeper fuel st.target args).bind fun ran => ?_
      obtain ⟨result, captured⟩ := ran
      simp only
      split
      · exact Keeps.pure _
      · exact Keeps.bind (Keeps.modify fun _ => Nat.le_refl _) fun _ => Keeps.pure _
    · split
      · exact Keeps.bind (Keeps.modify fun _ => Nat.le_refl _) fun _ => Keeps.pure _
      · exact (collect_noDeeper fuel st.target args).bind fun _ => Keeps.pure _

theorem callStmt_noDeeper (fuel : Nat) (args : Option (List Value)) (target : Expr)
    (argList : List Arg) (mode : CallMode) (h : Handling) :
    Keeps NoDeeper (execStmt fuel args (.call target argList mode h)) := by
  cases fuel with
  | zero => exact fun _ _ ended => nomatch ended
  | succ fuel =>
    refine (eval_quiet args target).noDeeper.bind fun callee =>
      (evalArgs_quiet args argList).noDeeper.bind fun vs => Keeps.bind ?_ fun r =>
        (recordCall_quiet r h _).noDeeper.bind fun _ => Keeps.pure _
    cases mode
    · exact Keeps.attempt (callFunction_noDeeper fuel callee vs)
    · exact Keeps.attempt (invoke_noDeeper fuel callee vs)

theorem invoke_restores_stack {fuel : Nat} {callee : Value} {args : List Value} {m m' : Machine}
    (ended : ending (invoke fuel callee args m) = some m') : StackRestored m m' :=
  StackRestored.of_evolves ((evolvesAt fuel).invoke callee args m m' ended)
    (invoke_noDeeper fuel callee args m m' ended)

/-- The call stack over a call. A call of something that is not a function, or of a function
when the stack is at its depth limit, fails and leaves the machine as it was; otherwise it
pushes the callee's frame, which then lies at a depth within the limit, runs the callee and
finishes the call. Every call (one call, a trampolined call, a call of a wrapped closure, and a
top-level call statement) ends no deeper than it started and, if nothing it ran popped a frame
that was there before it, at the same depth with the same frames, edited at most in place.
Every top-level statement keeps the frames below any depth it never went under. -/
theorem call_stack_discipline (fuel : Nat) :
    (∀ callee args m, (∀ f, callee ≠ .func f) →
      invoke (fuel + 1) callee args m =
        .error (.error (.raise ("attempt to call a " ++ callee.typeName ++ " value"))) m) ∧
    (∀ f args m, m.config.maxCallDepth ≤ m.stack.depth →
      invoke (fuel + 1) (.func f) args m = .error (.error (.raise "stack overflow")) m) ∧
    (∀ f args m, m.stack.depth < m.config.maxCallDepth →
      invoke (fuel + 1) (.func f) args m =
        finishCall m.stack.depth
          (enter fuel f args { m with stack := m.stack.push (Frame.forFunction (m.signature f)) }) ∧
      (m.stack.push (Frame.forFunction (m.signature f))).depth ≤ m.config.maxCallDepth) ∧
    (∀ callee args m m', ending (invoke fuel callee args m) = some m' → StackRestored m m') ∧
    (∀ callee args m m', ending (callFunction fuel callee args m) = some m' →
      StackRestored m m') ∧
    (∀ w args m m', ending (resume fuel w args m) = some m' → StackRestored m m') ∧
    (∀ target argList mode h m m',
      ending (execStmt fuel none (.call target argList mode h) m) = some m' →
      StackRestored m m') ∧
    (∀ stmt m m', ending (execStmt fuel none stmt m) = some m' →
      ∀ floor ≤ m.stack.depth, StaysAbove floor m m' → m.stack.KeepsBelow floor m'.stack) := by
  refine ⟨fun callee args m notFunction => invoke_not_func fuel callee args m notFunction,
    fun f args m full => ?_, fun f args m below => ⟨?_, ?_⟩,
    fun _ _ _ _ ended => invoke_restores_stack ended, ?_, ?_, ?_, ?_⟩
  · rw [invoke_func, if_pos full]
  · rw [invoke_func, if_neg (Nat.not_le_of_lt below)]
  · simp only [CallStack.push, CallStack.depth, Array.size_push] at below ⊢
    omega
  · exact fun callee args m m' ended => StackRestored.of_evolves
      ((evolvesAt fuel).callFunction callee args m m' ended)
      (callFunction_noDeeper fuel callee args m m' ended)
  · exact fun w args m m' ended => StackRestored.of_evolves
      ((evolvesAt fuel).resume w args m m' ended) (resume_noDeeper fuel w args m m' ended)
  · exact fun target argList mode h m m' ended => StackRestored.of_evolves
      ((evolvesAt fuel).execStmt none _ m m' ended)
      (callStmt_noDeeper fuel none target argList mode h m m' ended)
  · exact fun stmt m m' ended floor deep above =>
      ((evolvesAt fuel).execStmt none stmt m m' ended).floor floor above deep

/-- A caller's frame at line 1, and one function whose body pops its own frame and sets line 7. -/
def callerAtLineOne : Machine :=
  { stack := { frames := #[{ name := some "main", line := some 1 }] },
    scripts := #[⟨"f", .guest none none none false none, [.popFrame, .line 7]⟩] }

/-- A callee that pops its own frame and then sets a line sets it on its caller's frame. The
call pops no frame that was there before it and ends at the depth it started at, yet the frame
below is not the one it found: it is the same frame, edited in place. -/
theorem callee_sets_caller_line :
    ∃ m', invoke 5 (.func (.script 0)) [] callerAtLineOne = .ok [] m' ∧
      StaysAbove callerAtLineOne.stack.depth callerAtLineOne m' ∧
      m'.stack.depth = callerAtLineOne.stack.depth ∧
      m'.stack.frames[0]?.map Frame.line = some (some 7) ∧
      callerAtLineOne.stack.frames[0]?.map Frame.line = some (some 1) := by
  refine ⟨_, rfl, ?_, rfl, rfl, rfl⟩
  -- the only depth the run records is the one its pop leaves
  intro n recorded
  simp [added, callerAtLineOne] at recorded
  subst recorded
  decide

end Exec

end LuaIntrospect
