import LuaIntrospect.Proofs.RunInvariant

/-! Where runtime errors are located: once, at the innermost call that left a guest frame.
Main statement: `errors_located_once`. -/
namespace LuaIntrospect

namespace CallStack

/-- Where an error raised with this stack is located: the newest frame's chunk short name and
line, unless there is no frame or the newest runs host code. -/
def site? (s : CallStack) : Option Location :=
  match s.top? with
  | none => none
  | some frame =>
    let chunk := ChunkSource.forFrame frame s.scriptPath
    if chunk.isNative then none else some ⟨chunk.shortSrc, frame.line⟩

end CallStack

namespace LuaError

theorem locate_of_located {e : LuaError} (located : e.isUnlocated = false) (loc : Location) :
    e.locate loc = e := by
  unfold locate
  split
  · simp [isUnlocated] at located
  · rfl

theorem message_runtime (msg : String) (loc : Option Location) :
    (runtime msg loc).message =
      match loc with
      | none => msg
      | some ⟨file, none⟩ => file ++ ": " ++ msg
      | some ⟨file, some line⟩ => file ++ ":" ++ toString line.toNat ++ ": " ++ msg := by
  rcases loc with _ | ⟨file, _ | line⟩ <;> rfl

end LuaError

namespace Exec

open Machine

/-- What a call makes of its callee's error, with the stack the callee left: an unlocated runtime
error is located at the newest frame; any other error passes. -/
def locateOnce (s : CallStack) (e : LuaError) : LuaError :=
  if e.isUnlocated then locateIn s e else e

/-- An error passed outward through calls whose callees left these stacks, innermost first. -/
def locateThrough (trail : List CallStack) (e : LuaError) : LuaError :=
  trail.foldl (fun e s => locateOnce s e) e

theorem locateIn_eq_site (s : CallStack) (e : LuaError) :
    locateIn s e = match s.site? with
      | some loc => e.locate loc
      | none => e := by
  unfold locateIn CallStack.site?
  cases s.top? with
  | none => rfl
  | some frame =>
    dsimp only
    split <;> rfl

theorem locateOnce_of_located (s : CallStack) {e : LuaError} (located : e.isUnlocated = false) :
    locateOnce s e = e := by
  simp [locateOnce, located]

theorem locateOnce_raise (s : CallStack) (msg : String) :
    locateOnce s (.raise msg) = .runtime msg s.site? := by
  simp only [locateOnce, LuaError.raise, LuaError.isUnlocated, ↓reduceIte, locateIn_eq_site]
  split
  · rename_i loc site
    rw [site]
    rfl
  · rename_i site
    rw [site]

theorem locateThrough_of_located (trail : List CallStack) {e : LuaError}
    (located : e.isUnlocated = false) : locateThrough trail e = e := by
  induction trail with
  | nil => rfl
  | cons s rest ih =>
    simp only [locateThrough, List.foldl_cons, locateOnce_of_located s located] at ih ⊢
    exact ih

theorem locateThrough_raise (trail : List CallStack) (msg : String) :
    locateThrough trail (.raise msg) = .runtime msg (trail.findSome? CallStack.site?) := by
  induction trail with
  | nil => rfl
  | cons s rest ih =>
    simp only [locateThrough, List.foldl_cons, locateOnce_raise, List.findSome?_cons] at ih ⊢
    cases site : s.site? with
    | none => exact ih
    | some loc =>
      -- from here on the error is located, so no later call touches it
      exact locateThrough_of_located rest rfl

theorem invoke_callee_error (fuel : Nat) (f : Callable) (args : List Value) (m : Machine)
    {e : LuaError} {m₁ : Machine} (room : m.stack.depth < m.config.maxCallDepth)
    (failed : enter fuel f args { m with stack := m.stack.push (Frame.forFunction (m.signature f)) } =
      .error (.error e) m₁) :
    invoke (fuel + 1) (.func f) args m =
      .error (.error (locateOnce m₁.stack e)) { m₁ with stack := m₁.stack.unwindTo m.stack.depth } := by
  rw [invoke_func, if_neg (Nat.not_le_of_lt room), failed]
  rfl

end Exec

namespace ChunkSource

theorem forFrame_forFunction (sig : Signature) (fallback : Option String) :
    forFrame (Frame.forFunction sig) fallback = forSignature sig fallback := by
  cases sig with
  | native name => rfl
  | guest name chunk span isMain upvalues =>
    cases isMain <;> rfl

theorem forFrame_of_edited {f f' : Frame} (edited : f.Edited f') (fallback : Option String) :
    forFrame f' fallback = forFrame f fallback := by
  simp only [forFrame, edited.kind, edited.scriptPath, edited.span]

end ChunkSource

namespace Exec

open Machine

theorem site_of_own_frame (fuel : Nat) (f : Callable) (args : List Value) (m : Machine)
    {m₁ : Machine} {e : LuaError}
    (failed : enter fuel f args { m with stack := m.stack.push (Frame.forFunction (m.signature f)) } =
      .error (.error e) m₁)
    (above : StaysAbove (m.stack.depth + 1)
      { m with stack := m.stack.push (Frame.forFunction (m.signature f)) } m₁)
    (level : m₁.stack.depth = m.stack.depth + 1) :
    ∃ frame, m₁.stack.top? = some frame ∧ (Frame.forFunction (m.signature f)).Edited frame ∧
      m₁.stack.site? =
        let chunk := ChunkSource.forSignature (m.signature f) m.stack.scriptPath
        if chunk.isNative then none else some ⟨chunk.shortSrc, frame.line⟩ := by
  have run := (evolvesAt fuel).enter f args _ m₁ (by rw [failed]; rfl)
  have kept := run.floor (m.stack.depth + 1) above (by simp [CallStack.push, CallStack.depth])
  have pushedTop : (m.stack.push (Frame.forFunction (m.signature f))).frames[m.stack.depth]? =
      some (Frame.forFunction (m.signature f)) := by
    simp [CallStack.push, CallStack.depth]
  obtain ⟨frame, found, edited⟩ :=
    kept.frames m.stack.depth (Nat.lt_succ_self _) _ pushedTop
  -- the callee left exactly one frame above the caller's, so the newest is its own
  have top : m₁.stack.top? = some frame := by
    have size : m₁.stack.frames.size - 1 = m.stack.depth := by
      simp only [CallStack.depth] at level ⊢
      omega
    rw [CallStack.top?, Array.back?_eq_getElem?, size, found]
  refine ⟨frame, top, edited, ?_⟩
  simp only [CallStack.site?, top, ChunkSource.forFrame_of_edited edited,
    ChunkSource.forFrame_forFunction, run.scriptPath, CallStack.push]

/-- Runtime errors are located once. Through any chain of calls, an unlocated error is located
at the innermost call whose callee left a guest frame on top, at that frame's chunk short name
and line, and reads `file:line: msg`, or `file: msg` without a line; with no such call it stays
bare, and once located no outer call changes it. Located errors and bad-argument,
not-implemented and tail-call errors pass every call unchanged. A call locates its callee's error
with the stack the callee left, and the errors a call raises itself (calling a value that is not
a function, or a full stack) are unlocated and leave the caller's machine as it was, so the first
frame they meet is the caller's. A callee that leaves the stack as it found it offers its own
frame: the location is the called function's chunk and the callee's current line. -/
theorem errors_located_once :
    (∀ (trail : List CallStack) (msg : String),
      locateThrough trail (.raise msg) = .runtime msg (trail.findSome? CallStack.site?) ∧
      (locateThrough trail (.raise msg)).message =
        match trail.findSome? CallStack.site? with
        | none => msg
        | some ⟨file, none⟩ => file ++ ": " ++ msg
        | some ⟨file, some line⟩ => file ++ ":" ++ toString line.toNat ++ ": " ++ msg) ∧
    (∀ (trail : List CallStack) (e : LuaError), e.isUnlocated = false →
      locateThrough trail e = e) ∧
    (∀ (fuel : Nat) (f : Callable) (args : List Value) (m : Machine) (e : LuaError) (m₁ : Machine),
      m.stack.depth < m.config.maxCallDepth →
      enter fuel f args { m with stack := m.stack.push (Frame.forFunction (m.signature f)) } =
        .error (.error e) m₁ →
      invoke (fuel + 1) (.func f) args m =
        .error (.error (locateOnce m₁.stack e)) { m₁ with stack := m₁.stack.unwindTo m.stack.depth }) ∧
    (∀ (fuel : Nat) (callee : Value) (args : List Value) (m : Machine), (∀ f, callee ≠ .func f) →
      invoke (fuel + 1) callee args m =
        .error (.error (.raise ("attempt to call a " ++ callee.typeName ++ " value"))) m) ∧
    (∀ (fuel : Nat) (f : Callable) (args : List Value) (m : Machine),
      m.config.maxCallDepth ≤ m.stack.depth →
      invoke (fuel + 1) (.func f) args m = .error (.error (.raise "stack overflow")) m) ∧
    (∀ (fuel : Nat) (f : Callable) (args : List Value) (m : Machine) (e : LuaError) (m₁ : Machine),
      enter fuel f args { m with stack := m.stack.push (Frame.forFunction (m.signature f)) } =
        .error (.error e) m₁ →
      StaysAbove (m.stack.depth + 1)
        { m with stack := m.stack.push (Frame.forFunction (m.signature f)) } m₁ →
      m₁.stack.depth = m.stack.depth + 1 →
      ∃ frame, m₁.stack.top? = some frame ∧ (Frame.forFunction (m.signature f)).Edited frame ∧
        m₁.stack.site? =
          let chunk := ChunkSource.forSignature (m.signature f) m.stack.scriptPath
          if chunk.isNative then none else some ⟨chunk.shortSrc, frame.line⟩) := by
  refine ⟨fun trail msg => ⟨locateThrough_raise trail msg, ?_⟩,
    fun trail e located => locateThrough_of_located trail located,
    fun fuel f args m e m₁ room failed => invoke_callee_error fuel f args m room failed,
    fun fuel callee args m notFunction => invoke_not_func fuel callee args m notFunction,
    fun fuel f args m full => ?_,
    fun fuel f args m e m₁ failed above level => site_of_own_frame fuel f args m failed above level⟩
  · rw [locateThrough_raise, LuaError.message_runtime]
  · rw [invoke_func, if_pos full]

/-- A guest function of the chunk `@main.lua` whose body sets line 7 and raises `boom`. -/
def boomAtSeven : Machine :=
  { scripts := #[⟨"f", .guest (some "f") (some "@main.lua") none false none, [.line 7, .raise "boom"]⟩] }

/-- The error `boom` leaves its callee unlocated and is located by the call at the callee's
own chunk and line. -/
theorem boom_located_at_callee :
    ∃ m₁, enter 4 (.script 0) []
        { boomAtSeven with
          stack := boomAtSeven.stack.push (Frame.forFunction (boomAtSeven.signature (.script 0))) } =
        .error (.error (.raise "boom")) m₁ ∧
      invoke 5 (.func (.script 0)) [] boomAtSeven =
        .error (.error (locateOnce m₁.stack (.raise "boom"))) { m₁ with stack := m₁.stack.unwindTo 0 } ∧
      (locateOnce m₁.stack (.raise "boom")).message = "main.lua:7: boom" :=
  ⟨_, rfl, errors_located_once.2.2.1 4 (.script 0) [] boomAtSeven _ _ (by decide) rfl, by decide +kernel⟩

end Exec

end LuaIntrospect
