import LuaIntrospect.Proofs.Quiet

/-! How the machine may change over a run: `Machine.Evolves`. -/
namespace LuaIntrospect

namespace YieldCollector

/-- `c'` is `c` after records were appended to its innermost sink; the outer sinks and the
number of sinks are as they were. -/
def Extends (c c' : YieldCollector) : Prop :=
  ∃ added : Array Yielded, c'.sinks = c.sinks.modifyHead (· ++ added)

theorem Extends.refl (c : YieldCollector) : c.Extends c := by
  refine ⟨#[], ?_⟩
  cases c.sinks <;> simp

theorem Extends.trans {c c' c'' : YieldCollector} (first : c.Extends c') (second : c'.Extends c'') :
    c.Extends c'' := by
  obtain ⟨added₁, sinks₁⟩ := first
  obtain ⟨added₂, sinks₂⟩ := second
  refine ⟨added₁ ++ added₂, ?_⟩
  rw [sinks₂, sinks₁, List.modifyHead_modifyHead]
  congr 1
  funext s
  simp [Array.append_assoc]

theorem Extends.depth {c c' : YieldCollector} (grown : c.Extends c') : c'.depth = c.depth := by
  obtain ⟨added, sinks⟩ := grown
  simp [YieldCollector.depth, sinks]

theorem divert_extends {c c' : YieldCollector} {args : List Value}
    (diverted : c.divert args = .ok c') : c.Extends c' := by
  unfold divert at diverted
  split at diverted
  · cases diverted
  · rename_i s rest sinks
    cases diverted
    exact ⟨#[Yielded.ofArgs args], by simp [sinks]⟩

theorem remove_of_extends_install {c c' : YieldCollector} (grown : c.install.Extends c') :
    ∃ added, c'.remove = (added, c) := by
  obtain ⟨added, sinks⟩ := grown
  refine ⟨added, ?_⟩
  simp [YieldCollector.install] at sinks
  simp [YieldCollector.remove, sinks]

end YieldCollector

namespace Frame

/-- `f'` is `f` after the edits the code running in a frame makes to it: a new current line and
locals declared after the existing ones. -/
structure Edited (f f' : Frame) : Prop where
  name : f'.name = f.name
  kind : f'.kind = f.kind
  scriptPath : f'.scriptPath = f.scriptPath
  span : f'.span = f.span
  upvalues : f'.upvalues = f.upvalues
  locals : f.locals.toList <+: f'.locals.toList

theorem Edited.refl (f : Frame) : f.Edited f :=
  ⟨rfl, rfl, rfl, rfl, rfl, List.prefix_refl _⟩

theorem Edited.trans {f f' f'' : Frame} (first : f.Edited f') (second : f'.Edited f'') :
    f.Edited f'' :=
  ⟨second.name.trans first.name, second.kind.trans first.kind,
    second.scriptPath.trans first.scriptPath, second.span.trans first.span,
    second.upvalues.trans first.upvalues, first.locals.trans second.locals⟩

theorem Edited.setLine (f : Frame) (line : UInt32) : f.Edited (f.setLine line) :=
  ⟨rfl, rfl, rfl, rfl, rfl, List.prefix_refl _⟩

theorem Edited.setPosition (f : Frame) (offset : Nat) (index : LineIndex) :
    f.Edited (f.setPosition offset index) :=
  Edited.setLine f _

theorem Edited.declareLocal (f : Frame) (name : String) (v : Value) :
    f.Edited (f.declareLocal name v) :=
  ⟨rfl, rfl, rfl, rfl, rfl, by simp [Frame.declareLocal]⟩

end Frame

namespace CallStack

/-- Every frame of `s` below depth `floor` is still in `s'` at the same place, edited at most in
place, and `s'` is at least `floor` deep. -/
structure KeepsBelow (floor : Nat) (s s' : CallStack) : Prop where
  deep : floor ≤ s'.depth
  frames : ∀ i < floor, ∀ f, s.frames[i]? = some f → ∃ f', s'.frames[i]? = some f' ∧ f.Edited f'

theorem KeepsBelow.refl {floor : Nat} {s : CallStack} (deep : floor ≤ s.depth) :
    s.KeepsBelow floor s :=
  ⟨deep, fun _ _ f found => ⟨f, found, Frame.Edited.refl f⟩⟩

theorem KeepsBelow.trans {floor : Nat} {s s' s'' : CallStack} (first : s.KeepsBelow floor s')
    (second : s'.KeepsBelow floor s'') : s.KeepsBelow floor s'' := by
  refine ⟨second.deep, fun i below f found => ?_⟩
  obtain ⟨f', found', edited⟩ := first.frames i below f found
  obtain ⟨f'', found'', edited'⟩ := second.frames i below f' found'
  exact ⟨f'', found'', edited.trans edited'⟩

theorem KeepsBelow.push {floor : Nat} (s : CallStack) (frame : Frame) (deep : floor ≤ s.depth) :
    s.KeepsBelow floor (s.push frame) := by
  refine ⟨?_, fun i below f found => ?_⟩
  · simp only [CallStack.push, CallStack.depth, Array.size_push] at deep ⊢
    omega
  have inside : i < s.frames.size := Nat.lt_of_lt_of_le below deep
  refine ⟨f, ?_, Frame.Edited.refl f⟩
  simp [CallStack.push, Array.getElem?_push, Nat.ne_of_lt inside, found]

theorem KeepsBelow.pop {floor : Nat} (s : CallStack) (deep : floor ≤ s.pop.depth) :
    s.KeepsBelow floor s.pop := by
  refine ⟨deep, fun i below f found => ⟨f, ?_, Frame.Edited.refl f⟩⟩
  simp [CallStack.pop, CallStack.depth] at deep
  simp [CallStack.pop, Array.getElem?_pop]
  exact ⟨by omega, found⟩

theorem KeepsBelow.unwindTo {floor depth : Nat} (s : CallStack) (above : floor ≤ depth)
    (deep : floor ≤ s.depth) : s.KeepsBelow floor (s.unwindTo depth) := by
  refine ⟨?_, fun i below f found => ⟨f, ?_, Frame.Edited.refl f⟩⟩
  · simp [CallStack.unwindTo, CallStack.depth] at deep ⊢
    omega
  · simp only [CallStack.unwindTo, Array.take_eq_extract, Array.getElem?_extract]
    have inside : i < min depth s.frames.size := by
      simp [CallStack.depth] at deep
      omega
    simp [inside, found]

theorem KeepsBelow.modifyTop {floor : Nat} (s : CallStack) {g : Frame → Frame}
    (edit : ∀ f : Frame, f.Edited (g f)) (deep : floor ≤ s.depth) :
    s.KeepsBelow floor (s.modifyTop g) := by
  unfold CallStack.modifyTop
  split
  · exact KeepsBelow.refl deep
  · refine ⟨by simpa [CallStack.depth] using deep, fun i below f found => ?_⟩
    simp only [Array.getElem?_modify]
    split
    · exact ⟨g f, by simp [found], edit f⟩
    · exact ⟨f, found, Frame.Edited.refl f⟩

end CallStack

namespace WrapState

/-- The records a wrapped closure has yet to replay, in order. -/
def pending (st : WrapState) : List Yielded := st.recorded.toList.drop st.cursor

/-- A closure that has not run yet holds no records. -/
def Valid (st : WrapState) : Prop := st.started = false → st.recorded = #[] ∧ st.cursor = 0

theorem valid_of_started {st : WrapState} (started : st.started = true) : st.Valid := by
  intro unstarted
  simp [started] at unstarted

/-- How a closure's state may change. Its target never changes; while it has not started it does
not change at all; once started it stays so, keeps its records and only moves its cursor
forward; and once its records are used up it does not change at all. -/
structure Advances (st st' : WrapState) : Prop where
  target : st'.target = st.target
  unstarted : st.started = false → st'.started = false → st' = st
  started : st.started = true →
    st'.started = true ∧ st'.recorded = st.recorded ∧ st.cursor ≤ st'.cursor
  spent : st.started = true → st.recorded.size ≤ st.cursor → st' = st
  valid : st.Valid → st'.Valid

theorem Advances.refl (st : WrapState) : st.Advances st :=
  ⟨rfl, fun _ _ => rfl, fun started => ⟨started, rfl, Nat.le_refl _⟩, fun _ _ => rfl, id⟩

theorem Advances.trans {st st' st'' : WrapState} (first : st.Advances st')
    (second : st'.Advances st'') : st.Advances st'' := by
  refine ⟨second.target.trans first.target, ?_, ?_, ?_, second.valid ∘ first.valid⟩
  · intro unstarted unstarted''
    cases started' : st'.started
    · rw [second.unstarted started' unstarted'', first.unstarted unstarted started']
    · have := (second.started started').1
      simp [this] at unstarted''
  · intro started
    obtain ⟨started', recorded', forward'⟩ := first.started started
    obtain ⟨started'', recorded'', forward''⟩ := second.started started'
    exact ⟨started'', recorded''.trans recorded', Nat.le_trans forward' forward''⟩
  · intro started spent
    have same := first.spent started spent
    subst same
    exact second.spent started spent

theorem Advances.of_unstarted {st st' : WrapState} (unstarted : st.started = false)
    (target : st'.target = st.target) (started : st'.started = true) : st.Advances st' :=
  ⟨target, fun _ still => by simp [started] at still, fun restarted => by simp [unstarted] at restarted,
    fun restarted => by simp [unstarted] at restarted, fun _ => valid_of_started started⟩

theorem Advances.replay {st : WrapState} {record : Yielded} (started : st.started = true)
    (found : st.recorded[st.cursor]? = some record) :
    st.Advances { st with cursor := st.cursor + 1 } := by
  have inside : st.cursor < st.recorded.size := (Array.getElem?_eq_some_iff.mp found).1
  refine ⟨rfl, fun unstarted => by simp [started] at unstarted, fun _ => ⟨started, rfl, ?_⟩,
    fun _ spent => absurd spent (Nat.not_le_of_lt inside), fun _ => valid_of_started started⟩
  exact Nat.le_succ _

end WrapState

namespace Machine

/-- The wrapped closures of `ws'` follow those of `ws`: every old closure advanced, and every new
one is valid. -/
structure WrappersAdvance (ws ws' : Array WrapState) : Prop where
  old : ∀ (w : Nat) (st : WrapState), ws[w]? = some st → ∃ st', ws'[w]? = some st' ∧ st.Advances st'
  new : ∀ (w : Nat) (st' : WrapState), ws'[w]? = some st' → ws[w]? = none → st'.Valid

theorem WrappersAdvance.refl (ws : Array WrapState) : WrappersAdvance ws ws :=
  ⟨fun _ st found => ⟨st, found, WrapState.Advances.refl st⟩,
    fun _ _ found missing => by simp [found] at missing⟩

theorem WrappersAdvance.trans {ws ws' ws'' : Array WrapState} (first : WrappersAdvance ws ws')
    (second : WrappersAdvance ws' ws'') : WrappersAdvance ws ws'' := by
  refine ⟨fun w st found => ?_, fun w st'' found'' missing => ?_⟩
  · obtain ⟨st', found', advanced'⟩ := first.old w st found
    obtain ⟨st'', found'', advanced''⟩ := second.old w st' found'
    exact ⟨st'', found'', advanced'.trans advanced''⟩
  · cases between : ws'[w]? with
    | none => exact second.new w st'' found'' between
    | some st' =>
      obtain ⟨later, foundLater, advanced⟩ := second.old w st' between
      rw [found''] at foundLater
      cases foundLater
      exact advanced.valid (first.new w st' between missing)

theorem WrappersAdvance.modify {ws : Array WrapState} {w : Nat} {g : WrapState → WrapState}
    (step : ∀ st, ws[w]? = some st → st.Advances (g st)) : WrappersAdvance ws (ws.modify w g) := by
  refine ⟨fun v st found => ?_, fun v st' found' missing => ?_⟩
  · simp only [Array.getElem?_modify]
    split
    · rename_i same
      subst same
      exact ⟨g st, by simp [found], step st found⟩
    · exact ⟨st, found, WrapState.Advances.refl st⟩
  · simp only [Array.getElem?_modify] at found'
    split at found' <;> simp [missing] at found'

theorem WrappersAdvance.push (ws : Array WrapState) (target : Value) :
    WrappersAdvance ws (ws.push { target }) := by
  refine ⟨fun w st found => ⟨st, ?_, WrapState.Advances.refl st⟩, fun w st' found' missing => ?_⟩
  · have inside : w < ws.size := (Array.getElem?_eq_some_iff.mp found).1
    simp [Array.getElem?_push, Nat.ne_of_lt inside, found]
  · simp only [Array.getElem?_push] at found'
    split at found'
    · cases found'
      intro _
      exact ⟨rfl, rfl⟩
    · simp [missing] at found'

/-- The records `m'` holds beyond the first `m.log.size`. -/
def added (m m' : Machine) : List Event := m'.log.toList.drop m.log.size

theorem added_of_append {m m' : Machine} {more : List Event}
    (log : m'.log.toList = m.log.toList ++ more) : added m m' = more := by
  simp [added, log]

theorem added_trans {m m' m'' : Machine} (first : m.log.toList <+: m'.log.toList)
    (second : m'.log.toList <+: m''.log.toList) : added m m'' = added m m' ++ added m' m'' := by
  obtain ⟨more₁, log₁⟩ := first
  obtain ⟨more₂, log₂⟩ := second
  rw [added_of_append log₁.symm, added_of_append log₂.symm,
    added_of_append (by rw [← log₂, ← log₁, List.append_assoc])]

/-- The run from `m` to `m'` recorded no stack depth below `floor`. Every push and pop records the
depth it leaves, so no frame below `floor` was popped. -/
def StaysAbove (floor : Nat) (m m' : Machine) : Prop := ∀ n, Event.depth n ∈ added m m' → floor ≤ n

theorem StaysAbove.split {floor : Nat} {m m' m'' : Machine} (first : m.log.toList <+: m'.log.toList)
    (second : m'.log.toList <+: m''.log.toList) (above : StaysAbove floor m m'') :
    StaysAbove floor m m' ∧ StaysAbove floor m' m'' := by
  unfold StaysAbove at above ⊢
  rw [added_trans first second] at above
  exact ⟨fun n member => above n (List.mem_append_left _ member),
    fun n member => above n (List.mem_append_right _ member)⟩

/-- What a run that ends with a value or a guest error may have done to the machine: the settings
and the script path are unchanged, records were only added, yields only reached the innermost
sink, wrapped closures only advanced, and the frames below any depth that no depth record of the
run went under are still there, edited at most in place. -/
structure Evolves (m m' : Machine) : Prop where
  config : m'.config = m.config
  scriptPath : m'.stack.scriptPath = m.stack.scriptPath
  log : m.log.toList <+: m'.log.toList
  yields : m.yields.Extends m'.yields
  wrappers : WrappersAdvance m.wrappers m'.wrappers
  floor : ∀ floor, StaysAbove floor m m' → floor ≤ m.stack.depth →
    m.stack.KeepsBelow floor m'.stack

theorem Evolves.refl (m : Machine) : Evolves m m :=
  ⟨rfl, rfl, List.prefix_refl _, YieldCollector.Extends.refl _, WrappersAdvance.refl _,
    fun _ _ deep => CallStack.KeepsBelow.refl deep⟩

theorem Evolves.trans {m m' m'' : Machine} (first : Evolves m m') (second : Evolves m' m'') :
    Evolves m m'' := by
  refine ⟨second.config.trans first.config, second.scriptPath.trans first.scriptPath,
    first.log.trans second.log, first.yields.trans second.yields,
    first.wrappers.trans second.wrappers, fun floor above deep => ?_⟩
  obtain ⟨aboveFirst, aboveSecond⟩ := above.split first.log second.log
  have kept := first.floor floor aboveFirst deep
  exact kept.trans (second.floor floor aboveSecond kept.deep)

instance : Std.Refl Evolves := ⟨Evolves.refl⟩

instance : Trans Evolves Evolves Evolves := ⟨Evolves.trans⟩

theorem Evolves.of_quiet {m m' : Machine} (quiet : Quiet m m') : Evolves m m' := by
  obtain ⟨config, stack, yields, wrappers, more, log, plain⟩ := quiet
  refine ⟨config, by rw [stack], ⟨more, log.symm⟩, by rw [yields]; exact .refl _,
    by rw [wrappers]; exact .refl _, fun floor _ deep => ?_⟩
  rw [stack]
  exact CallStack.KeepsBelow.refl deep

theorem Evolves.of_stack {m : Machine} {s : CallStack} (scriptPath : s.scriptPath = m.stack.scriptPath)
    (kept : ∀ floor, floor ≤ m.stack.depth → m.stack.KeepsBelow floor s) :
    Evolves m { m with stack := s } :=
  ⟨rfl, scriptPath, List.prefix_refl _, .refl _, .refl _, fun floor _ deep => kept floor deep⟩

theorem Evolves.pushFrame (m : Machine) (frame : Frame) :
    Evolves m { m with stack := m.stack.push frame } :=
  Evolves.of_stack rfl fun _ deep => CallStack.KeepsBelow.push m.stack frame deep

theorem Evolves.modifyTop (m : Machine) {g : Frame → Frame} (edit : ∀ f : Frame, f.Edited (g f)) :
    Evolves m { m with stack := m.stack.modifyTop g } := by
  refine Evolves.of_stack ?_ fun _ deep => CallStack.KeepsBelow.modifyTop m.stack edit deep
  unfold CallStack.modifyTop
  split <;> rfl

/-- Recording a depth is a possible evolution: a run that records it goes under no floor above
that depth. -/
theorem Evolves.recordDepth (m : Machine) (n : Nat) :
    Evolves m { m with log := m.log.push (.depth n) } :=
  ⟨rfl, rfl, ⟨[.depth n], by simp⟩, .refl _, .refl _,
    fun _ _ deep => CallStack.KeepsBelow.refl deep⟩

theorem Evolves.popRecorded (m : Machine) :
    Evolves m { m with stack := m.stack.pop, log := m.log.push (.depth m.stack.pop.depth) } := by
  refine ⟨rfl, rfl, ⟨[.depth m.stack.pop.depth], by simp⟩, .refl _, .refl _,
    fun floor above _ => ?_⟩
  have recorded := above m.stack.pop.depth (by simp [added])
  exact CallStack.KeepsBelow.pop m.stack recorded

/-- A call pushes its callee's frame, runs the callee and cuts the stack back to the depth it
started at. Whatever the callee did, the outcome is an evolution of the machine before the push:
no frame below the call's depth is lost unless the callee's own records say it went lower. -/
theorem Evolves.unwind {m m' : Machine} {frame : Frame}
    (body : Evolves { m with stack := m.stack.push frame } m') :
    Evolves m { m' with stack := m'.stack.unwindTo m.stack.depth } := by
  refine ⟨body.config, body.scriptPath, body.log, body.yields, body.wrappers,
    fun floor above deep => ?_⟩
  have pushed := CallStack.KeepsBelow.push m.stack frame deep
  have kept := body.floor floor above pushed.deep
  exact (pushed.trans kept).trans (CallStack.KeepsBelow.unwindTo m'.stack deep kept.deep)

/-- A wrapped run installs a fresh sink, runs, and removes the sink again: the collector comes
back exactly as it was. -/
theorem Evolves.withSink {m m' : Machine} (body : Evolves { m with yields := m.yields.install } m') :
    m'.yields.remove.2 = m.yields ∧ Evolves m { m' with yields := m'.yields.remove.2 } := by
  obtain ⟨added, removed⟩ := YieldCollector.remove_of_extends_install body.yields
  rw [removed]
  exact ⟨rfl, body.config, body.scriptPath, body.log, .refl _, body.wrappers, body.floor⟩

theorem Evolves.divert {m : Machine} {c : YieldCollector} {args : List Value}
    (diverted : m.yields.divert args = .ok c) : Evolves m { m with yields := c } :=
  ⟨rfl, rfl, List.prefix_refl _, YieldCollector.divert_extends diverted, .refl _,
    fun _ _ deep => CallStack.KeepsBelow.refl deep⟩

theorem Evolves.newWrapper (m : Machine) (target : Value) :
    Evolves m { m with wrappers := m.wrappers.push { target } } :=
  ⟨rfl, rfl, List.prefix_refl _, .refl _, WrappersAdvance.push _ _,
    fun _ _ deep => CallStack.KeepsBelow.refl deep⟩

theorem Evolves.restart {m m' : Machine} {w : Nat} {st : WrapState} {g : WrapState → WrapState}
    (run : Evolves m m') (found : m.wrappers[w]? = some st) (unstarted : st.started = false)
    (target : ∀ s, (g s).target = s.target)
    (started : ∀ s, m'.wrappers[w]? = some s → (g s).started = true) :
    Evolves m { m' with wrappers := m'.wrappers.modify w g } := by
  refine ⟨run.config, run.scriptPath, run.log, run.yields, ⟨fun v sv found' => ?_,
    fun v sv found' missing => ?_⟩, run.floor⟩
  · obtain ⟨sv', later, advanced⟩ := run.wrappers.old v sv found'
    simp only [Array.getElem?_modify]
    split
    · rename_i same
      subst same
      rw [found] at found'
      cases found'
      refine ⟨g sv', by simp [later], ?_⟩
      exact WrapState.Advances.of_unstarted unstarted ((target sv').trans advanced.target)
        (started sv' later)
    · exact ⟨sv', later, advanced⟩
  · simp only [Array.getElem?_modify] at found'
    split at found'
    · rename_i same
      subst same
      simp [found] at missing
    · exact run.wrappers.new v sv found' missing

theorem Evolves.modifyWrap {m : Machine} {w : Nat} {g : WrapState → WrapState}
    (step : ∀ st, m.wrappers[w]? = some st → st.Advances (g st)) :
    Evolves m { m with wrappers := m.wrappers.modify w g } :=
  ⟨rfl, rfl, List.prefix_refl _, .refl _, WrappersAdvance.modify step,
    fun _ _ deep => CallStack.KeepsBelow.refl deep⟩

theorem Evolves.markStarted (m : Machine) (w : Nat)
    (unstarted : ∀ st, m.wrappers[w]? = some st → st.started = false) :
    Evolves m { m with wrappers := m.wrappers.modify w fun s => { s with started := true } } :=
  Evolves.modifyWrap fun st found => WrapState.Advances.of_unstarted (unstarted st found) rfl rfl

/-- A closure marked started stays started over any run, so once the run is over it may be given
the records of that run: against the machine before it started, that is one advance. -/
theorem Evolves.recordFirstRun {m m' : Machine} {w : Nat} {st : WrapState}
    {g : WrapState → WrapState} (found : m.wrappers[w]? = some st) (unstarted : st.started = false)
    (run : Evolves { m with wrappers := m.wrappers.modify w fun s => { s with started := true } } m')
    (target : ∀ s, (g s).target = s.target) (keepsStarted : ∀ s, (g s).started = s.started) :
    Evolves m { m' with wrappers := m'.wrappers.modify w g } := by
  have start := Evolves.markStarted m w fun s same => by
    rw [found] at same
    cases same
    exact unstarted
  refine Evolves.restart (start.trans run) found unstarted target fun later foundLater => ?_
  have marked : (m.wrappers.modify w fun s => { s with started := true })[w]? =
      some { st with started := true } := by
    simp [Array.getElem?_modify, found]
  obtain ⟨after, foundAfter, advanced⟩ := run.wrappers.old w _ marked
  rw [foundLater] at foundAfter
  cases foundAfter
  rw [keepsStarted]
  exact (advanced.started rfl).1

end Machine

end LuaIntrospect
