import Mathlib
import LuaIntrospect.Proofs.SnapshotReading
import LuaIntrospect.Inspector.Command

/-! Loading a snapshot. Main statement: `loadMachine_snapshot`. -/
namespace LuaIntrospect

namespace Exec

/-- Every run of `x` succeeds and relates its first and last machines by `R`. -/
def Runs (R : Machine → Machine → Prop) {α : Type} (x : Exec α) : Prop :=
  ∀ m, ∃ a m', x m = .ok a m' ∧ R m m'

variable {R : Machine → Machine → Prop} {α β γ : Type}

theorem Runs.pure [Std.Refl R] (a : α) : Runs R (Pure.pure a : Exec α) :=
  fun m => ⟨a, m, rfl, Std.Refl.refl m⟩

theorem Runs.bind [Trans R R R] {x : Exec α} {f : α → Exec β} (first : Runs R x)
    (rest : ∀ a, Runs R (f a)) : Runs R (x >>= f) := by
  intro m
  obtain ⟨a, m₁, run₁, rel₁⟩ := first m
  obtain ⟨b, m₂, run₂, rel₂⟩ := rest a m₁
  exact ⟨b, m₂, by simp [Bind.bind, EStateM.bind, run₁, run₂], Trans.trans rel₁ rel₂⟩

theorem Runs.modifyGet {g : Machine → α × Machine} (step : ∀ m, R m (g m).2) :
    Runs R (modifyGet g : Exec α) :=
  fun m => ⟨(g m).1, (g m).2, rfl, step m⟩

theorem Runs.forIn [Std.Refl R] [Trans R R R] {l : List γ} {b : β}
    {f : γ → β → Exec (ForInStep β)} (body : ∀ a ∈ l, ∀ b, Runs R (f a b)) :
    Runs R (ForIn.forIn l b f) := by
  induction l generalizing b with
  | nil => exact Runs.pure b
  | cons a rest ih =>
    rw [List.forIn_cons]
    refine (body a List.mem_cons_self b).bind fun step => ?_
    cases step with
    | done b => exact Runs.pure b
    | yield b => exact ih fun a' mem => body a' (List.mem_cons_of_mem a mem)

/-- Only the upvalue cells change. -/
def CellsOnly (m m' : Machine) : Prop := m' = { m with cells := m'.cells }

theorem CellsOnly.trans {m m' m'' : Machine} (first : CellsOnly m m') (second : CellsOnly m' m'') :
    CellsOnly m m'' := by
  unfold CellsOnly at *
  calc m'' = { m' with cells := m''.cells } := second
    _ = { m with cells := m''.cells } := by rw [first]

theorem CellsOnly.allocCell (m : Machine) (v : Value) : CellsOnly m (m.allocCell v).2 := rfl

instance : Std.Refl CellsOnly := ⟨fun _ => rfl⟩

instance : Trans CellsOnly CellsOnly CellsOnly := ⟨CellsOnly.trans⟩

theorem eval_literal {e : Expr} (lit : e.IsLiteral) : Runs CellsOnly (eval none e) := by
  obtain ⟨l, rfl⟩ := lit
  exact Runs.pure l.toValue

theorem buildFrame_literal {spec : FrameSpec} (lit : spec.Literal) :
    Runs CellsOnly (buildFrame none spec) := by
  unfold buildFrame
  refine (Runs.forIn fun entry mem frame => ?_).bind fun frame => ?_
  · exact (eval_literal (lit.1 entry mem)).bind fun _ => Runs.pure _
  · split
    · exact Runs.pure _
    · rename_i ups given
      refine (Runs.forIn fun upvalue mem cells => ?_).bind fun _ => Runs.pure _
      exact (eval_literal (lit.2 ups given upvalue mem)).bind fun v =>
        Runs.bind (Runs.modifyGet fun m => CellsOnly.allocCell m v) fun _ => Runs.pure _

end Exec

/-- A snapshot frame builds a frame: some run of the frame builder on it gives that frame. -/
def FrameSpec.Builds (spec : FrameSpec) (f : Frame) : Prop :=
  ∃ m m', Exec.buildFrame none spec m = .ok f m'

namespace Inspector

open Exec

theorem install_nil : install {} = pure () := rfl

theorem install_cons (spec : FrameSpec) (specs : List FrameSpec) :
    install { frames := spec :: specs } = (do
      let frame ← buildFrame none spec
      modifyStack (·.push frame)
      install { frames := specs }) := by
  simp [install, List.forIn_cons]

theorem install_scriptPath (snap : StackSnapshot) :
    install snap = (do
      modifyStack fun s => { s with scriptPath := snap.scriptPath.orElse fun _ => s.scriptPath }
      install { frames := snap.frames }) := by
  funext m
  obtain ⟨path, frames⟩ := snap
  cases path with
  | none => rfl
  | some p => rfl

/-- What installing frames leaves: the frames pushed on the stack, and the settings, tables and
globals as they were. -/
structure Pushed (built : List Frame) (m m' : Machine) : Prop where
  frames : m'.stack.frames = m.stack.frames ++ built.toArray
  scriptPath : m'.stack.scriptPath = m.stack.scriptPath
  config : m'.config = m.config
  tables : m'.tables = m.tables
  globals : m'.globals = m.globals

theorem Pushed.nil (m : Machine) : Pushed [] m m :=
  ⟨by simp, rfl, rfl, rfl, rfl⟩

theorem Pushed.cons {m m₁ m' : Machine} {frame : Frame} {rest : List Frame}
    (cellsOnly : CellsOnly m m₁)
    (pushed : Pushed rest { m₁ with stack := m₁.stack.push frame } m') :
    Pushed (frame :: rest) m m' := by
  rw [cellsOnly] at pushed
  refine ⟨?_, pushed.scriptPath, pushed.config, pushed.tables, pushed.globals⟩
  rw [pushed.frames]
  simp [CallStack.push]

theorem modifyStack_run (g : CallStack → CallStack) (m : Machine) :
    modifyStack g m = .ok () { m with stack := g m.stack } := rfl

theorem install_frames (specs : List FrameSpec) (lits : ∀ spec ∈ specs, spec.Literal)
    (m : Machine) :
    ∃ built m', install { frames := specs } m = .ok () m' ∧ Pushed built m m' ∧
      List.Forall₂ FrameSpec.Builds specs built := by
  induction specs generalizing m with
  | nil => exact ⟨[], m, by rw [install_nil]; rfl, Pushed.nil m, .nil⟩
  | cons spec specs ih =>
    obtain ⟨frame, m₁, built, cellsOnly⟩ := buildFrame_literal (lits spec List.mem_cons_self) m
    have later : ∀ s ∈ specs, s.Literal := fun s mem => lits s (List.mem_cons_of_mem spec mem)
    obtain ⟨rest, m', run, pushed, builds⟩ := ih later { m₁ with stack := m₁.stack.push frame }
    refine ⟨frame :: rest, m', ?_, pushed.cons cellsOnly, .cons ⟨m, m₁, built⟩ builds⟩
    rw [install_cons]
    simp only [Bind.bind, EStateM.bind, built, modifyStack_run]
    exact run

theorem install_literal {snap : StackSnapshot} (lits : ∀ spec ∈ snap.frames, spec.Literal)
    (m : Machine) :
    ∃ built m', install snap m = .ok () m' ∧
      Pushed built { m with stack := { m.stack with
        scriptPath := snap.scriptPath.orElse fun _ => m.stack.scriptPath } } m' ∧
      List.Forall₂ FrameSpec.Builds snap.frames built := by
  obtain ⟨built, m', run, pushed, builds⟩ := install_frames snap.frames lits
    { m with stack := { m.stack with
      scriptPath := snap.scriptPath.orElse fun _ => m.stack.scriptPath } }
  refine ⟨built, m', ?_, pushed, builds⟩
  rw [install_scriptPath]
  simp only [Bind.bind, EStateM.bind, modifyStack_run]
  exact run

/-- The settings a command runs with: the defaults when it names no settings file, else what the
file's text reads as. -/
def SettingsRead (inv : Invocation) (configSource : Source) (cfg : Config) : Prop :=
  match inv.config with
  | none => cfg = {}
  | some _ => ∃ text, configSource = .ok text ∧ Ron.readAll config text = .ok cfg

theorem boot_stack (cfg : Config) : (Machine.boot cfg).stack = { scriptPath := cfg.scriptPath } :=
  rfl

/-- A machine holding a snapshot: a fresh machine for the settings, the snapshot's script path in
place of the configured one when given, and one built frame per snapshot frame, oldest first. -/
structure Loaded (cfg : Config) (snap : StackSnapshot) (m : Machine) : Prop where
  builds : List.Forall₂ FrameSpec.Builds snap.frames m.stack.frames.toList
  scriptPath : m.stack.scriptPath = snap.scriptPath.orElse fun _ => cfg.scriptPath
  config : m.config = cfg
  tables : m.tables = (Machine.boot cfg).tables
  globals : m.globals = (Machine.boot cfg).globals

theorem Loaded.depth {cfg : Config} {snap : StackSnapshot} {m : Machine}
    (loaded : Loaded cfg snap m) : m.stack.depth = snap.frames.length := by
  simpa [CallStack.depth] using loaded.builds.length_eq.symm

/-- A snapshot text that reads loads, under settings that read: its frames are literal, so
installing them cannot fail. -/
theorem loadMachine_snapshot {inv : Invocation} {configSource : Source} {cfg : Config}
    {text : String} {snap : StackSnapshot} (settings : SettingsRead inv configSource cfg)
    (read : Ron.readAll snapshot text = .ok snap) :
    ∃ m, loadMachine inv configSource (.ok text) = .ok m ∧ Loaded cfg snap m := by
  obtain ⟨built, m, run, pushed, builds⟩ :=
    install_literal (snapshot_frames_literal read) (Machine.boot cfg)
  have frames : m.stack.frames.toList = built := by
    rw [pushed.frames]
    simp [boot_stack]
  refine ⟨m, ?_, ⟨frames ▸ builds, pushed.scriptPath, pushed.config, pushed.tables, pushed.globals⟩⟩
  unfold loadMachine
  cases named : inv.config with
  | none =>
    have defaults : cfg = {} := by simpa [SettingsRead, named] using settings
    subst defaults
    simp only [Except.mapError, readRon, read, run, bind, Except.bind, pure, Except.pure]
  | some path =>
    obtain ⟨source, rfl, configured⟩ :
        ∃ source, configSource = .ok source ∧ Ron.readAll config source = .ok cfg := by
      simpa [SettingsRead, named] using settings
    simp only [Except.mapError, readRon, read, configured, run, bind, Except.bind, pure,
      Except.pure]

end Inspector

end LuaIntrospect
