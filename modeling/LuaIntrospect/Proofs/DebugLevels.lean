import Mathlib
import LuaIntrospect.Proofs.Inspection
import LuaIntrospect.Proofs.LinePositions

/-! Levels of `debug.getinfo` and `debug.getlocal`: level `L` names the frame at stack level
`L + 1`. Main statement: `debug_levels_name_frames`. -/
namespace LuaIntrospect

/-- What running code does to the newest frame that the `debug` entries can see: set its line,
set its position in a source text, or declare a local. -/
inductive FrameEdit where
  | line (n : UInt32)
  | position (offset : Nat) (source : String)
  | declare (name : String) (v : Value)

namespace FrameEdit

/-- One edit, as the frame takes it. -/
def apply : FrameEdit → Frame → Frame
  | line n, f => f.setLine n
  | position offset source, f => f.setPosition offset (LineIndex.ofString source)
  | declare name v, f => f.declareLocal name v

/-- Edits in order. -/
def applyAll (edits : List FrameEdit) (f : Frame) : Frame := edits.foldl (fun f e => e.apply f) f

/-- The line an edit records, if it records one: a set line, none for line 0, or the line of a
position saturated to 32 bits. -/
def recorded? : FrameEdit → Option (Option UInt32)
  | line n => some (if n = 0 then none else some n)
  | position offset source =>
    some (some (min ((LineIndex.ofString source).lineCol offset).1 4294967295).toUInt32)
  | declare _ _ => none

/-- The local an edit declares, if it declares one. -/
def declared? : FrameEdit → Option (String × Value)
  | declare name v => some (name, v)
  | _ => none

@[simp] theorem applyAll_nil (f : Frame) : applyAll [] f = f := rfl

@[simp] theorem applyAll_cons (e : FrameEdit) (edits : List FrameEdit) (f : Frame) :
    applyAll (e :: edits) f = applyAll edits (e.apply f) := rfl

theorem line_apply (e : FrameEdit) (f : Frame) : (e.apply f).line = e.recorded?.getD f.line := by
  cases e with
  | line n => simp [apply, recorded?, Frame.setLine]
  | position offset source => simp [apply, recorded?, Frame.setPosition_ofString]
  | declare name v => rfl

theorem locals_apply (e : FrameEdit) (f : Frame) :
    (e.apply f).locals = f.locals ++ e.declared?.toList.toArray := by
  cases e <;> simp [apply, declared?, Frame.setLine, Frame.setPosition_ofString, Frame.declareLocal]

theorem line_applyAll (edits : List FrameEdit) (f : Frame) :
    (applyAll edits f).line = ((edits.filterMap recorded?).getLast?).getD f.line := by
  induction edits generalizing f with
  | nil => rfl
  | cons e rest ih =>
    rw [applyAll_cons, ih, line_apply]
    -- a later record hides this edit's; without one, this edit's record stands
    cases later : (rest.filterMap recorded?).getLast? with
    | some r =>
      rw [List.filterMap_cons]
      cases e.recorded? <;> simp [List.getLast?_cons, later]
    | none =>
      have empty : rest.filterMap recorded? = [] := List.getLast?_eq_none_iff.mp later
      rw [Option.getD_none, List.filterMap_cons, empty]
      cases e.recorded? <;> simp

theorem locals_applyAll (edits : List FrameEdit) (f : Frame) :
    (applyAll edits f).locals = f.locals ++ (edits.filterMap declared?).toArray := by
  induction edits generalizing f with
  | nil => simp
  | cons e rest ih =>
    rw [applyAll_cons, ih, locals_apply, List.filterMap_cons]
    cases e.declared? <;> simp

end FrameEdit

namespace Library

theorem frameForLevel_eq (s : CallStack) (L : Int64) :
    frameForLevel s L =
      if 0 ≤ L.toInt ∧ L.toInt < s.depth ∧ L.toInt + 1 < 2 ^ 63 then s.frameAt? (L.toInt.toNat + 1)
      else none := by
  have word := Int64.toInt_lt L
  have bound : (2 : Int) ^ 63 = 9223372036854775808 := by norm_num
  delta frameForLevel stackLevel
  show (if L.toInt + 1 < 0 ∨ L.toInt + 1 ≥ 2 ^ 63 then none else some (L.toInt + 1).toNat).bind
    s.frameAt? = _
  rw [bound] at word ⊢
  by_cases named : 0 ≤ L.toInt ∧ L.toInt < s.depth ∧ L.toInt + 1 < 9223372036854775808
  · rw [if_neg (by omega), if_pos named, Option.bind_some,
      show (L.toInt + 1).toNat = L.toInt.toNat + 1 by omega]
  · rw [if_neg named]
    split
    · rfl
    · -- level `-1` names level 0, which is no frame; the others lie past the stack
      rw [Option.bind_some, CallStack.frameAt?, if_pos (by omega)]

theorem frameAt?_isSome (s : CallStack) {l : Nat} (positive : 1 ≤ l) (within : l ≤ s.depth) :
    (s.frameAt? l).isSome := by
  unfold CallStack.depth at within
  rw [CallStack.frameAt?_of_index s positive within, Array.getElem?_eq_getElem (by
    unfold CallStack.depth
    omega)]
  rfl

theorem frameForLevel_orElse_top (s : CallStack) (L : Int64) :
    (frameForLevel s L).orElse (fun _ => s.top?) =
      if 0 ≤ L.toInt ∧ L.toInt < s.depth ∧ L.toInt + 1 < 2 ^ 63 then s.frameAt? (L.toInt.toNat + 1)
      else s.top? := by
  rw [frameForLevel_eq]
  split
  · rename_i named
    have within : L.toInt.toNat + 1 ≤ s.depth := by
      have := Int.toNat_of_nonneg named.1
      omega
    obtain ⟨f, found⟩ := Option.isSome_iff_exists.mp (frameAt?_isSome s (by omega) within)
    rw [found]
    rfl
  · rfl

theorem frameForLevel_local? (s : CallStack) (L i : Int64) :
    (frameForLevel s L).bind (·.local? i.toInt) =
      if 0 ≤ L.toInt ∧ L.toInt < s.depth ∧ L.toInt + 1 < 2 ^ 63 ∧ 1 ≤ i.toInt then
        (s.frameAt? (L.toInt.toNat + 1)).bind fun f => f.locals[(i.toInt - 1).toNat]?
      else none := by
  rw [frameForLevel_eq]
  by_cases named : 0 ≤ L.toInt ∧ L.toInt < s.depth ∧ L.toInt + 1 < 2 ^ 63
  · rw [if_pos named]
    by_cases positive : 1 ≤ i.toInt
    · rw [if_pos ⟨named.1, named.2.1, named.2.2, positive⟩]
      simp [Frame.local?, show ¬i.toInt < 1 by omega]
    · rw [if_neg (fun all : _ ∧ _ ∧ _ ∧ _ => positive all.2.2.2)]
      cases s.frameAt? (L.toInt.toNat + 1) <;> simp [Frame.local?, show i.toInt < 1 by omega]
  · rw [if_neg named, if_neg (fun all : _ ∧ _ ∧ _ ∧ _ => named ⟨all.1, all.2.1, all.2.2.1⟩)]
    rfl

end Library

namespace Exec

open Library

/-- The arguments after a `getinfo` target ask for the options `o`: its `what` string reads as
`o`, or it is missing or `nil` and every field group reads as `o`. -/
def AsksFor (rest : List Value) (o : InfoOptions) : Prop :=
  ((rest.head? = none ∨ rest.head? = some .nil) ∧ InfoOptions.parse? InfoOptions.all = some o) ∨
    ∃ what, rest.head? = some (.str what) ∧ InfoOptions.parse? what = some o

theorem skipThread_level {target : Value} {L : Int64} (isLevel : target.asInteger? = some L)
    (rest : List Value) : skipThread (target :: rest) = target :: rest := by
  cases target <;> simp_all [skipThread, Value.asInteger?]

theorem getinfo_level (m : Machine) {target : Value} {L : Int64}
    (isLevel : target.asInteger? = some L) {rest : List Value} {o : InfoOptions}
    (asked : AsksFor rest o) :
    callBuiltin .getinfo (target :: rest) m =
      (do
        let v ← infoTable ((((frameForLevel m.stack L).orElse fun _ => m.stack.top?).map
          fun f => DebugInfo.forFrame f m.stack.scriptPath o).getD (DebugInfo.nativeDefaults o))
        pure [v]) m := by
  have notFunction : ∀ g, target ≠ .func g := by
    intro g same
    simp [same, Value.asInteger?] at isLevel
  have skipped := skipThread_level isLevel rest
  cases target <;> simp only [Value.asInteger?, reduceCtorEq] at isLevel
  all_goals
    rcases asked with ⟨missing | none, parsed⟩ | ⟨s, given, parsed⟩ <;>
      simp_all [callBuiltin, getinfo, Value.asInteger?, List.head?_eq_getElem?, bind, EStateM.bind,
        get, getThe, MonadStateOf.get, EStateM.get, pure, EStateM.pure] <;>
      cases (frameForLevel m.stack L).or m.stack.top? <;> rfl

theorem getlocal_level (m : Machine) {levelArg indexArg : Value} {L i : Int64}
    (isLevel : levelArg.asInteger? = some L) (isIndex : indexArg.asInteger? = some i)
    (rest : List Value) :
    callBuiltin .getlocal (levelArg :: indexArg :: rest) m =
      .ok (((frameForLevel m.stack L).bind (·.local? i.toInt)).elim [.nil, .nil]
        fun p => [.str p.1, p.2]) m := by
  have notFunction : ∀ g, levelArg ≠ .func g := by
    rintro g rfl
    simp [Value.asInteger?] at isLevel
  have level : optInteger (levelArg :: indexArg :: rest) 0 = some L := isLevel
  have index : optInteger (levelArg :: indexArg :: rest) 1 = some i := isIndex
  simp only [callBuiltin, getlocal, skipThread_level isLevel, List.head?_cons, level, index]
  -- only a function as first argument answers otherwise, and a level is none
  cases levelArg
  case func g => exact absurd rfl (notFunction g)
  all_goals
    cases found : (frameForLevel m.stack L).bind (·.local? i.toInt) <;>
      simp [found, bind, EStateM.bind, get, getThe, MonadStateOf.get, EStateM.get, pure,
        EStateM.pure]

theorem getinfo_thread (t : UInt32) {args : List Value} (unthreaded : skipThread args = args) :
    callBuiltin .getinfo (.thread t :: args) = callBuiltin .getinfo args := by
  have dropped : skipThread (.thread t :: args) = args := rfl
  simp only [callBuiltin, getinfo, dropped, unthreaded]

theorem getlocal_thread (t : UInt32) {args : List Value} (unthreaded : skipThread args = args) :
    callBuiltin .getlocal (.thread t :: args) = callBuiltin .getlocal args := by
  have dropped : skipThread (.thread t :: args) = args := rfl
  simp only [callBuiltin, getlocal, dropped, unthreaded]

end Exec

namespace DebugInfo

@[simp] theorem currentline_withName (i : DebugInfo) (name : Option String) :
    (i.withName name).currentline = i.currentline := rfl

@[simp] theorem currentline_withSource (i : DebugInfo) (what : String) (chunk : ChunkSource) :
    (i.withSource what chunk).currentline = i.currentline := rfl

@[simp] theorem currentline_withConstants (i : DebugInfo) (o : InfoOptions) :
    (i.withConstants o).currentline = i.currentline := by
  unfold withConstants
  split <;> split <;> rfl

theorem currentline_forFrame (f : Frame) (fallback : Option String) (o : InfoOptions) :
    (forFrame f fallback o).currentline =
      if o.line then some (f.line.elim untrackedLine fun l => (l.toNat : Int)) else none := by
  -- the other field groups leave the current line as the empty record has it
  cases line : f.line <;> by_cases hl : o.line <;>
    simp [forFrame, hl, line, apply_ite DebugInfo.currentline]

end DebugInfo

open Exec Library in
/-- The levels of the `debug` entries on any stack, the entry's own frame included when it is
called through the runtime. A level `L`, an integer or a float with an integer value, makes
`getinfo` describe the frame at stack level `L + 1` when `0 ≤ L < depth` and `L + 1` fits a
64-bit word, the newest frame for every other level, and host code on an empty stack. The current
line it shows is the one last recorded on the frame, or `-1` when none was or it was cleared.
`getlocal` of a level and an index gives the local at that 1-based index of the same frame, the
locals being every declaration in order, or two `nil`s; it never fails and changes nothing. A
leading thread argument changes neither entry. -/
theorem debug_levels_name_frames :
    (∀ (m : Machine) (pre : List Value), (pre = [] ∨ ∃ t, pre = [.thread t]) →
      ∀ (target : Value) (L : Int64), target.asInteger? = some L →
      ∀ (rest : List Value) (o : InfoOptions), AsksFor rest o →
        callBuiltin .getinfo (pre ++ target :: rest) m =
          (do
            let v ← infoTable ((((if 0 ≤ L.toInt ∧ L.toInt < m.stack.depth ∧ L.toInt + 1 < 2 ^ 63
                then m.stack.frameAt? (L.toInt.toNat + 1) else m.stack.top?)).map
              fun f => DebugInfo.forFrame f m.stack.scriptPath o).getD (DebugInfo.nativeDefaults o))
            pure [v]) m) ∧
    (∀ (f : Frame) (edits : List FrameEdit) (fallback : Option String) (o : InfoOptions),
      (DebugInfo.forFrame (FrameEdit.applyAll edits f) fallback o).currentline =
        if o.line then
          some ((((edits.filterMap FrameEdit.recorded?).getLast?).getD f.line).elim untrackedLine
            fun l => (l.toNat : Int))
        else none) ∧
    (∀ (m : Machine) (pre : List Value), (pre = [] ∨ ∃ t, pre = [.thread t]) →
      ∀ (levelArg indexArg : Value) (L i : Int64), levelArg.asInteger? = some L →
        indexArg.asInteger? = some i → ∀ rest : List Value,
        callBuiltin .getlocal (pre ++ levelArg :: indexArg :: rest) m =
          .ok ((if 0 ≤ L.toInt ∧ L.toInt < m.stack.depth ∧ L.toInt + 1 < 2 ^ 63 ∧ 1 ≤ i.toInt then
              (m.stack.frameAt? (L.toInt.toNat + 1)).bind fun f => f.locals[(i.toInt - 1).toNat]?
            else none).elim [.nil, .nil] fun p => [.str p.1, p.2]) m) ∧
    (∀ (f : Frame) (edits : List FrameEdit),
      (FrameEdit.applyAll edits f).locals = f.locals ++ (edits.filterMap FrameEdit.declared?).toArray) := by
  refine ⟨?_, ?_, ?_, fun f edits => FrameEdit.locals_applyAll edits f⟩
  · rintro m pre threaded target L isLevel rest o asked
    have unthreaded := skipThread_level isLevel rest
    rcases threaded with rfl | ⟨t, rfl⟩
    · rw [List.nil_append, getinfo_level m isLevel asked, frameForLevel_orElse_top]
    · rw [List.singleton_append, getinfo_thread t unthreaded, getinfo_level m isLevel asked,
        frameForLevel_orElse_top]
  · intro f edits fallback o
    rw [DebugInfo.currentline_forFrame, FrameEdit.line_applyAll]
  · rintro m pre threaded levelArg indexArg L i isLevel isIndex rest
    have unthreaded := skipThread_level isLevel (indexArg :: rest)
    rcases threaded with rfl | ⟨t, rfl⟩
    · rw [List.nil_append, getlocal_level m isLevel isIndex rest, frameForLevel_local?]
    · rw [List.singleton_append, getlocal_thread t unthreaded, getlocal_level m isLevel isIndex rest,
        frameForLevel_local?]

/-- A stack of two frames: `main`, then `update` on top with one local `x = 5`. -/
def twoFrames : Machine :=
  { stack := { frames := #[{ name := some "main" }, { name := some "update", locals := #[("x", .int 5)] }] } }

/-- On two frames, `getinfo` at level 1 describes `main`, the frame below the newest, and at
level 7, past the stack, falls back to the newest frame `update`; level 0 behind a thread
argument and index 1 give `update`'s first local. -/
theorem debug_levels_on_two_frames :
    (∃ o, Exec.AsksFor [.str "n"] o ∧ (Value.int 1).asInteger? = some 1 ∧
      (Value.int 7).asInteger? = some 7 ∧
      Exec.callBuiltin .getinfo [.int 1, .str "n"] twoFrames =
        (do
          let v ← Exec.infoTable (DebugInfo.forFrame { name := some "main" } none o)
          pure [v]) twoFrames ∧
      Exec.callBuiltin .getinfo [.int 7, .str "n"] twoFrames =
        (do
          let v ← Exec.infoTable (DebugInfo.forFrame
            { name := some "update", locals := #[("x", .int 5)] } none o)
          pure [v]) twoFrames) ∧
    ((∃ t, [Value.thread 0] = [.thread t]) ∧ (Value.int 0).asInteger? = some 0 ∧
        (Value.int 1).asInteger? = some 1) ∧
      Exec.callBuiltin .getlocal [.thread 0, .int 0, .int 1] twoFrames =
        .ok [.str "x", .int 5] twoFrames := by
  obtain ⟨o, parsed⟩ : ∃ o, InfoOptions.parse? "n" = some o := ⟨_, rfl⟩
  have asked : Exec.AsksFor [.str "n"] o := .inr ⟨"n", rfl, parsed⟩
  have getinfo := debug_levels_name_frames.1 twoFrames [] (.inl rfl)
  refine ⟨⟨o, asked, rfl, rfl, ?_, ?_⟩, ⟨⟨0, rfl⟩, rfl, rfl⟩, ?_⟩
  · rw [show [Value.int 1, .str "n"] = [] ++ .int 1 :: [.str "n"] from rfl,
      getinfo (.int 1) 1 rfl [.str "n"] o asked]
    rfl
  · rw [show [Value.int 7, .str "n"] = [] ++ .int 7 :: [.str "n"] from rfl,
      getinfo (.int 7) 7 rfl [.str "n"] o asked]
    rfl
  · rw [show [Value.thread 0, .int 0, .int 1] = [.thread 0] ++ .int 0 :: .int 1 :: [] from rfl,
      debug_levels_name_frames.2.2.1 _ [.thread 0] (.inr ⟨0, rfl⟩) (.int 0) (.int 1) 0 1 rfl rfl []]
    rfl

end LuaIntrospect
