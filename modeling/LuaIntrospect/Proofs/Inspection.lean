import Mathlib
import LuaIntrospect.Proofs.SnapshotLoading
import LuaIntrospect.Proofs.Calls

/-! The inspector's commands on a loaded snapshot. Main statement: `snapshot_levels_newest_first`. -/
namespace LuaIntrospect

namespace CallStack

theorem newestFirst_length (s : CallStack) : s.newestFirst.length = s.depth := by
  simp [newestFirst, depth]

theorem newestFirst_push (s : CallStack) (f : Frame) :
    (s.push f).newestFirst = f :: s.newestFirst := by
  simp [push, newestFirst]

theorem scriptPath_push (s : CallStack) (f : Frame) : (s.push f).scriptPath = s.scriptPath := rfl

theorem unwindTo_push (s : CallStack) (f : Frame) : (s.push f).unwindTo s.depth = s := by
  simp [push, unwindTo, depth]

theorem frameAt?_eq_newestFirst (s : CallStack) (l : Nat) :
    s.frameAt? l = if l = 0 then none else s.newestFirst[l - 1]? := by
  unfold frameAt? newestFirst depth
  split
  · rename_i outside
    split
    · rfl
    · rw [List.getElem?_eq_none (by simp; omega)]
  · rename_i inside
    rw [if_neg (by omega), List.getElem?_reverse (by simp; omega)]
    simp only [Array.length_toList, Array.getElem?_toList]
    congr 1
    omega

theorem frameAt?_of_index (s : CallStack) {l : Nat} (positive : 1 ≤ l) (within : l ≤ s.depth) :
    s.frameAt? l = s.frames[s.depth - l]? := by
  rw [frameAt?, if_neg (by omega)]

end CallStack

namespace Library

theorem stackLevel_ofNat {l : Nat} (small : l < 9223372036854775807) :
    stackLevel (Int64.ofNat l) = some (l + 1) := by
  unfold stackLevel
  rw [Int64.toInt_ofNat_of_lt (by omega), if_neg (by omega)]
  rfl

theorem frameForLevel_push (s : CallStack) (f : Frame) {l : Nat} (small : l < 9223372036854775807) :
    frameForLevel (s.push f) (Int64.ofNat l) = if l = 0 then some f else s.newestFirst[l - 1]? := by
  rw [frameForLevel, stackLevel_ofNat small, Option.bind_some, CallStack.frameAt?_eq_newestFirst,
    if_neg (by omega), CallStack.newestFirst_push]
  cases l <;> simp

end Library

namespace Exec

theorem signature_builtin (m : Machine) (b : Builtin) : m.signature (.builtin b) = .native b.name :=
  rfl

theorem enter_builtin (fuel : Nat) (b : Builtin) (args : List Value) :
    enter (fuel + 1) (.builtin b) args = callBuiltin b args := by
  simp [enter]

theorem callFunction_answering (fuel : Nat) {b : Builtin} {args : List Value} {m : Machine}
    {vs : List Value} (room : m.stack.depth < m.config.maxCallDepth)
    (answers : callBuiltin b args
      { m with stack := m.stack.push (Frame.forFunction (.native b.name)) } =
      .ok vs { m with stack := m.stack.push (Frame.forFunction (.native b.name)) }) :
    callFunction (fuel + 3) (.func (.builtin b)) args m = .ok vs m := by
  rw [callFunction_succ, invoke_func, if_neg (by omega), enter_builtin, signature_builtin, answers]
  simp [finishCall, CallStack.unwindTo_push]

theorem callFunction_full (fuel : Nat) (b : Builtin) (args : List Value) {m : Machine}
    (full : m.config.maxCallDepth ≤ m.stack.depth) :
    callFunction (fuel + 2) (.func (.builtin b)) args m =
      .error (.error (.raise "stack overflow")) m := by
  rw [callFunction_succ, invoke_func, if_pos full]
  rfl

end Exec

namespace Inspector

open Exec

theorem filterMap_range_getElem? {δ ε : Type} (l : List δ) (g : Nat → δ → ε) :
    (List.range l.length).filterMap (fun k => l[k]?.map (g k)) =
      l.zipIdx.map fun p => g p.2 p.1 := by
  induction l using List.reverseRecOn with
  | nil => rfl
  | append_singleton l a ih =>
    rw [List.length_append, List.length_singleton, List.range_succ, List.filterMap_append,
      List.zipIdx_append, List.map_append, ← ih]
    congr 1
    · apply List.filterMap_congr
      intro k mem
      rw [List.getElem?_append_left (List.mem_range.mp mem)]
    · simp

/-- The record `inspect` prints for the frame at a level: the level, then the frame's fields. -/
def levelRecord (fallback : Option String) (options : InfoOptions) (level : Nat) (f : Frame) :
    Json.Doc :=
  .obj (("level", .int level) :: infoMembers (DebugInfo.forFrame f fallback options))

/-- The records of every level of a stack, the newest frame first at level 1. -/
def levelRecords (s : CallStack) (options : InfoOptions) : List Json.Doc :=
  s.newestFirst.zipIdx.map fun p => levelRecord s.scriptPath options (p.2 + 1) p.1

theorem levelRecords_getElem? (s : CallStack) (options : InfoOptions) {l : Nat} (positive : l ≠ 0) :
    (levelRecords s options)[l - 1]? =
      (s.frameAt? l).map (levelRecord s.scriptPath options l) := by
  rw [levelRecords, List.getElem?_map, List.getElem?_zipIdx, CallStack.frameAt?_eq_newestFirst,
    if_neg positive, Option.map_map]
  congr 1
  funext f
  simp only [Function.comp]
  congr
  omega

theorem inspectLevels_invalid (m : Machine) {what : String} (level : Option Nat)
    (invalid : InfoOptions.parse? what = none) :
    inspectLevels m what level = .error (.invalidOption what) := by
  simp [inspectLevels, invalid, throw, throwThe, MonadExceptOf.throw]

theorem inspectLevels_all (m : Machine) {what : String} {options : InfoOptions}
    (parsed : InfoOptions.parse? what = some options) :
    inspectLevels m what none =
      .ok ((Json.Doc.arr (levelRecords m.stack options)).pretty 0 ++ "\n") := by
  simp only [inspectLevels, parsed, bind, Except.bind, pure, Except.pure, List.filterMap_map]
  congr 4
  rw [levelRecords, ← filterMap_range_getElem? m.stack.newestFirst
    (fun k f => levelRecord m.stack.scriptPath options (k + 1) f), CallStack.newestFirst_length]
  apply List.filterMap_congr
  intro k mem
  simp [CallStack.frameAt?_eq_newestFirst, levelRecord]

theorem inspectLevels_one (m : Machine) {what : String} {options : InfoOptions}
    (parsed : InfoOptions.parse? what = some options) (l : Nat) :
    inspectLevels m what (some l) =
      if l = 0 ∨ m.stack.depth < l then .error (.levelOutOfRange l m.stack.depth)
      else .ok ((Json.Doc.arr (levelRecords m.stack options)[l - 1]?.toList).pretty 0 ++ "\n") := by
  simp only [inspectLevels, parsed, bind, Except.bind, pure, Except.pure]
  split
  · simp [throw, throwThe, MonadExceptOf.throw]
  · rename_i inside
    rw [levelRecords_getElem? m.stack options (by omega)]
    simp only [List.filterMap_cons, List.filterMap_nil]
    cases m.stack.frameAt? l <;> rfl

theorem library_debug {b : Builtin} (debugEntry : b = .getlocal ∨ b = .traceback) :
    b.library.name = "debug" := by
  rcases debugEntry with rfl | rfl <;> rfl

theorem global_debug {cfg : Config} {snap : StackSnapshot} {m : Machine}
    (loaded : Loaded cfg snap m) : m.global "debug" = .table ⟨2⟩ := by
  simp only [Machine.global, Machine.table, loaded.tables, loaded.globals]
  rfl

theorem debug_table_entry {cfg : Config} {snap : StackSnapshot} {m : Machine}
    (loaded : Loaded cfg snap m) {b : Builtin} (debugEntry : b = .getlocal ∨ b = .traceback) :
    (m.table ⟨2⟩).getField b.name = .func (.builtin b) := by
  rcases debugEntry with rfl | rfl <;> simp only [Machine.table, loaded.tables] <;> rfl

theorem callEntry_answering {cfg : Config} {snap : StackSnapshot} {m : Machine}
    (loaded : Loaded cfg snap m) {b : Builtin} (debugEntry : b = .getlocal ∨ b = .traceback)
    {args vs : List Value} (room : m.stack.depth < cfg.maxCallDepth)
    (answers : callBuiltin b args
      { m with stack := m.stack.push (Frame.forFunction (.native b.name)) } =
      .ok vs { m with stack := m.stack.push (Frame.forFunction (.native b.name)) }) :
    callEntry m b args = (.ok vs, m) := by
  unfold callEntry
  dsimp only
  rw [library_debug debugEntry, global_debug loaded]
  dsimp only
  rw [debug_table_entry loaded debugEntry, show runFuel = 999997 + 3 from rfl,
    callFunction_answering 999997 (loaded.config ▸ room) answers]

theorem callEntry_full {cfg : Config} {snap : StackSnapshot} {m : Machine}
    (loaded : Loaded cfg snap m) {b : Builtin} (debugEntry : b = .getlocal ∨ b = .traceback)
    (args : List Value) (full : cfg.maxCallDepth ≤ m.stack.depth) :
    callEntry m b args = (.error (.guest (.raise "stack overflow")), m) := by
  unfold callEntry
  dsimp only
  rw [library_debug debugEntry, global_debug loaded]
  dsimp only
  rw [debug_table_entry loaded debugEntry, show runFuel = 999998 + 2 from rfl,
    callFunction_full 999998 b args (loaded.config ▸ full)]

theorem getlocal_call (level index : Int64) (m : Machine) :
    callBuiltin .getlocal [.int level, .int index] m =
      .ok (((Library.frameForLevel m.stack level).bind (·.local? index.toInt)).elim [.nil, .nil]
        fun p => [.str p.1, p.2]) m := by
  cases found : (Library.frameForLevel m.stack level).bind (·.local? index.toInt) <;>
    simp [callBuiltin, Exec.getlocal, Library.skipThread, Library.optInteger, Value.asInteger?,
      found, bind, EStateM.bind, get, getThe, MonadStateOf.get, EStateM.get, pure, EStateM.pure]

theorem getinfo_through_invoke (fuel : Nat) {m : Machine} {what : String} {options : InfoOptions}
    (parsed : InfoOptions.parse? what = some options) (room : m.stack.depth < m.config.maxCallDepth)
    {l : Nat} (positive : l ≠ 0) (small : l < 9223372036854775807) {f : Frame}
    (found : m.stack.frameAt? l = some f) :
    invoke (fuel + 2) (.func (.builtin .getinfo)) [.int (Int64.ofNat l), .str what] m =
      (do let v ← infoTable (DebugInfo.forFrame f m.stack.scriptPath options); pure [v]) m := by
  have shifted : Library.frameForLevel (m.stack.push (Frame.forFunction (.native "getinfo")))
      (Int64.ofNat l) = some f := by
    rw [Library.frameForLevel_push _ _ small, if_neg positive, ← found,
      CallStack.frameAt?_eq_newestFirst, if_neg positive]
  rw [invoke_func, if_neg (by omega), enter_builtin, signature_builtin,
    show Builtin.getinfo.name = "getinfo" from rfl]
  simp [callBuiltin, Exec.getinfo, Library.skipThread, Value.asInteger?, parsed, shifted,
    bind, EStateM.bind, get, getThe, MonadStateOf.get, EStateM.get, pure, EStateM.pure, infoTable,
    modifyGet, MonadStateOf.modifyGet, EStateM.modifyGet, finishCall, CallStack.unwindTo_push,
    Machine.allocTable, CallStack.scriptPath_push]

/-- The locals of a frame as `locals` lists them: in declaration order, re-declarations
included, each value as it prints, as many as 64-bit indices reach. -/
def listedLocals (f : Frame) : List (String × String) :=
  (f.locals.toList.take 9223372036854775807).map fun p => (p.1, displayText p.2)

theorem local?_ofNat (f : Frame) {index : Nat} (positive : 1 ≤ index)
    (reachable : index ≤ 9223372036854775808) :
    f.local? (Int64.ofNat index).toInt =
      if index < 9223372036854775808 then f.locals[index - 1]? else none := by
  split
  · rename_i small
    rw [Frame.local?, Int64.toInt_ofNat_of_lt small, if_neg (by omega)]
    congr 1
    omega
  · rename_i large
    have last : index = 9223372036854775808 := by omega
    subst last
    rfl

theorem listedLocals_drop (f : Frame) {index : Nat} (positive : 1 ≤ index)
    (reachable : index ≤ 9223372036854775808) :
    (listedLocals f).drop (index - 1) =
      ((if index < 9223372036854775808 then f.locals[index - 1]? else none).elim []
        fun p => (p.1, displayText p.2) :: (listedLocals f).drop index) := by
  have length : (listedLocals f).length = min f.locals.size 9223372036854775807 := by
    simp [listedLocals, Nat.min_comm]
  split
  · rename_i small
    cases found : f.locals[index - 1]? with
    | none =>
      have past : f.locals.size ≤ index - 1 := Array.getElem?_eq_none_iff.mp found
      exact List.drop_eq_nil_of_le (by omega)
    | some p =>
      obtain ⟨inside, rfl⟩ := Array.getElem?_eq_some_iff.mp found
      rw [List.drop_eq_getElem_cons (by omega)]
      simp [listedLocals, show index - 1 + 1 = index by omega]
  · exact List.drop_eq_nil_of_le (by omega)

theorem collectLocals_listed {cfg : Config} {snap : StackSnapshot} {m : Machine}
    (loaded : Loaded cfg snap m) (room : m.stack.depth < cfg.maxCallDepth) (level : Int64)
    {listed : List (String × String)}
    (lists : ((Library.frameForLevel (m.stack.push (Frame.forFunction (.native "getlocal")))
      level).map listedLocals).getD [] = listed) :
    ∀ (fuel index : Nat), 1 ≤ index → index ≤ 9223372036854775808 → listed.length < fuel + index →
      collectLocals level fuel index m = .ok (listed.drop (index - 1)) := by
  intro fuel
  induction fuel with
  | zero =>
    intro index positive reachable enough
    rw [List.drop_eq_nil_of_le (by omega)]
    rfl
  | succ fuel ih =>
    intro index positive reachable enough
    unfold collectLocals
    rw [callEntry_answering loaded (.inl rfl) room (getlocal_call _ _ _)]
    dsimp only
    rw [show Builtin.getlocal.name = "getlocal" from rfl]
    cases named :
        Library.frameForLevel (m.stack.push (Frame.forFunction (.native "getlocal"))) level with
    | none =>
      rw [named] at lists
      subst lists
      rw [Option.map_none, Option.getD_none, List.drop_nil]
      rfl
    | some f =>
      rw [named] at lists
      subst lists
      rw [Option.bind_some, local?_ofNat f positive reachable, Option.map_some, Option.getD_some,
        listedLocals_drop f positive reachable]
      -- the index either names a local, and the rest follows from the next index on, or not
      cases found : (if index < 9223372036854775808 then f.locals[index - 1]? else none) with
      | none => rfl
      | some p =>
        have small : index < 9223372036854775808 := by
          by_contra large
          rw [if_neg large] at found
          cases found
        rw [Option.elim, Option.elim]
        rw [ih (index + 1) (by omega) (by omega) (by omega)]
        rfl

/-- What `locals` lists for a level: the locals of the frame at the level, newest frame first.
Level 0 and levels past the stack list none; so do levels from `2 ^ 63 - 1` up, which a 64-bit
level cannot name once the entry counts its own frame. -/
def levelLocals (s : CallStack) (l : Nat) : List (String × String) :=
  if l = 0 ∨ 9223372036854775807 ≤ l then [] else ((s.newestFirst[l - 1]?).map listedLocals).getD []

/-- The text `locals` prints: a numbered line per local, or a note that the level has none. -/
def localsListing (l : Nat) (locals : List (String × String)) : String :=
  if locals.isEmpty then "(no locals at level " ++ toString l ++ ")\n"
  else String.join (locals.zipIdx.map fun ((name, v), i) =>
    alignIndex (i + 1) ++ "  " ++ name ++ " = " ++ v ++ "\n")

theorem le_foldl_locals (frames : List Frame) (init : Nat) :
    init ≤ frames.foldl (fun n f => n + f.locals.size) init ∧
      ∀ f ∈ frames, init + f.locals.size ≤ frames.foldl (fun n f => n + f.locals.size) init := by
  induction frames generalizing init with
  | nil => simp
  | cons g rest ih =>
    obtain ⟨grows, each⟩ := ih (init + g.locals.size)
    refine ⟨by simp only [List.foldl_cons]; omega, fun f mem => ?_⟩
    simp only [List.foldl_cons]
    rcases List.mem_cons.mp mem with rfl | later
    · exact grows
    · have := each f later
      omega

theorem levelLocals_length_le (s : CallStack) (l : Nat) :
    (levelLocals s l).length ≤ s.frames.foldl (fun n f => n + f.locals.size) 0 := by
  unfold levelLocals
  split
  · simp
  · cases found : s.newestFirst[l - 1]? with
    | none => simp
    | some f =>
      have mem : f ∈ s.frames.toList := by
        have := List.mem_of_getElem? found
        simpa [CallStack.newestFirst] using this
      have := (le_foldl_locals s.frames.toList 0).2 f mem
      rw [Array.foldl_toList] at this
      simp only [Option.map_some, Option.getD_some, listedLocals, List.length_map, List.length_take,
        Array.length_toList]
      omega

open Library in
theorem saturated_level_lists (s : CallStack) (l : Nat) (level : Int64)
    (named : (l < 9223372036854775807 ∧ level = Int64.ofNat l) ∨
      (9223372036854775807 ≤ l ∧ stackLevel level = none)) :
    ((frameForLevel (s.push (Frame.forFunction (.native "getlocal"))) level).map
      listedLocals).getD [] = levelLocals s l := by
  rcases named with ⟨small, rfl⟩ | ⟨large, none⟩
  · rw [Library.frameForLevel_push s _ small, levelLocals]
    by_cases zero : l = 0
    · simp [zero, listedLocals, Frame.forFunction]
    · simp [zero, show ¬9223372036854775807 ≤ l by omega]
  · simp [frameForLevel, none, levelLocals, large]

theorem localsText_listing {cfg : Config} {snap : StackSnapshot} {m : Machine}
    (loaded : Loaded cfg snap m) (room : m.stack.depth < cfg.maxCallDepth) (l : Nat) :
    localsText m l = .ok (localsListing l (levelLocals m.stack l)) := by
  delta localsText
  dsimp only
  have bounded := levelLocals_length_le m.stack l
  rw [collectLocals_listed loaded room _ (saturated_level_lists m.stack l _ ?_) _ 1 le_rfl
    (by norm_num) (by omega)]
  · simp only [Nat.sub_self, List.drop_zero, bind, Except.bind, localsListing]
    split <;> rfl
  -- the level is saturated to a 64-bit word: below its last value it is the level itself,
  -- from there on no level that getlocal can name
  by_cases small : l < 9223372036854775807
  · exact .inl ⟨small, if_pos (by omega)⟩
  · refine .inr ⟨by omega, ?_⟩
    split
    · have last : l = 9223372036854775807 := by omega
      subst last
      decide
    · decide

theorem tracebackText_full {cfg : Config} {snap : StackSnapshot} {m : Machine}
    (loaded : Loaded cfg snap m) (full : cfg.maxCallDepth ≤ m.stack.depth)
    (message : Option String) :
    tracebackText m message = .error (.guest (.raise "stack overflow")) := by
  simp only [tracebackText, callEntry_full loaded (.inr rfl) _ full, bind, Except.bind]

theorem localsText_full {cfg : Config} {snap : StackSnapshot} {m : Machine}
    (loaded : Loaded cfg snap m) (full : cfg.maxCallDepth ≤ m.stack.depth) (l : Nat) :
    localsText m l = .error (.guest (.raise "stack overflow")) := by
  delta localsText
  simp only [collectLocals, callEntry_full loaded (.inl rfl) _ full, bind, Except.bind]

section Execute

variable {inv : Invocation} {configSource : Source} {text : String} {m : Machine}

theorem execute_inspect_invalid (load : loadMachine inv configSource (.ok text) = .ok m)
    {p what : String} {level : Option Nat} (command : inv.command = .inspect p what level)
    (invalid : InfoOptions.parse? what = none) :
    execute inv configSource (.ok text) =
      ⟨1, "", "Error: " ++ ("invalid option '" ++ what ++
        "' (expected letters from \"flnStuLr\")") ++ "\n"⟩ := by
  simp only [execute, load, command, inspectLevels_invalid m level invalid, bind, Except.bind]
  rfl

theorem execute_inspect_all (load : loadMachine inv configSource (.ok text) = .ok m)
    {p what : String} (command : inv.command = .inspect p what none) {options : InfoOptions}
    (parsed : InfoOptions.parse? what = some options) :
    execute inv configSource (.ok text) =
      ⟨0, (Json.Doc.arr (levelRecords m.stack options)).pretty 0 ++ "\n", ""⟩ := by
  simp only [execute, load, command, inspectLevels_all m parsed, bind, Except.bind]

theorem execute_inspect_one (load : loadMachine inv configSource (.ok text) = .ok m)
    {p what : String} {l : Nat} (command : inv.command = .inspect p what (some l))
    {options : InfoOptions} (parsed : InfoOptions.parse? what = some options) :
    execute inv configSource (.ok text) =
      if l = 0 ∨ m.stack.depth < l then
        ⟨1, "", "Error: " ++ ("level " ++ toString l ++ " is outside the stack (depth " ++
          toString m.stack.depth ++ ")") ++ "\n"⟩
      else
        ⟨0, (Json.Doc.arr (levelRecords m.stack options)[l - 1]?.toList).pretty 0 ++ "\n", ""⟩ := by
  simp only [execute, load, command, inspectLevels_one m parsed l, bind, Except.bind]
  by_cases outside : l = 0 ∨ m.stack.depth < l
  · simp only [if_pos outside]
    rfl
  · simp only [if_neg outside]

theorem execute_locals (load : loadMachine inv configSource (.ok text) = .ok m) {cfg : Config}
    {snap : StackSnapshot} (loaded : Loaded cfg snap m) (room : m.stack.depth < cfg.maxCallDepth)
    {p : String} {l : Nat} (command : inv.command = .locals p l) :
    execute inv configSource (.ok text) = ⟨0, localsListing l (levelLocals m.stack l), ""⟩ := by
  simp only [execute, load, command, localsText_listing loaded room l, bind, Except.bind]

theorem execute_full (load : loadMachine inv configSource (.ok text) = .ok m) {cfg : Config}
    {snap : StackSnapshot} (loaded : Loaded cfg snap m) (full : cfg.maxCallDepth ≤ m.stack.depth)
    {p : String} {l : Nat} {message : Option String}
    (command : inv.command = .locals p l ∨ inv.command = .traceback p message) :
    execute inv configSource (.ok text) = ⟨1, "", "Error: stack overflow\n"⟩ := by
  rcases command with command | command
  · simp only [execute, load, command, localsText_full loaded full, bind, Except.bind]
    rfl
  · simp only [execute, load, command, tracebackText_full loaded full, bind, Except.bind]
    rfl

end Execute

/-- A snapshot seen through the inspector's commands. Its frames, oldest first, are built in order
on a fresh machine for the settings, the snapshot's script path replacing the configured one when
given. `inspect` prints the record of every level, the newest frame first at level 1, or only the
record of one level; it fails on a level outside the stack and on letters that are not options.
The record of level `l` describes the frame `n - l` places above the oldest, the frame that
`getinfo(l)` describes when it is called through the runtime below the depth limit. Below the
limit `locals` lists the locals of the frame at its level; at the limit `locals` and `traceback`
fail with a stack overflow. -/
theorem snapshot_levels_newest_first {inv : Invocation} {configSource : Source} {cfg : Config}
    {text : String} {snap : StackSnapshot} (settings : SettingsRead inv configSource cfg)
    (read : Ron.readAll snapshot text = .ok snap) :
    ∃ m, loadMachine inv configSource (.ok text) = .ok m ∧ Loaded cfg snap m ∧
      (∀ p what level, inv.command = .inspect p what level → InfoOptions.parse? what = none →
        execute inv configSource (.ok text) =
          ⟨1, "", "Error: " ++ ("invalid option '" ++ what ++
            "' (expected letters from \"flnStuLr\")") ++ "\n"⟩) ∧
      (∀ p what options, inv.command = .inspect p what none →
        InfoOptions.parse? what = some options →
        execute inv configSource (.ok text) =
          ⟨0, (Json.Doc.arr (levelRecords m.stack options)).pretty 0 ++ "\n", ""⟩) ∧
      (∀ p what options l, inv.command = .inspect p what (some l) →
        InfoOptions.parse? what = some options →
        execute inv configSource (.ok text) =
          if l = 0 ∨ snap.frames.length < l then
            ⟨1, "", "Error: " ++ ("level " ++ toString l ++ " is outside the stack (depth " ++
              toString snap.frames.length ++ ")") ++ "\n"⟩
          else
            ⟨0, (Json.Doc.arr (levelRecords m.stack options)[l - 1]?.toList).pretty 0 ++ "\n",
              ""⟩) ∧
      (∀ l f options, 1 ≤ l → l ≤ snap.frames.length →
        m.stack.frames[snap.frames.length - l]? = some f →
        (levelRecords m.stack options)[l - 1]? = some (levelRecord m.stack.scriptPath options l f) ∧
        (snap.frames.length < cfg.maxCallDepth → l < 9223372036854775807 →
          ∀ fuel what, InfoOptions.parse? what = some options →
            invoke (fuel + 2) (.func (.builtin .getinfo)) [.int (Int64.ofNat l), .str what] m =
              (do
                let v ← infoTable (DebugInfo.forFrame f m.stack.scriptPath options)
                pure [v]) m)) ∧
      (∀ p l, inv.command = .locals p l → snap.frames.length < cfg.maxCallDepth →
        execute inv configSource (.ok text) = ⟨0, localsListing l (levelLocals m.stack l), ""⟩) ∧
      (∀ p l message, inv.command = .locals p l ∨ inv.command = .traceback p message →
        cfg.maxCallDepth ≤ snap.frames.length →
        execute inv configSource (.ok text) = ⟨1, "", "Error: stack overflow\n"⟩) := by
  obtain ⟨m, load, loaded⟩ := loadMachine_snapshot settings read
  have depth := loaded.depth
  refine ⟨m, load, loaded,
    fun p what level command invalid => execute_inspect_invalid load command invalid,
    fun p what options command parsed => execute_inspect_all load command parsed,
    fun p what options l command parsed => by rw [execute_inspect_one load command parsed, depth],
    fun l f options positive within found => ?_,
    fun p l command shallow => execute_locals load loaded (depth ▸ shallow) command,
    fun p l message command full => execute_full load loaded (depth ▸ full) command⟩
  -- level `l` names the frame `n - l` places above the oldest, in both ways of asking
  have named : m.stack.frameAt? l = some f := by
    rw [CallStack.frameAt?_of_index m.stack positive (depth ▸ within), depth, found]
  refine ⟨by rw [levelRecords_getElem? m.stack options (by omega), named]; rfl,
    fun shallow small fuel what parsed => ?_⟩
  have room : m.stack.depth < m.config.maxCallDepth := by rw [depth, loaded.config]; exact shallow
  exact getinfo_through_invoke fuel parsed room (by omega) small named

/-- The snapshot a text reads as; the empty snapshot when it does not read. -/
def readSnapshot (text : String) : StackSnapshot :=
  match Ron.readAll snapshot text with
  | .ok snap => snap
  | .error _ => {}

theorem readAll_readSnapshot {text : String} (reads : (Ron.readAll snapshot text).isOk = true) :
    Ron.readAll snapshot text = .ok (readSnapshot text) := by
  unfold readSnapshot
  cases read : Ron.readAll snapshot text with
  | ok snap => rfl
  | error e =>
    rw [read] at reads
    cases reads

/-- `locals` at level 1 with the default settings. -/
def localsRun : Invocation := ⟨none, .locals "-" 1⟩

/-- A snapshot of two frames: `main` at line 3 with `x = 1`, then `update` at line 9 with
`dt = "go"` and `n = 2`. -/
def twoFramesText : String :=
  "(frames: [(name: Some(\"main\"), line: Some(3), locals: [(\"x\", Integer(1))]), " ++
    "(name: Some(\"update\"), line: Some(9), " ++
    "locals: [(\"dt\", String(\"go\")), (\"n\", Integer(2))])])"

/-- The two-frame snapshot reads and loads; level 1 lists the locals of `update`, the newest
frame, level 2 those of `main`, and `locals` prints the listing of level 1. -/
theorem twoFrames_locals_newest_first :
    SettingsRead localsRun (.ok "") {} ∧
    Ron.readAll snapshot twoFramesText = .ok (readSnapshot twoFramesText) ∧
    ∃ m, loadMachine localsRun (.ok "") (.ok twoFramesText) = .ok m ∧
      levelLocals m.stack 1 = [("dt", "go"), ("n", "2")] ∧
      levelLocals m.stack 2 = [("x", "1")] ∧
      execute localsRun (.ok "") (.ok twoFramesText) =
        ⟨0, localsListing 1 (levelLocals m.stack 1), ""⟩ := by
  have settings : SettingsRead localsRun (.ok "") {} := rfl
  -- one evaluation of the text: it reads, fits below the depth limit, and loads these locals
  obtain ⟨reads, shallow, levels⟩ : (Ron.readAll snapshot twoFramesText).isOk = true ∧
      (readSnapshot twoFramesText).frames.length < ({} : Config).maxCallDepth ∧
      (loadMachine localsRun (.ok "") (.ok twoFramesText)).toOption.map
        (fun m => (levelLocals m.stack 1, levelLocals m.stack 2)) =
          some ([("dt", "go"), ("n", "2")], [("x", "1")]) := by decide +kernel
  have read := readAll_readSnapshot reads
  obtain ⟨m, load, -, -, -, -, -, locals, -⟩ := snapshot_levels_newest_first settings read
  rw [load] at levels
  obtain ⟨newest, older⟩ := Prod.mk.inj (Option.some.inj levels)
  exact ⟨settings, read, m, load, newest, older, locals "-" 1 rfl shallow⟩

end Inspector

end LuaIntrospect
