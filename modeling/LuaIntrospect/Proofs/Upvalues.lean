import Mathlib
import LuaIntrospect.Proofs.Evolves

/-! Upvalues. Main statement: `getupvalue_reads_shared_cells`. -/
namespace LuaIntrospect

namespace Frame

theorem forFunction_upvalues_eq_some {s : Signature} {U : List Upvalue} :
    (forFunction s).upvalues = some U ↔
      ∃ name chunk span isMain, s = .guest name chunk span isMain (some U) := by
  cases s with
  | native name => simp [forFunction]
  | guest name chunk span isMain ups => simp [forFunction]

end Frame

namespace Machine

theorem cell_set_self (m : Machine) (c : CellRef) (v : Value)
    (allocated : c.slot < m.cells.size) :
    ({ m with cells := m.cells.set! c.slot v } : Machine).cell c = v := by
  simp [cell, allocated]

end Machine

namespace Library

variable (U : List Upvalue)

theorem indexed_succ {i : Int} {k : Nat} (at_k : i = k + 1) :
    (if i ≥ 1 then U[(i - 1).toNat]? else none) = U[k]? := by
  rw [if_pos (by omega), show (i - 1).toNat = k by omega]

theorem indexed_outside {i : Int} (outside : i < 1 ∨ U.length < i) :
    (if i ≥ 1 then U[(i - 1).toNat]? else none) = none := by
  by_cases positive : i ≥ 1
  · rw [if_pos positive, List.getElem?_eq_none_iff]
    omega
  · rw [if_neg positive]

end Library

namespace Exec

open Library

theorem getupvalue_not_function {args : List Value}
    (notFunction : ∀ c, args[0]? ≠ some (.func c)) (m : Machine) :
    callBuiltin .getupvalue args m =
      .error (.error (.badArgument 1 "getupvalue"
        ("function expected, got " ++ typeNameOf args[0]?))) m := by
  have refused : checkFunction args 0 "getupvalue" =
      .error (.badArgument 1 "getupvalue" ("function expected, got " ++ typeNameOf args[0]?)) := by
    unfold checkFunction
    split
    · exact absurd ‹_› (notFunction _)
    · rfl
  simp [callBuiltin, getupvalue, refused, check, fail, bind, EStateM.bind, throw, throwThe,
    MonadExceptOf.throw, EStateM.throw]

theorem getupvalue_no_index (c : Callable) {rest : List Value}
    (noIndex : rest.head?.bind Value.asInteger? = none) (m : Machine) :
    callBuiltin .getupvalue (.func c :: rest) m = .ok [.nil, .nil] m := by
  have missing : optInteger (.func c :: rest) 1 = none := by
    cases rest <;> simp_all [optInteger]
  simp [callBuiltin, getupvalue, checkFunction, check, missing, bind, EStateM.bind, pure,
    EStateM.pure]

theorem getupvalue_tracked {c : Callable} {m : Machine} {U : List Upvalue}
    (tracked : (Frame.forFunction (m.signature c)).upvalues = some U) {x : Value} {i : Int64}
    (index : x.asInteger? = some i) (rest : List Value) :
    callBuiltin .getupvalue (.func c :: x :: rest) m =
      .ok ((if i.toInt ≥ 1 then U[(i.toInt - 1).toNat]? else none).elim [.nil, .nil]
        fun u => [.str u.name, m.cell u.cell]) m := by
  obtain ⟨name, chunk, span, isMain, sig⟩ := Frame.forFunction_upvalues_eq_some.mp tracked
  have given : optInteger (.func c :: x :: rest) 1 = some i := index
  simp only [callBuiltin, getupvalue, checkFunction, check, given, List.getElem?_cons_zero, bind,
    EStateM.bind, get, getThe, MonadStateOf.get, EStateM.get, pure, EStateM.pure]
  rw [sig]
  rcases Option.eq_none_or_eq_some (if i.toInt ≥ 1 then U[(i.toInt - 1).toNat]? else none) with
    missing | ⟨u, found⟩
  · simp only [missing]
    rfl
  · simp only [found]
    rfl

theorem getupvalue_untracked {c : Callable} {m : Machine}
    (untracked : (Frame.forFunction (m.signature c)).upvalues = none) {x : Value} {i : Int64}
    (index : x.asInteger? = some i) (rest : List Value) :
    callBuiltin .getupvalue (.func c :: x :: rest) m =
      .ok (if i.toInt = 2 then [.str "_ENV", .table m.globals] else [.nil, .nil]) m := by
  have given : optInteger (.func c :: x :: rest) 1 = some i := index
  simp only [callBuiltin, getupvalue, checkFunction, check, given, List.getElem?_cons_zero, bind,
    EStateM.bind, get, getThe, MonadStateOf.get, EStateM.get, pure, EStateM.pure]
  -- a host function and a guest function without a list take the same branch
  cases sig : m.signature c with
  | native name => by_cases env : i.toInt = 2 <;> simp [env, EStateM.pure]
  | guest name chunk span isMain ups =>
    have none : ups = none := by simpa [Frame.forFunction, sig] using untracked
    subst none
    by_cases env : i.toInt = 2 <;> simp [env, EStateM.pure]

theorem writeUpvalue_tracked {c : Callable} {m : Machine} {U : List Upvalue}
    (tracked : (Frame.forFunction (m.signature c)).upvalues = some U) {k : Nat} (hk : k < U.length)
    (v : Value) :
    writeUpvalue (.func c) (k + 1) v m =
      .ok () { m with cells := m.cells.set! U[k].cell.slot v } := by
  obtain ⟨name, chunk, span, isMain, sig⟩ := Frame.forFunction_upvalues_eq_some.mp tracked
  simp [writeUpvalue, sig, List.getElem?_eq_getElem hk, bind, EStateM.bind, get, getThe,
    MonadStateOf.get, EStateM.get, modify, modifyGet, MonadStateOf.modifyGet, EStateM.modifyGet]

end Exec

open Exec Library in
/-- What `debug.getupvalue` answers. A first argument that is no function is refused with bad
argument #1, and the machine is left as it was. A missing or non-integer index gives two `nil`s.
A function with an upvalue list gives the name and current cell content of the upvalue at a
1-based index, and two `nil`s below 1 or past the end. A function without one gives `_ENV` and
the globals table at index 2 and two `nil`s elsewhere. The cells are shared: after a write to
the upvalue at index `k + 1`, both `getupvalue` and every frame a call of the function pushes,
edited since at most in place, read the value written there. -/
theorem getupvalue_reads_shared_cells :
    (∀ (args : List Value) (m : Machine), (∀ c, args[0]? ≠ some (.func c)) →
      callBuiltin .getupvalue args m =
        .error (.error (.badArgument 1 "getupvalue"
          ("function expected, got " ++ typeNameOf args[0]?))) m) ∧
    (∀ c rest m, rest.head?.bind Value.asInteger? = none →
      callBuiltin .getupvalue (.func c :: rest) m = .ok [.nil, .nil] m) ∧
    (∀ c m U x i rest, (Frame.forFunction (m.signature c)).upvalues = some U →
      x.asInteger? = some i →
      (∀ (k : Nat) (hk : k < U.length), i.toInt = (k : Int) + 1 →
        callBuiltin .getupvalue (.func c :: x :: rest) m =
          .ok [.str U[k].name, m.cell U[k].cell] m) ∧
      (i.toInt < 1 ∨ (U.length : Int) < i.toInt →
        callBuiltin .getupvalue (.func c :: x :: rest) m = .ok [.nil, .nil] m)) ∧
    (∀ c m x i rest, (Frame.forFunction (m.signature c)).upvalues = none →
      x.asInteger? = some i →
      callBuiltin .getupvalue (.func c :: x :: rest) m =
        .ok (if i.toInt = 2 then [.str "_ENV", .table m.globals] else [.nil, .nil]) m) ∧
    (∀ c m U (k : Nat) (hk : k < U.length) v,
      (Frame.forFunction (m.signature c)).upvalues = some U →
      U[k].cell.slot < m.cells.size →
      ∃ m', writeUpvalue (.func c) (k + 1) v m = .ok () m' ∧ m'.signature c = m.signature c ∧
        m'.stack = m.stack ∧
        (∀ x (i : Int64) rest, x.asInteger? = some i → i.toInt = (k : Int) + 1 →
          callBuiltin .getupvalue (.func c :: x :: rest) m' = .ok [.str U[k].name, v] m') ∧
        ∀ F, (Frame.forFunction (m.signature c)).Edited F →
          (F.upvalues.bind (·[k]?)).map (fun u => (u.name, m'.cell u.cell)) =
            some (U[k].name, v)) := by
  refine ⟨fun args m => getupvalue_not_function (m := m),
    fun c rest m => (getupvalue_no_index c · m), ?_,
    fun c m x i rest untracked index => getupvalue_untracked untracked index rest, ?_⟩
  · intro c m U x i rest tracked index
    refine ⟨fun k hk at_k => ?_, fun outside => ?_⟩
    · rw [getupvalue_tracked tracked index, indexed_succ U at_k, List.getElem?_eq_getElem hk]
      rfl
    · rw [getupvalue_tracked tracked index, indexed_outside U outside]
      rfl
  · intro c m U k hk v tracked allocated
    refine ⟨_, writeUpvalue_tracked tracked hk v, rfl, rfl, fun x i rest index at_k => ?_,
      fun F edited => ?_⟩
    · -- the function's signature, and so its list, is the same after the write
      have still : (Frame.forFunction
          (({ m with cells := m.cells.set! U[k].cell.slot v } : Machine).signature c)).upvalues =
            some U := tracked
      rw [getupvalue_tracked still index, indexed_succ U at_k, List.getElem?_eq_getElem hk,
        Option.elim_some, Machine.cell_set_self m _ v allocated]
    · -- a frame holds its function's list, so its upvalue is the very cell written
      rw [edited.upvalues, tracked, Option.bind_some, List.getElem?_eq_getElem hk, Option.map_some,
        Machine.cell_set_self m _ v allocated]

/-- A machine with one guest function over one upvalue `count`, whose cell holds 4. -/
def countingMachine : Machine :=
  { cells := #[.int 4]
    scripts := #[{ id := "counter", body := []
                   signature := .guest (some "counter") none none false (some [⟨"count", ⟨0⟩⟩]) }] }

open Exec Library in
/-- On the counting machine: a number is refused as a function; a missing index, index 0, index 2
and the smallest 64-bit index give two `nil`s; index 1 reads the cell; a library entry has no
list and gives `_ENV` at index 2; after writing 5 to upvalue 1, `getupvalue` and every frame of a
call read 5. -/
theorem counting_upvalue_shared :
    ((∀ c, [Value.int 1][0]? ≠ some (.func c)) ∧
      callBuiltin .getupvalue [.int 1] countingMachine =
        .error (.error (.badArgument 1 "getupvalue" "function expected, got number"))
          countingMachine) ∧
    callBuiltin .getupvalue [.func (.script 0)] countingMachine = .ok [.nil, .nil] countingMachine ∧
    ((Frame.forFunction (countingMachine.signature (.script 0))).upvalues =
        some [⟨"count", ⟨0⟩⟩] ∧
      callBuiltin .getupvalue [.func (.script 0), .int 1] countingMachine =
        .ok [.str "count", .int 4] countingMachine ∧
      callBuiltin .getupvalue [.func (.script 0), .int 0] countingMachine =
        .ok [.nil, .nil] countingMachine ∧
      callBuiltin .getupvalue [.func (.script 0), .int (-9223372036854775808)] countingMachine =
        .ok [.nil, .nil] countingMachine) ∧
    ((Frame.forFunction (countingMachine.signature (.builtin .getinfo))).upvalues = none ∧
      callBuiltin .getupvalue [.func (.builtin .getinfo), .int 2] countingMachine =
        .ok [.str "_ENV", .table ⟨0⟩] countingMachine) ∧
    (0 < countingMachine.cells.size ∧
      ∃ m', writeUpvalue (.func (.script 0)) 1 (.int 5) countingMachine = .ok () m' ∧
        callBuiltin .getupvalue [.func (.script 0), .int 1] m' = .ok [.str "count", .int 5] m' ∧
        ∀ F, (Frame.forFunction (countingMachine.signature (.script 0))).Edited F →
          (F.upvalues.bind (·[0]?)).map (fun u => (u.name, m'.cell u.cell)) =
            some ("count", .int 5)) := by
  have notFunction : ∀ c, [Value.int 1][0]? ≠ some (.func c) := by simp
  have tracked : (Frame.forFunction (countingMachine.signature (.script 0))).upvalues =
      some [⟨"count", ⟨0⟩⟩] := rfl
  have untracked : (Frame.forFunction (countingMachine.signature (.builtin .getinfo))).upvalues =
      none := rfl
  have allocated : 0 < countingMachine.cells.size := by decide
  obtain ⟨refused, noIndex, listed, unlisted, shared⟩ := getupvalue_reads_shared_cells
  refine ⟨⟨notFunction, refused _ _ notFunction⟩, noIndex _ [] _ rfl,
    ⟨tracked, ?_, ?_, ?_⟩, ⟨untracked, unlisted _ _ (.int 2) 2 [] untracked rfl⟩, allocated, ?_⟩
  · exact (listed _ _ _ (.int 1) 1 [] tracked rfl).1 0 (by decide) (by decide)
  · exact (listed _ _ _ (.int 0) 0 [] tracked rfl).2 (.inl (by decide))
  · exact (listed _ _ _ (.int (-9223372036854775808)) _ [] tracked rfl).2 (.inl (by decide))
  · obtain ⟨m', wrote, -, -, reads, frames⟩ := shared _ _ _ 0 (by decide) (.int 5) tracked allocated
    exact ⟨m', wrote, reads (.int 1) 1 [] rfl (by decide), frames⟩

end LuaIntrospect
