import Mathlib
import LuaIntrospect.Machine.Library

/-! Metatables by class. Main statement: `metatable_follows_last_set`. -/
namespace LuaIntrospect

/-- What a metatable is attached to: one table, by identity, or every value of a kind. -/
inductive MetaClass where
  | table (t : TableRef)
  | kind (k : Kind)
  deriving DecidableEq

namespace Value

/-- The class whose metatable a value has: a table is a class of its own, any other value is
in its kind's. -/
def metaClass : Value → MetaClass
  | .table t => .table t
  | v => .kind v.kind

/-- The second argument of `setmetatable` that attaches a table, or detaches with `nil`. -/
def ofMetatable : Option TableRef → Value
  | none => .nil
  | some t => .table t

end Value

namespace Table

@[simp] theorem metatable_set (t : Table) (k : TableKey) (v : Value) :
    (t.set k v).metatable = t.metatable := by
  unfold Table.set
  split <;> rfl

end Table

namespace Machine

/-- The metatable attached to a class, protection aside. -/
def attached (m : Machine) : MetaClass → Option TableRef
  | .table t => (m.table t).metatable
  | .kind k => (m.typeMetatables.find? (·.1 == k)).map Prod.snd

/-- What guest code sees of an attachment: `nil` for none, else the attached table's
`__metatable` field when it is set, and the table itself when it is not. -/
def shown (m : Machine) : Option TableRef → Value
  | none => .nil
  | some mt =>
    let marker := (m.table mt).getField "__metatable"
    if marker.isNil then .table mt else marker

/-- A value belongs to a machine: a table it refers to is in the heap. -/
def Holds (m : Machine) (v : Value) : Prop := ∀ t, v = .table t → t.slot < m.tables.size

theorem rawMetatable_eq_attached (m : Machine) (v : Value) :
    m.rawMetatable v = m.attached v.metaClass := by
  cases v <;> rfl

theorem metatableOf_eq_shown (m : Machine) (v : Value) :
    m.metatableOf v = m.shown (m.attached v.metaClass) := by
  unfold metatableOf
  rw [rawMetatable_eq_attached]
  cases m.attached v.metaClass <;> rfl

theorem table_modifyTable (m : Machine) (t t' : TableRef) (g : Table → Table) :
    (m.modifyTable t g).table t' =
      if t = t' ∧ t.slot < m.tables.size then g (m.table t) else m.table t' := by
  simp only [Machine.table, Machine.modifyTable, Array.getD_eq_getD_getElem?,
    Array.getElem?_modify]
  by_cases same : t = t'
  · subst same
    by_cases inside : t.slot < m.tables.size
    · simp [inside]
    · simp [inside]
  · have apart : t.slot ≠ t'.slot := fun h => same (by cases t; cases t'; simp_all)
    simp [same, apart]

@[simp] theorem tables_size_modifyTable (m : Machine) (t : TableRef) (g : Table → Table) :
    (m.modifyTable t g).tables.size = m.tables.size := by
  simp [Machine.modifyTable]

@[simp] theorem typeMetatables_modifyTable (m : Machine) (t : TableRef) (g : Table → Table) :
    (m.modifyTable t g).typeMetatables = m.typeMetatables := rfl

theorem attached_modifyTable (m : Machine) (t : TableRef) {g : Table → Table}
    (keeps : ∀ tb, (g tb).metatable = tb.metatable) (c : MetaClass) :
    (m.modifyTable t g).attached c = m.attached c := by
  cases c with
  | table t' =>
    simp only [attached, table_modifyTable]
    split
    · rename_i found
      rw [keeps, found.1]
    · rfl
  | kind k => rfl

theorem attached_write (m : Machine) (t : TableRef) (key : TableKey) (v : Value) (c : MetaClass) :
    (m.modifyTable t (·.set key v)).attached c = m.attached c :=
  attached_modifyTable m t (fun tb => Table.metatable_set tb key v) c

theorem find?_filter_kind (l : List (Kind × TableRef)) (k k' : Kind) :
    (l.filter (fun e => e.1 != k)).find? (·.1 == k') =
      if k' = k then none else l.find? (·.1 == k') := by
  rw [List.find?_filter]
  split
  · rename_i same
    subst same
    simp
  · rename_i apart
    congr 1
    funext e
    by_cases hit : e.1 = k' <;> simp [hit, apart]

theorem find?_replaceKind (l : List (Kind × TableRef)) (k k' : Kind) (mt : Option TableRef) :
    ((match mt with
      | some r => (k, r) :: l.filter (fun e : Kind × TableRef => e.1 != k)
      | none => l.filter (fun e : Kind × TableRef => e.1 != k)).find?
        (fun e : Kind × TableRef => e.1 == k')).map Prod.snd =
      if k' = k then mt else (l.find? (·.1 == k')).map Prod.snd := by
  cases mt with
  | none =>
    rw [find?_filter_kind]
    split <;> rfl
  | some r =>
    rw [List.find?_cons, find?_filter_kind]
    by_cases same : k' = k
    · simp [same]
    · have differ : (k == k') = false := beq_false_of_ne (Ne.symm same)
      simp [same, differ]

theorem attached_setMetatable (m : Machine) {v : Value} (held : m.Holds v)
    (mt : Option TableRef) (c : MetaClass) :
    (m.setMetatable v mt).attached c = if c = v.metaClass then mt else m.attached c := by
  cases v
  case table t =>
    have inside := held t rfl
    cases c with
    | table t' =>
      simp only [setMetatable, attached, table_modifyTable, Value.metaClass, MetaClass.table.injEq]
      by_cases same : t' = t
      · subst same
        simp [inside]
      · simp [Ne.symm same, same]
    | kind k => simp [setMetatable, attached, Value.metaClass]
  -- any other value replaces its kind's entry among the defaults and touches no table
  all_goals
    cases c with
    | table t' =>
      rw [if_neg (by simp [Value.metaClass])]
      rfl
    | kind k =>
      simp only [Value.metaClass, MetaClass.kind.injEq]
      exact find?_replaceKind _ _ k mt

theorem entries_setMetatable (m : Machine) (v : Value) (mt : Option TableRef) (t : TableRef) :
    ((m.setMetatable v mt).table t).entries = (m.table t).entries := by
  cases v
  case table t' =>
    simp only [setMetatable, table_modifyTable]
    split <;> simp_all
  all_goals rfl

@[simp] theorem tables_size_setMetatable (m : Machine) (v : Value) (mt : Option TableRef) :
    (m.setMetatable v mt).tables.size = m.tables.size := by
  cases v <;> simp [setMetatable]

theorem Holds.of_size {m m' : Machine} {v : Value} (held : m.Holds v)
    (size : m'.tables.size = m.tables.size) : m'.Holds v :=
  fun t same => size ▸ held t same

end Machine

namespace Exec

open Machine Library

theorem checkTableOrNil_second (args : List Value) :
    checkTableOrNil args 1 "setmetatable" =
      match args[1]? with
      | some Value.nil => .ok none
      | some (Value.table t) => .ok (some t)
      | _ => .error (.badArgument 2 "setmetatable" "nil or table expected") := by
  unfold checkTableOrNil
  cases args[1]? with
  | none => rfl
  | some v => cases v <;> rfl

theorem getmetatable_call (v : Value) (rest : List Value) (m : Machine) :
    callBuiltin .getmetatable (v :: rest) m = .ok [m.shown (m.attached v.metaClass)] m := by
  simp [callBuiltin, checkArity, check, argAt, bind, EStateM.bind, get, getThe,
    MonadStateOf.get, EStateM.get, pure, EStateM.pure, metatableOf_eq_shown]

theorem setmetatable_call (v : Value) (mt : Option TableRef) (rest : List Value) (m : Machine) :
    callBuiltin .setmetatable (v :: Value.ofMetatable mt :: rest) m =
      .ok [v] (m.setMetatable v mt) := by
  cases mt <;>
    simp [callBuiltin, checkTableOrNil_second, Value.ofMetatable, check, argAt, bind,
      EStateM.bind, modify, modifyGet, MonadStateOf.modifyGet, EStateM.modifyGet, pure,
      EStateM.pure]

theorem setmetatable_refused {args : List Value} (m : Machine)
    (refused : ∀ mt, args[1]? ≠ some (Value.ofMetatable mt)) :
    callBuiltin .setmetatable args m =
      .error (.error (.badArgument 2 "setmetatable" "nil or table expected")) m := by
  have wrong : checkTableOrNil args 1 "setmetatable" =
      .error (.badArgument 2 "setmetatable" "nil or table expected") := by
    rw [checkTableOrNil_second]
    split
    · exact absurd ‹_› (refused none)
    · exact absurd ‹_› (refused (some _))
    · rfl
  simp [callBuiltin, wrong, check, bind, EStateM.bind, fail, throw, throwThe,
    MonadExceptOf.throw, EStateM.throw]

end Exec

/-- An operation on metatables: a call of `getmetatable` or `setmetatable` with its arguments,
or a write of a table field. -/
inductive MetaOp where
  | getmetatable (args : List Value)
  | setmetatable (args : List Value)
  | write (t : TableRef) (key : TableKey) (v : Value)

namespace MetaOp

open Library

/-- Runs an operation. -/
def run : MetaOp → Exec (List Value)
  | getmetatable args => Exec.callBuiltin .getmetatable args
  | setmetatable args => Exec.callBuiltin .setmetatable args
  | write t key v => do
    modify fun m => m.modifyTable t (·.set key v)
    pure []

/-- The machine an operation leaves, whether it gave results or failed. -/
def after (m : Machine) (op : MetaOp) : Machine :=
  match op.run m with
  | .ok _ m' => m'
  | .error _ m' => m'

/-- The attachment of a class after an operation, by the rule: a `setmetatable` whose second
argument is `nil` or a table replaces the attachment of its first argument's class; nothing
else touches an attachment. -/
def attach (c : MetaClass) (a : Option TableRef) : MetaOp → Option TableRef
  | setmetatable (v :: .nil :: _) => if c = v.metaClass then none else a
  | setmetatable (v :: .table t :: _) => if c = v.metaClass then some t else a
  | _ => a

/-- The values an operation attaches to belong to a machine. -/
def Targets (m : Machine) : MetaOp → Prop
  | setmetatable (v :: _) => m.Holds v
  | _ => True

open Machine Exec

theorem setmetatable_args (args : List Value) :
    (∃ v mt rest, args = v :: Value.ofMetatable mt :: rest) ∨
      ∀ mt, args[1]? ≠ some (Value.ofMetatable mt) := by
  match args with
  | [] | [_] => exact .inr fun mt => nofun
  | v :: arg :: rest =>
    cases arg
    case nil => exact .inl ⟨v, none, rest, rfl⟩
    case table t => exact .inl ⟨v, some t, rest, rfl⟩
    all_goals exact .inr fun mt same => by cases mt <;> cases same

theorem attach_refused (c : MetaClass) (a : Option TableRef) {args : List Value}
    (refused : ∀ mt, args[1]? ≠ some (Value.ofMetatable mt)) :
    attach c a (setmetatable args) = a := by
  match args, refused with
  | [], _ | [_], _ => rfl
  | v :: arg :: rest, refusedArg =>
    cases arg
    case nil => exact absurd rfl (refusedArg none)
    case table t => exact absurd rfl (refusedArg (some t))
    all_goals rfl

theorem after_getmetatable (m : Machine) (args : List Value) : after m (getmetatable args) = m := by
  cases args with
  | nil => simp [after, run, callBuiltin, checkArity, check, bind, EStateM.bind, fail, throw,
      throwThe, MonadExceptOf.throw, EStateM.throw]
  | cons v rest => simp [after, run, getmetatable_call]

theorem after_setmetatable (m : Machine) (v : Value) (mt : Option TableRef) (rest : List Value) :
    after m (setmetatable (v :: Value.ofMetatable mt :: rest)) = m.setMetatable v mt := by
  simp [after, run, setmetatable_call]

theorem after_refused (m : Machine) {args : List Value}
    (refused : ∀ mt, args[1]? ≠ some (Value.ofMetatable mt)) :
    after m (setmetatable args) = m := by
  simp [after, run, setmetatable_refused m refused]

theorem after_write (m : Machine) (t : TableRef) (key : TableKey) (v : Value) :
    after m (write t key v) = m.modifyTable t (·.set key v) := by
  simp [after, run, bind, EStateM.bind, modify, modifyGet, MonadStateOf.modifyGet,
    EStateM.modifyGet, pure, EStateM.pure]

theorem after_tables_size (m : Machine) (op : MetaOp) :
    (after m op).tables.size = m.tables.size := by
  cases op with
  | getmetatable args => rw [after_getmetatable]
  | setmetatable args =>
    rcases setmetatable_args args with ⟨v, mt, rest, rfl⟩ | refused
    · simp [after_setmetatable]
    · rw [after_refused m refused]
  | write t key v => simp [after_write]

theorem attached_after (m : Machine) (op : MetaOp) (target : op.Targets m) (c : MetaClass) :
    (after m op).attached c = attach c (m.attached c) op := by
  cases op with
  | getmetatable args => rw [after_getmetatable]; rfl
  | setmetatable args =>
    rcases setmetatable_args args with ⟨v, mt, rest, rfl⟩ | refused
    · rw [after_setmetatable, attached_setMetatable m target]
      cases mt <;> rfl
    · rw [after_refused m refused, attach_refused c _ refused]
  | write t key v => rw [after_write, attached_write]; rfl

theorem attached_foldl (ops : List MetaOp) (m : Machine) (targets : ∀ op ∈ ops, op.Targets m)
    (c : MetaClass) :
    (ops.foldl after m).attached c = ops.foldl (attach c) (m.attached c) := by
  induction ops generalizing m with
  | nil => rfl
  | cons op rest ih =>
    have first : op.Targets m := targets op (List.mem_cons_self ..)
    -- the heap keeps its size, so the later operations' values still belong to it
    have later : ∀ op' ∈ rest, op'.Targets (after m op) := by
      intro op' member
      have held := targets op' (List.mem_cons_of_mem _ member)
      cases op' with
      | setmetatable args =>
        cases args with
        | nil => trivial
        | cons v _ => exact Machine.Holds.of_size held (after_tables_size m op)
      | getmetatable _ => trivial
      | write _ _ _ => trivial
    rw [List.foldl_cons, List.foldl_cons, ih (after m op) later, attached_after m op first]

end MetaOp

open Machine Exec

/-- Metatables follow the last `setmetatable` on each class. `getmetatable` of a value is
determined by the value's class: `nil` with nothing attached, else the attached table's
`__metatable` field as it is when asked, or the table when that field is unset.
`setmetatable` with `nil` or a table as second argument gives back its first argument and
replaces the attachment of exactly that argument's class, changing no table's entries; with any
other second argument, or fewer than two arguments, it fails with bad argument #2 and changes
nothing. Writing a table field changes no attachment. So after any sequence of these operations
the attachment of every class is what the last successful `setmetatable` on it attached, and
`getmetatable` shows it. -/
theorem metatable_follows_last_set :
    (∀ (m : Machine) (v : Value) (rest : List Value),
      callBuiltin .getmetatable (v :: rest) m = .ok [m.shown (m.attached v.metaClass)] m) ∧
    (∀ (m : Machine) (v : Value) (mt : Option TableRef) (rest : List Value), m.Holds v →
      callBuiltin .setmetatable (v :: Value.ofMetatable mt :: rest) m = .ok [v] (m.setMetatable v mt) ∧
      (∀ c, (m.setMetatable v mt).attached c = if c = v.metaClass then mt else m.attached c) ∧
      (∀ t, ((m.setMetatable v mt).table t).entries = (m.table t).entries)) ∧
    (∀ (m : Machine) (args : List Value), (∀ mt, args[1]? ≠ some (Value.ofMetatable mt)) →
      callBuiltin .setmetatable args m =
        .error (.error (.badArgument 2 "setmetatable" "nil or table expected")) m) ∧
    (∀ (m : Machine) (t : TableRef) (key : TableKey) (v : Value) (c : MetaClass),
      (m.modifyTable t (·.set key v)).attached c = m.attached c) ∧
    (∀ (ops : List MetaOp) (m : Machine), (∀ op ∈ ops, op.Targets m) → ∀ v rest,
      callBuiltin .getmetatable (v :: rest) (ops.foldl MetaOp.after m) =
        .ok [(ops.foldl MetaOp.after m).shown
          (ops.foldl (MetaOp.attach v.metaClass) (m.attached v.metaClass))]
          (ops.foldl MetaOp.after m)) := by
  refine ⟨fun m v rest => getmetatable_call v rest m, fun m v mt rest held =>
    ⟨setmetatable_call v mt rest m, attached_setMetatable m held mt,
      entries_setMetatable m v mt⟩,
    fun m args refused => setmetatable_refused m refused, attached_write,
    fun ops m targets v rest => ?_⟩
  rw [getmetatable_call, MetaOp.attached_foldl ops m targets]

/-- A session that attaches table 2 to the integer `1`, then locks it. -/
def numberSession : List MetaOp :=
  [.setmetatable [.int 1, .table ⟨2⟩], .write ⟨2⟩ (.str "__metatable") (.str "locked")]

/-- After `numberSession` a float sees the table attached through an integer. -/
theorem integer_metatable_reaches_floats :
    (∀ op ∈ numberSession, op.Targets (Machine.boot {})) ∧
    numberSession.foldl (MetaOp.attach (Value.num 2.5).metaClass)
      ((Machine.boot {}).attached (Value.num 2.5).metaClass) = some ⟨2⟩ ∧
    callBuiltin .getmetatable [.num 2.5] (numberSession.foldl MetaOp.after (Machine.boot {})) =
      .ok [(numberSession.foldl MetaOp.after (Machine.boot {})).shown (some ⟨2⟩)]
        (numberSession.foldl MetaOp.after (Machine.boot {})) := by
  have targets : ∀ op ∈ numberSession, op.Targets (Machine.boot {}) := by
    simp [numberSession, MetaOp.Targets, Machine.Holds]
  have attachedTwo : numberSession.foldl (MetaOp.attach (Value.num 2.5).metaClass)
      ((Machine.boot {}).attached (Value.num 2.5).metaClass) = some ⟨2⟩ := by
    decide
  refine ⟨targets, attachedTwo, ?_⟩
  rw [← attachedTwo]
  exact metatable_follows_last_set.2.2.2.2 numberSession _ targets (.num 2.5) []

end LuaIntrospect
