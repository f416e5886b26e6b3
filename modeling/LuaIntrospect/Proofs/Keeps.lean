import Mathlib
import LuaIntrospect.Machine.Exec

/-! `Keeps R x`: every run of `x` that the program goes on from relates its first and last
machines by `R`, with rules along the structure of a step. -/
namespace LuaIntrospect.Exec

universe u

/-- The machine a run ends in, when it ends with a value or a guest error. -/
def ending {α : Type} : EStateM.Result Halt Machine α → Option Machine
  | .ok _ m => some m
  | .error (.error _) m => some m
  | .error _ _ => none

@[simp] theorem ending_ok {α : Type} (a : α) (m : Machine) :
    ending (.ok a m : EStateM.Result Halt Machine α) = some m := rfl

@[simp] theorem ending_error {α : Type} (e : LuaError) (m : Machine) :
    ending (.error (.error e) m : EStateM.Result Halt Machine α) = some m := rfl

@[simp] theorem ending_malformed {α : Type} (message : String) (m : Machine) :
    ending (.error (.malformed message) m : EStateM.Result Halt Machine α) = none := rfl

@[simp] theorem ending_exhausted {α : Type} (m : Machine) :
    ending (.error .exhausted m : EStateM.Result Halt Machine α) = none := rfl

@[simp] theorem fail_bind {α β : Type} (e : LuaError) (f : α → Exec β) :
    (fail e >>= f) = fail e := rfl

theorem ending_error_retype {α β : Type} (h : Halt) (m : Machine) :
    ending (.error h m : EStateM.Result Halt Machine α) =
      ending (.error h m : EStateM.Result Halt Machine β) := by
  cases h <;> rfl

/-- Every run of `x` that ends with a value or a guest error relates its first and last
machines by `R`. -/
def Keeps (R : Machine → Machine → Prop) {α : Type} (x : Exec α) : Prop :=
  ∀ m m', ending (x m) = some m' → R m m'

variable {R S : Machine → Machine → Prop} {α β : Type}

theorem Keeps.mono {x : Exec α} (kept : Keeps R x) (weaker : ∀ m m', R m m' → S m m') :
    Keeps S x :=
  fun m m' ended => weaker m m' (kept m m' ended)

theorem Keeps.pure [Std.Refl R] (a : α) : Keeps R (Pure.pure a : Exec α) := by
  intro m m' ended
  cases ended
  exact Std.Refl.refl m

theorem Keeps.bind [Trans R R R] {x : Exec α} {f : α → Exec β}
    (first : Keeps R x) (rest : ∀ a, Keeps R (f a)) : Keeps R (x >>= f) := by
  intro m m' ended
  cases run : x m with
  | ok a middle =>
    have second : ending (f a middle) = some m' := by
      simpa [Bind.bind, EStateM.bind, run] using ended
    exact Trans.trans (first m middle (by simp [run])) (rest a middle m' second)
  | error halt middle =>
    have failed : ending (EStateM.Result.error halt middle : EStateM.Result Halt Machine β) =
        some m' := by
      simpa [Bind.bind, EStateM.bind, run] using ended
    apply first m m'
    rw [run, ending_error_retype]
    exact failed

theorem Keeps.get [Std.Refl R] : Keeps R (MonadState.get : Exec Machine) := by
  intro m m' ended
  cases ended
  exact Std.Refl.refl m

theorem Keeps.modify {g : Machine → Machine} (step : ∀ m, R m (g m)) :
    Keeps R (modify g : Exec PUnit) := by
  intro m m' ended
  cases ended
  exact step m

theorem Keeps.modifyGet {g : Machine → α × Machine} (step : ∀ m, R m (g m).2) :
    Keeps R (modifyGet g : Exec α) := by
  intro m m' ended
  cases ended
  exact step m

theorem Keeps.throw [Std.Refl R] (h : Halt) : Keeps R (throw h : Exec α) := by
  intro m m' ended
  cases h with
  | error e =>
    cases ended
    exact Std.Refl.refl m
  | malformed message => cases ended
  | exhausted => cases ended

theorem Keeps.fail [Std.Refl R] (e : LuaError) : Keeps R (fail e : Exec α) :=
  Keeps.throw _

theorem Keeps.malformed (message : String) : Keeps R (malformed message : Exec α) := by
  intro m m' ended
  cases ended

theorem Keeps.malformed_bind {f : α → Exec β} (message : String) :
    Keeps R (Exec.malformed message >>= f) := by
  intro m m' ended
  cases ended

theorem Keeps.attempt {x : Exec α} (inner : Keeps R x) : Keeps R (attempt x) := by
  intro m m' ended
  apply inner m m'
  unfold Exec.attempt at ended
  split at ended <;> rename_i run <;> rw [run]
  · simpa using ended
  · simpa using ended
  · rwa [ending_error_retype]

theorem Keeps.rethrow [Std.Refl R] (r : Except LuaError α) : Keeps R (rethrow r) := by
  cases r with
  | ok a => exact Keeps.pure a
  | error e => exact Keeps.throw _

theorem Keeps.forIn_mem [Std.Refl R] [Trans R R R] {γ : Type} {l : List γ} {b : β}
    {f : γ → β → Exec (ForInStep β)} (body : ∀ a ∈ l, ∀ b, Keeps R (f a b)) :
    Keeps R (ForIn.forIn l b f) := by
  induction l generalizing b with
  | nil => exact Keeps.pure b
  | cons a rest ih =>
    rw [List.forIn_cons]
    apply (body a List.mem_cons_self b).bind
    intro step
    cases step with
    | done b => exact Keeps.pure b
    | yield b => exact ih fun a member => body a (List.mem_cons_of_mem _ member)

theorem Keeps.forIn [Std.Refl R] [Trans R R R] {γ : Type} {l : List γ} {b : β}
    {f : γ → β → Exec (ForInStep β)} (body : ∀ a b, Keeps R (f a b)) :
    Keeps R (ForIn.forIn l b f) :=
  Keeps.forIn_mem fun a _ => body a

theorem Keeps.mapM [Std.Refl R] [Trans R R R] {γ : Type} {f : γ → Exec α}
    (each : ∀ a, Keeps R (f a)) (l : List γ) : Keeps R (l.mapM f) := by
  induction l with
  | nil => exact Keeps.pure []
  | cons a rest ih =>
    rw [List.mapM_cons]
    exact (each a).bind fun _ => ih.bind fun _ => Keeps.pure _

theorem Keeps.optionMapM [Std.Refl R] {γ : Type} {f : γ → Exec α}
    (each : ∀ a, Keeps R (f a)) (o : Option γ) : Keeps R (o.mapM f) := by
  cases o with
  | none => exact Keeps.pure none
  | some a =>
    intro m m' ended
    apply each a m m'
    simp only [Option.mapM, Functor.map, EStateM.map] at ended
    split at ended <;> rename_i run <;> rw [run]
    · simpa using ended
    · rwa [ending_error_retype]

end LuaIntrospect.Exec
