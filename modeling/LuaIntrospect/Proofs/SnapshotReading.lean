import Mathlib
import LuaIntrospect.Inspector.Snapshot

/-! What the RON readers can give. Main statement: `snapshot_frames_literal`. -/
namespace LuaIntrospect

/-- An expression that is a literal. -/
def Expr.IsLiteral (e : Expr) : Prop := ∃ l, e = .lit l

/-- A frame description whose locals and upvalues are all literals. -/
def FrameSpec.Literal (spec : FrameSpec) : Prop :=
  (∀ p ∈ spec.locals, p.2.IsLiteral) ∧ ∀ ups ∈ spec.upvalues, ∀ p ∈ ups, p.2.IsLiteral

namespace Ron

/-- Every value the reader gives, from any position, satisfies `P`. -/
def Gives {α : Type} (P : α → Prop) (x : Read α) : Prop :=
  ∀ c a c', x c = .ok a c' → P a

variable {α β : Type} {P : α → Prop} {Q : β → Prop}

theorem Gives.pure {a : α} (holds : P a) : Gives P (Pure.pure a : Read α) := by
  intro c a' c' run
  cases run
  exact holds

theorem Gives.bind {x : Read β} {f : β → Read α} (first : Gives Q x)
    (rest : ∀ b, Q b → Gives P (f b)) : Gives P (x >>= f) := by
  intro c a c' run
  cases given : x c with
  | ok b c₁ =>
    have second : f b c₁ = .ok a c' := by simpa [Bind.bind, EStateM.bind, given] using run
    exact rest b (first c b c₁ given) c₁ a c' second
  | error e c₁ => simp [Bind.bind, EStateM.bind, given] at run

theorem Gives.bind_any {x : Read β} {f : β → Read α} (rest : ∀ b, Gives P (f b)) :
    Gives P (x >>= f) :=
  Gives.bind (fun _ _ _ _ => True.intro) fun b (_ : True) => rest b

theorem Gives.throw (e : RonError) : Gives P (throw e : Read α) := by
  intro c a c' run
  cases run

theorem Gives.map {x : Read β} {g : β → α} (inner : Gives Q x) (mapped : ∀ b, Q b → P (g b)) :
    Gives P (g <$> x) := by
  rw [← bind_pure_comp]
  exact inner.bind fun b held => Gives.pure (mapped b held)

theorem Gives.nested {x : Read α} (inner : Gives P x) : Gives P (nested x) := by
  unfold Ron.nested
  refine Gives.bind_any fun c => ?_
  split
  · exact Gives.throw _
  · exact Gives.bind_any fun _ => inner.bind fun v held => Gives.bind_any fun _ => Gives.pure held

theorem Gives.withOuter (name : String) {x : Read α} (inner : Gives P x) :
    Gives P (withOuter name x) := by
  intro c a c' run
  simp only [Ron.withOuter] at run
  split at run
  · cases run
  · cases run
  · exact inner c a c' run

theorem Gives.nextValue {x : Read α} (inner : Gives P x) : Gives P (nextValue x) := by
  unfold Ron.nextValue
  refine Gives.bind_any fun _ => Gives.bind_any fun found => ?_
  split
  · exact Gives.bind_any fun _ => inner.nested
  · exact Gives.throw _

theorem Gives.closing {v : α} (held : P v) (close : String) (e : RonError) :
    Gives P (do
      let _ ← comma
      if ← consume close then Pure.pure v else MonadExcept.throw e) := by
  refine Gives.bind_any fun _ => Gives.bind_any fun closed => ?_
  split
  · exact Gives.pure held
  · exact Gives.throw _

/-- Elements read up to a closing byte: each one is a value of the element reader, and the ones
read before are kept. -/
theorem Gives.elements (terminator : UInt8) {elem : Read α} (each : Gives P elem) :
    ∀ (fuel : Nat) (hadComma : Bool) (acc : List α), (∀ a ∈ acc, P a) →
      Gives (fun items => ∀ a ∈ items, P a) (elements terminator elem fuel hadComma acc) := by
  intro fuel
  induction fuel with
  | zero =>
    intro hadComma acc held
    exact Gives.pure fun a mem => held a (List.mem_reverse.mp mem)
  | succ fuel ih =>
    intro hadComma acc held
    unfold Ron.elements
    refine Gives.bind_any fun more => ?_
    split
    · refine each.nested.bind fun v given => Gives.bind_any fun c => ih c (v :: acc) ?_
      intro a mem
      rcases List.mem_cons.mp mem with rfl | old
      · exact given
      · exact held a old
    · exact Gives.pure fun a mem => held a (List.mem_reverse.mp mem)

theorem Gives.list {elem : Read α} (each : Gives P elem) :
    Gives (fun items => ∀ a ∈ items, P a) (list elem) := by
  unfold Ron.list
  refine Gives.bind_any fun opened => ?_
  split
  · refine Gives.bind_any fun c => ?_
    exact (Gives.nested (Gives.elements 93 each _ true [] (by simp))).bind fun items held =>
      Gives.closing held _ _
  · exact Gives.throw _

theorem Gives.option {inner : Read α} (given : Gives P inner) :
    Gives (fun o => ∀ a ∈ o, P a) (option inner) := by
  unfold Ron.option
  refine Gives.bind_any fun isNone => ?_
  split
  · exact Gives.pure (by simp)
  · refine Gives.bind_any fun hasSome => ?_
    dsimp only
    -- after `Some(`, or with no opening at all, the reading goes on the same way
    split
    on_goal 1 => refine Gives.bind_any fun _ => Gives.bind_any fun opened => ?_
    on_goal 2 => refine Gives.bind_any fun opened => ?_
    all_goals
      split
      · exact Gives.bind_any fun _ => given.nested.bind fun v held =>
          Gives.closing (by simpa using held) _ _
      · refine Gives.bind_any fun c => ?_
        split
        · exact given.nested.map fun v held => by simpa using held
        · exact Gives.throw _

theorem Gives.fieldEntries {σ : Type} (Inv : σ → Prop) (fields : Fields σ)
    (reads : ∀ key st, Inv st → Gives Inv (fields.read key st)) :
    ∀ (fuel : Nat) (hadComma : Bool) (seen : List String) (st : σ), Inv st →
      Gives Inv (Ron.fieldEntries fields fuel hadComma seen st) := by
  intro fuel
  induction fuel with
  | zero =>
    intro hadComma seen st held
    exact Gives.pure held
  | succ fuel ih =>
    intro hadComma seen st held
    unfold Ron.fieldEntries
    refine Gives.bind_any fun more => ?_
    split
    · refine Gives.bind_any fun key => ?_
      split
      · split
        · exact Gives.throw _
        · refine (reads key st held).nextValue.bind fun st' held' => ?_
          exact Gives.bind_any fun c => ih c _ st' held'
      · exact Gives.bind_any fun _ => Gives.bind_any fun c => ih c seen st held
    · exact Gives.pure held

/-- A struct gives what its fields build, when every field keeps an invariant that the finishing
step turns into the property. -/
theorem Gives.struct {σ : Type} (Inv : σ → Prop) (name : String) (fields : Fields σ) {init : σ}
    {finish : σ → Except RonError α} (start : Inv init)
    (reads : ∀ key st, Inv st → Gives Inv (fields.read key st))
    (finishes : ∀ st v, Inv st → finish st = .ok v → P v) :
    Gives P (struct name fields init finish) := by
  unfold Ron.struct
  refine Gives.bind_any fun _ => Gives.bind_any fun _ => Gives.bind_any fun opened => ?_
  split
  · refine Gives.bind ((Gives.nested (Gives.bind_any fun c => ?_)).withOuter name : Gives P _)
      fun v held => ?_
    · -- the fields keep the invariant, and finishing turns it into the property
      refine (Gives.fieldEntries Inv fields reads _ true [] init start).bind fun st held => ?_
      split
      · rename_i v finished
        exact Gives.pure (finishes st v held finished)
      · exact Gives.throw _
    · exact Gives.closing held _ _
  · split
    · exact Gives.throw _
    · exact Gives.throw _

theorem Gives.readAll {x : Read α} (given : Gives P x) {text : String} {v : α}
    (read : Ron.readAll x text = .ok v) : P v := by
  simp only [Ron.readAll] at read
  split at read
  · rename_i v' c given'
    cases read
    refine (?_ : Gives P _) _ _ _ given'
    refine Gives.bind_any fun _ => Gives.bind_any fun _ => Gives.bind_any fun _ => ?_
    refine given.bind fun v held => Gives.bind_any fun _ => Gives.bind_any fun c => ?_
    split
    · exact Gives.throw _
    · exact Gives.pure held
  · cases read

end Ron

namespace Inspector

open Ron

theorem namedLiterals_literal : Gives (fun items => ∀ p ∈ items, p.2.IsLiteral) namedLiterals := by
  unfold namedLiterals
  refine Gives.bind_any fun items => Gives.pure ?_
  intro p mem
  obtain ⟨⟨name, l⟩, _, rfl⟩ := List.mem_map.mp mem
  exact ⟨l, rfl⟩

theorem frame_literal : Gives FrameSpec.Literal frame := by
  unfold frame
  refine Gives.struct FrameSpec.Literal _ _ ⟨by simp, by simp⟩ ?_ fun st v held finished => ?_
  · intro key st held
    dsimp only
    split
    · exact Gives.bind_any fun _ => Gives.pure held
    · exact Gives.bind_any fun _ => Gives.pure held
    · exact Gives.bind_any fun _ => Gives.pure held
    · exact Gives.bind_any fun _ => Gives.pure held
    · exact Gives.bind_any fun _ => Gives.pure held
    · exact namedLiterals_literal.bind fun _ locals => Gives.pure ⟨locals, held.2⟩
    · exact (Gives.option namedLiterals_literal).bind fun _ ups => Gives.pure ⟨held.1, ups⟩
  · cases finished
    exact held

theorem snapshot_literal : Gives (fun snap => ∀ spec ∈ snap.frames, spec.Literal) snapshot := by
  unfold snapshot
  refine Gives.struct (fun snap : StackSnapshot => ∀ spec ∈ snap.frames, spec.Literal) _ _ (by simp)
    ?_ fun st v held finished => ?_
  · intro key st held
    dsimp only
    split
    · exact Gives.bind_any fun _ => Gives.pure held
    · exact (Gives.list frame_literal).bind fun _ frames => Gives.pure frames
  · cases finished
    exact held

/-- The frames of a snapshot text that reads have literal locals and upvalues. -/
theorem snapshot_frames_literal {text : String} {snap : StackSnapshot}
    (read : readAll snapshot text = .ok snap) : ∀ spec ∈ snap.frames, spec.Literal :=
  snapshot_literal.readAll read

end Inspector

end LuaIntrospect
