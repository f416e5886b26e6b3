import Mathlib
import LuaIntrospect.Value.Basic

/-! Raw equality of values. Main statements: `equality_symmetric_transitive_but_rounded` and
`equality_rounds_large_integers`. -/
namespace LuaIntrospect

namespace Value

theorem equal_comm (a b : Value) : a.equal b = b.equal a := by
  cases a <;> cases b <;> simp [equal, BEq.comm]

theorem equal_trans_or {a b c : Value} (first : a.equal b = true) (second : b.equal c = true) :
    a.equal c = true ∨ ∃ i f j, a = .int i ∧ b = .num f ∧ c = .int j := by
  -- values of different kinds are never equal, except integers and floats
  cases a <;> cases b <;> simp only [equal, Bool.false_eq_true] at first <;>
    cases c <;> simp only [equal, Bool.false_eq_true] at second
  case int.num.int i x j => exact .inr ⟨i, x, j, rfl, rfl, rfl⟩
  -- a chain with a float in it is a chain of float equalities
  case num.num.num => exact .inl (BEq.trans first second)
  case int.num.num => exact .inl (BEq.trans first second)
  case num.int.num => exact .inl (BEq.trans (BEq.symm first) second)
  case num.num.int => exact .inl (BEq.trans second (BEq.symm first))
  case int.int.num =>
    rw [beq_iff_eq] at first
    subst first
    exact .inl second
  case num.int.int =>
    rw [beq_iff_eq] at second
    subst second
    exact .inl first
  case nil.nil.nil => exact .inl rfl
  all_goals
    simp only [equal, beq_iff_eq] at first second ⊢
    exact .inl (first.trans second)

end Value

open Decimal Value

/-- Raw equality is symmetric and, except through a float between two integers, transitive.
An integer and a float are equal exactly when the float equals the integer rounded to the
nearest float. A chain `a = b = c` breaks exactly when `a` and `c` are different integers that
both round to the float `b`. -/
theorem equality_symmetric_transitive_but_rounded (a b c : Value) :
    a.equal b = b.equal a ∧
    ((¬∃ i x j, a = .int i ∧ b = .num x ∧ c = .int j) →
      a.equal b = true → b.equal c = true → a.equal c = true) ∧
    ((a.equal b = true ∧ b.equal c = true ∧ a.equal c = false) ↔
      ∃ i x j, a = .int i ∧ b = .num x ∧ c = .int j ∧ i ≠ j ∧
        (ofInt i.toInt == x) = true ∧ (ofInt j.toInt == x) = true) ∧
    (∀ (i : Int64) (x : Float), a = .int i → b = .num x → a.equal b = (ofInt i.toInt == x)) := by
  refine ⟨equal_comm a b, fun notChain first second => ?_, ⟨?_, ?_⟩, ?_⟩
  · rcases equal_trans_or first second with joined | chain
    · exact joined
    · exact absurd chain notChain
  · rintro ⟨first, second, broken⟩
    rcases equal_trans_or first second with joined | ⟨i, x, j, rfl, rfl, rfl⟩
    · rw [joined] at broken
      cases broken
    · refine ⟨i, x, j, rfl, rfl, rfl, ?_, first, ?_⟩
      · intro same
        subst same
        simp [equal] at broken
      · rw [equal_comm] at second
        exact second
  · rintro ⟨i, x, j, rfl, rfl, rfl, apart, first, second⟩
    refine ⟨first, ?_, ?_⟩
    · rw [equal_comm]
      exact second
    · simpa [equal] using apart
  · rintro i x rfl rfl
    rfl

/-- The float `2 ^ 53`, by its bits. -/
def twoPow53 : Float := Float.ofBits 0x4340000000000000

/-- The integer `2 ^ 53 + 1` equals the float `2 ^ 53`, which equals the integer `2 ^ 53`, yet
the two integers differ: equality of an integer and a float is not equality of numbers, and it
does not chain. -/
theorem equality_rounds_large_integers :
    (Binary.ofFloat twoPow53).integral? = some 9007199254740992 ∧
    (Value.int 9007199254740993).equal (.num twoPow53) = true ∧
    (Value.num twoPow53).equal (.int 9007199254740992) = true ∧
    (Value.int 9007199254740993).equal (.int 9007199254740992) = false := by
  decide +kernel

end LuaIntrospect
