import Mathlib
import LuaIntrospect.Table
import LuaIntrospect.Proofs.FloatIntegers

/-! Table keys against raw equality. Main statements: `table_keys_match_equality_when_exact` and
`large_floats_share_saturated_key`. -/
namespace LuaIntrospect

namespace TableKey

theorem compare_eq_iff {k k' : TableKey} : k.compare k' = .eq ↔ k = k' := by
  cases k <;> cases k' <;> simp [TableKey.compare, Int64.toInt_inj]

end TableKey

namespace Table

theorem find?_insertEntry (k k' : TableKey) (v : Value) (entries : List (TableKey × Value)) :
    (insertEntry k v entries).find? (fun e => e.1 == k') =
      if k = k' then some (k, v) else entries.find? (fun e => e.1 == k') := by
  induction entries with
  | nil => by_cases same : k = k' <;> simp [insertEntry, same]
  | cons entry rest ih =>
    obtain ⟨k₁, v₁⟩ := entry
    rcases order : k.compare k₁ with _ | _ | _
    · -- the new entry goes in front
      by_cases same : k = k'
      · subst same
        simp [insertEntry, order]
      · simp [insertEntry, order, same]
    · -- the entry of the same key is replaced
      obtain rfl := TableKey.compare_eq_iff.mp order
      by_cases same : k = k'
      · subst same
        simp [insertEntry, order]
      · simp [insertEntry, order, same]
    · -- the entry stays in front of the insertion, and its key is another
      have other : (k₁ == k) = false := by
        rw [beq_eq_false_iff_ne]
        intro same
        rw [same, TableKey.compare_eq_iff.mpr rfl] at order
        cases order
      simp only [insertEntry, order, List.find?_cons, ih]
      by_cases same : k = k'
      · subst same
        simp [other]
      · simp [same]

/-- A read after a write: the written key gives the written value, `nil` included since writing
`nil` removes the key, and every other key keeps its value. -/
theorem get_set (t : Table) (k k' : TableKey) (v : Value) :
    (t.set k v).get k' = if k = k' then v else t.get k' := by
  unfold set
  by_cases removed : v.isNil
  · rw [if_pos removed]
    have nil : v = .nil := by
      cases v <;> simp_all [Value.isNil]
    subst nil
    unfold get
    by_cases same : k = k'
    · -- no entry of the key is left
      subst same
      rw [List.find?_filter, if_pos rfl, List.find?_eq_none.mpr (by simp)]
    · -- an entry of another key is never removed
      rw [List.find?_filter, if_neg same]
      congr 2
      funext e
      by_cases hit : e.1 = k'
      · simp [hit, Ne.symm same]
      · simp [hit]
  · rw [if_neg removed]
    unfold get
    rw [find?_insertEntry]
    by_cases same : k = k'
    · rw [if_pos same, if_pos same]
    · rw [if_neg same, if_neg same]

end Table

open Decimal

namespace Value

theorem asInteger?_num_eq_some (x : Float) (i : Int64) :
    (Value.num x).asInteger? = some i ↔ ∃ n, (Binary.ofFloat x).integral? = some n ∧
      i.toInt = max (-9223372036854775808) (min n 9223372036854775807) := by
  show Option.map clampInt64 (Binary.ofFloat x).integral? = some i ↔ _
  rw [Option.map_eq_some_iff]
  refine exists_congr fun n => and_congr_right fun _ => ?_
  rw [← Int64.toInt_inj, toInt_clampInt64, eq_comm]

theorem equal_int_num_iff {i j : Int64} {y : Float}
    (intExact : (Binary.ofFloat (ofInt i.toInt)).integral? = some i.toInt)
    (floatExact : (Binary.ofFloat y).integral? = some j.toInt) :
    (Value.int i).equal (.num y) = true ↔ i = j := by
  show (ofInt i.toInt == y) = true ↔ i = j
  rw [Binary.beq_iff_of_integral intExact floatExact, Int64.toInt_inj]

theorem equal_num_num_iff {i j : Int64} {x y : Float}
    (exactX : (Binary.ofFloat x).integral? = some i.toInt)
    (exactY : (Binary.ofFloat y).integral? = some j.toInt) :
    (Value.num x).equal (.num y) = true ↔ i = j := by
  show (x == y) = true ↔ i = j
  rw [Binary.beq_iff_of_integral exactX exactY, Int64.toInt_inj]

end Value

namespace TableKey

theorem ofValue?_eq_some {v : Value} {k : TableKey} : ofValue? v = some k ↔
    (∃ b, v = .bool b ∧ k = .bool b) ∨ (∃ i, v = .int i ∧ k = .int i) ∨
      (∃ s, v = .str s ∧ k = .str s) ∨
        ∃ x i, v = .num x ∧ integralInt64? x = some i ∧ k = .int i := by
  cases v <;> simp [ofValue?, eq_comm]

theorem integral?_of_exact {x : Float} {i : Int64} (key : integralInt64? x = some i)
    (exact : (Value.num x).asInteger?.map Int64.toInt = (Binary.ofFloat x).integral?) :
    (Binary.ofFloat x).integral? = some i.toInt := by
  rw [show (Value.num x).asInteger? = integralInt64? x from rfl, key] at exact
  exact exact.symm

theorem ofValue?_eq_iff_equal {a b : Value} {ka kb : TableKey}
    (keyA : ofValue? a = some ka) (keyB : ofValue? b = some kb)
    (floatsExact : ∀ x, (a = .num x ∨ b = .num x) →
      (Value.num x).asInteger?.map Int64.toInt = (Binary.ofFloat x).integral?)
    (integersExact : ∀ i x, (a = .int i ∧ b = .num x ∨ a = .num x ∧ b = .int i) →
      (Binary.ofFloat (ofInt i.toInt)).integral? = some i.toInt) :
    ka = kb ↔ a.equal b = true := by
  rcases ofValue?_eq_some.mp keyA with ⟨p, rfl, rfl⟩ | ⟨i, rfl, rfl⟩ | ⟨s, rfl, rfl⟩ |
      ⟨x, i, rfl, keyX, rfl⟩ <;>
    rcases ofValue?_eq_some.mp keyB with ⟨p', rfl, rfl⟩ | ⟨j, rfl, rfl⟩ | ⟨s', rfl, rfl⟩ |
      ⟨y, j, rfl, keyY, rfl⟩
  case inr.inl.inr.inr.inr =>
    rw [Value.equal_int_num_iff (integersExact i y (.inl ⟨rfl, rfl⟩))
      (integral?_of_exact keyY (floatsExact y (.inr rfl))), TableKey.int.injEq]
  case inr.inr.inr.inr.inl =>
    rw [show (Value.num x).equal (.int j) = (Value.int j).equal (.num x) from rfl,
      Value.equal_int_num_iff (integersExact j x (.inr ⟨rfl, rfl⟩))
      (integral?_of_exact keyX (floatsExact x (.inl rfl))), TableKey.int.injEq, eq_comm]
  case inr.inr.inr.inr.inr =>
    rw [Value.equal_num_num_iff (integral?_of_exact keyX (floatsExact x (.inl rfl)))
      (integral?_of_exact keyY (floatsExact y (.inr rfl))), TableKey.int.injEq]
  -- values of one kind compare as themselves, values of different kinds are never equal
  all_goals simp [Value.equal]

end TableKey

/-- Table slots follow raw equality wherever both conversions are exact. Two values that a table
accepts as keys index the same slot exactly when they are equal, provided every float among
them has its integer within the 64-bit range and every integer compared with a float is itself
a float (as every integer of magnitude at most `2 ^ 53` is, `integral?_ofInt`). A write under
one is then read back under the other exactly when they are equal. A float converts to an integer
exactly when it has an integer value, and the result is that integer saturated to 64 bits. -/
theorem table_keys_match_equality_when_exact (a b : Value) (ka kb : TableKey)
    (keyA : TableKey.ofValue? a = some ka) (keyB : TableKey.ofValue? b = some kb)
    (floatsExact : ∀ x, (a = .num x ∨ b = .num x) →
      (Value.num x).asInteger?.map Int64.toInt = (Binary.ofFloat x).integral?)
    (integersExact : ∀ i x, (a = .int i ∧ b = .num x ∨ a = .num x ∧ b = .int i) →
      (Binary.ofFloat (ofInt i.toInt)).integral? = some i.toInt) :
    (ka = kb ↔ a.equal b = true) ∧
      (∀ (t : Table) (v : Value),
        (t.set ka v).get kb = if a.equal b = true then v else t.get kb) ∧
      ∀ (x : Float) (i : Int64), (Value.num x).asInteger? = some i ↔
        ∃ n, (Binary.ofFloat x).integral? = some n ∧
          i.toInt = max (-9223372036854775808) (min n 9223372036854775807) := by
  have agree := TableKey.ofValue?_eq_iff_equal keyA keyB floatsExact integersExact
  refine ⟨agree, fun t v => ?_, Value.asInteger?_num_eq_some⟩
  rw [Table.get_set]
  by_cases same : a.equal b = true
  · rw [if_pos (agree.mpr same), if_pos same]
  · rw [if_neg (mt agree.mp same), if_neg same]

/-- The float `1`, by its bits. -/
def floatOne : Float := Float.ofBits 0x3FF0000000000000

/-- The integer `1` and the float `1` index one slot, and are equal. -/
theorem integer_one_equals_float_one :
    TableKey.ofValue? (.num floatOne) = some (.int 1) ∧ (Value.int 1).equal (.num floatOne) = true :=
  ⟨by decide +kernel,
    (table_keys_match_equality_when_exact (.int 1) (.num floatOne) (.int 1) (.int 1) rfl
      (by decide +kernel)
      (fun x fromB => by
        rcases fromB with h | h
        · cases h
        · cases h
          decide +kernel)
      (fun i x pair => by
        rcases pair with ⟨h, h'⟩ | ⟨h, -⟩
        · cases h
          cases h'
          exact integral?_ofInt (by decide)
        · cases h)).1.mp rfl⟩

/-- The floats `1e300` and `1e301`, by their bits. -/
def tenPow300 : Float := Float.ofBits 0x7E37E43C8800759C

def tenPow301 : Float := Float.ofBits 0x7E6DDD4BAA009303

/-- Floats past `2 ^ 63` share the saturated key `2 ^ 63 - 1`: `1e300` and `1e301` index one slot
though they are not equal, and `1e300`, an integer above `10 ^ 300`, converts to the integer
`2 ^ 63 - 1`. -/
theorem large_floats_share_saturated_key :
    TableKey.ofValue? (.num tenPow300) = some (.int 9223372036854775807) ∧
      TableKey.ofValue? (.num tenPow301) = some (.int 9223372036854775807) ∧
      (Value.num tenPow300).equal (.num tenPow301) = false ∧
      (Value.num tenPow300).asInteger? = some 9223372036854775807 ∧
      (Binary.ofFloat tenPow300).integral?.any (fun n => decide (10 ^ 300 ≤ n)) = true := by
  decide +kernel

end LuaIntrospect
