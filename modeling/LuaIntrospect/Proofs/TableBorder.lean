import Mathlib
import LuaIntrospect.Machine.Library

/-! The entries and the border of tables built by writes. Main statement: `reached_table_laws`. -/
namespace LuaIntrospect

namespace Table

/-- The tables that writes build: the empty table, a write to a built table, and a built table
given another metatable. Every table construction is a run of writes from the empty table. -/
inductive Reached : Table → Prop
  | empty : Reached Table.empty
  | set {t : Table} (k : TableKey) (v : Value) : Reached t → Reached (t.set k v)
  | withMetatable {t : Table} (mt : Option TableRef) : Reached t → Reached { t with metatable := mt }

theorem Reached.foldl {α : Type} {step : Table → α → Table}
    (preserves : ∀ t a, t.Reached → (step t a).Reached) (items : List α) {t : Table}
    (reached : t.Reached) : (items.foldl step t).Reached := by
  induction items generalizing t with
  | nil => exact reached
  | cons a rest ih => exact ih (preserves t a reached)

theorem libraryTable_reached (lib : Library) : (Machine.libraryTable lib).Reached :=
  Reached.foldl (fun _ b reached => reached.set (.str b.name) _) _ .empty

theorem infoTable_reached (i : DebugInfo) : i.toTable.Reached :=
  Reached.foldl (fun _ p reached => reached.set (.str p.1) _) _ .empty

theorem mem_insertEntry {e : TableKey × Value} {k : TableKey} {v : Value}
    {entries : List (TableKey × Value)} (member : e ∈ insertEntry k v entries) :
    e = (k, v) ∨ e ∈ entries := by
  induction entries with
  | nil => simpa [insertEntry] using member
  | cons entry rest ih =>
    obtain ⟨k', v'⟩ := entry
    rcases order : k.compare k' with _ | _ | _
    all_goals simp only [insertEntry, order, List.mem_cons] at member
    · -- the new entry goes in front
      rcases member with same | old
      · exact .inl same
      · exact .inr (List.mem_cons.mpr old)
    · -- the entry of the same key is replaced
      rcases member with same | old
      · exact .inl same
      · exact .inr (List.mem_cons_of_mem _ old)
    · -- the first entry stays and the insertion goes further
      rcases member with first | later
      · exact .inr (first ▸ List.mem_cons_self)
      · rcases ih later with same | old
        · exact .inl same
        · exact .inr (List.mem_cons_of_mem _ old)

theorem Reached.no_nil {t : Table} (reached : t.Reached) : ∀ e ∈ t.entries, e.2.isNil = false := by
  induction reached with
  | empty => simp [Table.empty]
  | set k v _ ih =>
    intro e member
    by_cases removed : v.isNil
    · -- a removal keeps some of the entries
      simp only [Table.set, removed, if_true] at member
      exact ih e (List.mem_filter.mp member).1
    · simp only [Table.set, removed] at member
      rcases mem_insertEntry member with rfl | old
      · simpa using removed
      · exact ih e old
  | withMetatable mt _ ih => exact ih

theorem contains_iff {t : Table} {k : TableKey} :
    t.contains k = true ↔ k ∈ t.entries.map Prod.fst := by
  simp [Table.contains]

theorem get_isNil {t : Table} (noNil : ∀ e ∈ t.entries, e.2.isNil = false) (k : TableKey) :
    (t.get k).isNil = !t.contains k := by
  unfold Table.get
  cases found : t.entries.find? (fun e => e.1 == k) with
  | none =>
    have absent : t.contains k = false := by
      simpa [Table.contains, List.find?_eq_none] using found
    simp [absent, Value.isNil]
  | some e =>
    have hit := List.find?_some found
    have present : t.contains k = true :=
      List.any_eq_true.mpr ⟨e, List.mem_of_find?_eq_some found, hit⟩
    simp [present, noNil e (List.mem_of_find?_eq_some found)]

theorem borderFrom_spec (t : Table) (n fuel : Nat) :
    n ≤ t.borderFrom n fuel ∧ t.borderFrom n fuel ≤ n + fuel ∧
      (∀ i, n < i → i ≤ t.borderFrom n fuel → t.contains (.int (Int64.ofNat i)) = true) ∧
      (t.borderFrom n fuel < n + fuel →
        t.contains (.int (Int64.ofNat (t.borderFrom n fuel + 1))) = false) := by
  induction fuel generalizing n with
  | zero => exact ⟨le_refl _, le_refl _, fun i above below => by simp [borderFrom] at below; omega,
      fun early => by simp [borderFrom] at early⟩
  | succ fuel ih =>
    by_cases next : t.contains (.int (Int64.ofNat (n + 1))) = true
    · -- the key is present: one more, and the rest is the loop from `n + 1`
      have step : t.borderFrom n (fuel + 1) = t.borderFrom (n + 1) fuel := by
        simp only [borderFrom, next, if_true]
      obtain ⟨low, high, present, stopped⟩ := ih (n + 1)
      refine ⟨by omega, by omega, ?_, fun early => step ▸ stopped (by omega)⟩
      intro i above below
      by_cases first : i = n + 1
      · exact first ▸ next
      · exact present i (by omega) (by omega)
    · -- the key is absent: the loop stops where it is
      have step : t.borderFrom n (fuel + 1) = n := by
        simp only [borderFrom, next, Bool.false_eq_true, if_false]
      rw [step]
      exact ⟨le_refl _, by omega, fun i above below => by omega, fun _ => by simpa using next⟩

theorem sequenceKeys_nodup (n : Nat) (fits : n ≤ 2 ^ 64) :
    ((List.range n).map fun i => TableKey.int (Int64.ofNat (i + 1))).Nodup := by
  apply List.Nodup.map_on _ List.nodup_range
  intro i below j below' same
  have bits := congrArg (fun k => match k with | TableKey.int x => x.toBitVec.toNat | _ => 0) same
  simp at bits
  simp at below below'
  omega

theorem border_spec (t : Table) :
    t.border ≤ t.entries.length ∧
      (∀ i, 0 < i → i ≤ t.border → t.contains (.int (Int64.ofNat i)) = true) ∧
      (t.border < t.entries.length → t.contains (.int (Int64.ofNat (t.border + 1))) = false) := by
  have unfolded : t.border = t.borderFrom 0 t.entries.length := rfl
  obtain ⟨-, bound, present, stopped⟩ := borderFrom_spec t 0 t.entries.length
  rw [unfolded]
  exact ⟨by omega, present, fun early => stopped (by omega)⟩

theorem border_next_absent (t : Table) (size : t.entries.length < 2 ^ 64) :
    t.contains (.int (Int64.ofNat (t.border + 1))) = false := by
  obtain ⟨bound, present, stopped⟩ := border_spec t
  rcases Nat.lt_or_ge t.border t.entries.length with early | exhausted
  · exact stopped early
  · have whole : t.border = t.entries.length := by omega
    rw [whole]
    by_contra next
    -- `n + 1` different keys would be present among `n` entries
    have sub : ((List.range (t.entries.length + 1)).map
        fun i => TableKey.int (Int64.ofNat (i + 1))) ⊆ t.entries.map Prod.fst := by
      intro k member
      obtain ⟨i, range, rfl⟩ := List.mem_map.mp member
      rw [← contains_iff]
      by_cases last : i = t.entries.length
      · subst last
        simpa using next
      · exact present (i + 1) (by omega) (by simp at range; omega)
    have counted := (sequenceKeys_nodup _ (by omega)).length_le_of_subset sub
    simp at counted

end Table

/-- Tables built by writes: from the empty table, by writes of any keys and values, and by
metatable changes. No entry holds `nil`; a key reads as `nil` exactly when it is absent; and the
border `n` counts the keys `1, ..., n`, all present, with `n + 1` absent, so the counting loop
stops within as many steps as the table has entries. The loop's last check needs the entry count
to be a 64-bit word, as every table's is. -/
theorem reached_table_laws (t : Table) (reached : t.Reached) :
    (∀ e ∈ t.entries, e.2.isNil = false) ∧
    (∀ k, (t.get k).isNil = !t.contains k) ∧
    (∀ i, 1 ≤ i → i ≤ t.border → t.contains (.int (Int64.ofNat i)) = true) ∧
    (t.entries.length < 2 ^ 64 → t.contains (.int (Int64.ofNat (t.border + 1))) = false) ∧
    t.border ≤ t.entries.length := by
  obtain ⟨bound, present, -⟩ := Table.border_spec t
  exact ⟨reached.no_nil, Table.get_isNil reached.no_nil, present, Table.border_next_absent t, bound⟩

/-- The keys `1`, `2` and `4`, with `3` written and then removed. -/
def sequenceWithHole : Table :=
  ((((Table.empty.set (.int 1) (.int 10)).set (.int 2) (.int 20)).set (.int 3) (.int 30)).set
    (.int 4) (.int 40)).set (.int 3) .nil

/-- The table with a hole at `3` is built by writes and has border `2`, with `3` absent. -/
theorem sequenceWithHole_border :
    sequenceWithHole.Reached ∧ sequenceWithHole.entries.length < 2 ^ 64 ∧
      sequenceWithHole.border = 2 ∧
      sequenceWithHole.contains (.int (Int64.ofNat (sequenceWithHole.border + 1))) = false := by
  have reached : sequenceWithHole.Reached :=
    ((((Table.Reached.empty.set _ _).set _ _).set _ _).set _ _).set _ _
  exact ⟨reached, by decide, by decide,
    (reached_table_laws sequenceWithHole reached).2.2.2.1 (by decide)⟩

end LuaIntrospect
