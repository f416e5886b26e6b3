import Mathlib
import LuaIntrospect.Stack.Frame

/-! Byte offsets as lines and columns. Main statements: `lineCol_counts_newlines` and
`lineCol_last_offset_wraps`. -/
namespace LuaIntrospect

theorem ByteArray.foldlM_loop_id {β : Type} (f : β → UInt8 → β) (as : ByteArray) :
    ∀ (n j : Nat) (b : β), j + n = as.size →
      ByteArray.foldlM.loop (m := Id) (fun b a => pure (f b a)) as as.size (Nat.le_refl _) n j b =
        (as.data.toList.drop j).foldl f b := by
  have size : as.data.toList.length = as.size := Array.length_toList
  intro n
  induction n with
  | zero =>
    intro j b h
    unfold ByteArray.foldlM.loop
    rw [List.drop_eq_nil_of_le (by omega)]
    split <;> rfl
  | succ n ih =>
    intro j b h
    unfold ByteArray.foldlM.loop
    rw [dif_pos (by omega), List.drop_eq_getElem_cons (by omega), List.foldl_cons,
      ← ih (j + 1) _ (by omega)]
    rfl

theorem ByteArray.foldl_eq_foldl_toList {β : Type} (f : β → UInt8 → β) (init : β)
    (as : ByteArray) : as.foldl f init = as.data.toList.foldl f init := by
  unfold ByteArray.foldl ByteArray.foldlM
  rw [dif_pos (Nat.le_refl _)]
  exact ByteArray.foldlM_loop_id f as as.size 0 init (by omega)

namespace LineIndex

/-- The positions just after the newline bytes of a text whose first byte is at `p`. -/
def newlineEnds : List UInt8 → Nat → List Nat
  | [], _ => []
  | b :: rest, p => if b = 10 then (p + 1) :: newlineEnds rest (p + 1) else newlineEnds rest (p + 1)

/-- Where the line of the end of a text starts: after its last newline byte, or at zero. -/
def lastLineStart (bytes : List UInt8) : Nat :=
  bytes.length - (bytes.reverse.takeWhile (· ≠ 10)).length

theorem newlineEnds_append (l₁ l₂ : List UInt8) (p : Nat) :
    newlineEnds (l₁ ++ l₂) p = newlineEnds l₁ p ++ newlineEnds l₂ (p + l₁.length) := by
  induction l₁ generalizing p with
  | nil => rfl
  | cons b rest ih =>
    simp only [List.cons_append, newlineEnds, ih, List.length_cons, ← Nat.add_assoc]
    split <;> simp [Nat.add_right_comm]

theorem length_newlineEnds (l : List UInt8) (p : Nat) : (newlineEnds l p).length = l.count 10 := by
  induction l generalizing p with
  | nil => rfl
  | cons b rest ih =>
    simp only [newlineEnds, List.count_cons, beq_iff_eq]
    split <;> simp [ih]

theorem mem_newlineEnds {l : List UInt8} {p x : Nat} (mem : x ∈ newlineEnds l p) :
    p < x ∧ x ≤ p + l.length := by
  induction l generalizing p with
  | nil => cases mem
  | cons b rest ih =>
    simp only [newlineEnds] at mem
    split at mem
    · rcases List.mem_cons.mp mem with rfl | later
      · simp
      · have := ih later
        simp only [List.length_cons]
        omega
    · have := ih mem
      simp only [List.length_cons]
      omega

theorem getLast_newlineEnds (l : List UInt8) :
    (0 :: newlineEnds l 0).getLast (List.cons_ne_nil _ _) = lastLineStart l := by
  induction l using List.reverseRecOn with
  | nil => rfl
  | append_singleton l b ih =>
    have ends : newlineEnds [b] l.length = if b = 10 then [l.length + 1] else [] := by
      simp only [newlineEnds]
    simp only [newlineEnds_append, Nat.zero_add, ends, lastLineStart, List.reverse_append,
      List.reverse_singleton, List.singleton_append, List.length_append, List.length_singleton]
    split
    · rename_i newline
      simp [newline]
    · rename_i other
      have kept : decide (b ≠ 10) = true := by simpa using other
      simp only [List.append_nil]
      rw [List.takeWhile_cons_of_pos (p := fun x => decide (x ≠ 10)) (a := b) kept, List.length_cons,
        ih, lastLineStart]
      omega

theorem lastLineStart_eq_zero_iff (l : List UInt8) : lastLineStart l = 0 ↔ 10 ∉ l := by
  have bound : (l.reverse.takeWhile (· ≠ 10)).length ≤ l.length := by
    simpa using (List.takeWhile_prefix (· ≠ 10) (l := l.reverse)).length_le
  constructor
  · intro zero newline
    have all : l.reverse.takeWhile (· ≠ 10) = l.reverse :=
      List.IsPrefix.eq_of_length (List.takeWhile_prefix _)
        (by rw [lastLineStart] at zero; simp only [List.length_reverse]; omega)
    have := List.mem_takeWhile_imp (all ▸ List.mem_reverse.mpr newline)
    simp at this
  · intro absent
    have kept : ∀ x ∈ l.reverse, decide (x ≠ 10) = true := by
      intro x mem
      have : x ≠ 10 := fun same => absent (same ▸ List.mem_reverse.mp mem)
      simpa using this
    rw [lastLineStart, List.takeWhile_eq_self_iff.mpr kept]
    simp

theorem starts_ofString (source : String) :
    (ofString source).starts.toList = 0 :: newlineEnds source.toUTF8.data.toList 0 := by
  have fold : ∀ (l : List UInt8) (p : Nat) (acc : Array Nat),
      l.foldl (fun (acc : Nat × Array Nat) b =>
        (acc.1 + 1, if b = 10 then acc.2.push (acc.1 + 1) else acc.2)) (p, acc) =
        (p + l.length, acc ++ (newlineEnds l p).toArray) := by
    intro l
    induction l with
    | nil => simp [newlineEnds]
    | cons b rest ih =>
      intro p acc
      simp only [List.foldl_cons, newlineEnds]
      split <;> simp [ih, Nat.add_right_comm, Nat.add_assoc]
  simp only [ofString, ByteArray.foldl_eq_foldl_toList, fold]
  simp

theorem countUpTo_ofString (source : String) (offset : Nat) :
    countUpTo (ofString source).starts offset =
        (source.toUTF8.data.toList.take offset).count 10 + 1 ∧
      (ofString source).starts[(source.toUTF8.data.toList.take offset).count 10]! =
        lastLineStart (source.toUTF8.data.toList.take offset) := by
  set bytes := source.toUTF8.data.toList
  -- the starts up to the offset come from the bytes before it, the others lie past it
  have split : 0 :: newlineEnds bytes 0 =
      (0 :: newlineEnds (bytes.take offset) 0) ++ newlineEnds (bytes.drop offset) (bytes.take offset).length := by
    have parts := newlineEnds_append (bytes.take offset) (bytes.drop offset) 0
    rw [List.take_append_drop, Nat.zero_add] at parts
    rw [parts, List.cons_append]
  have early : ∀ x ∈ 0 :: newlineEnds (bytes.take offset) 0, x ≤ offset := by
    intro x mem
    rcases List.mem_cons.mp mem with rfl | later
    · exact Nat.zero_le _
    · have := (mem_newlineEnds later).2
      simp only [List.length_take] at this
      omega
  have late : ∀ x ∈ newlineEnds (bytes.drop offset) (bytes.take offset).length, offset < x := by
    intro x mem
    have bounds := mem_newlineEnds mem
    have := List.length_drop (l := bytes) (i := offset)
    simp only [List.length_take] at bounds
    by_cases within : offset ≤ bytes.length
    · omega
    · rw [List.drop_eq_nil_of_le (by omega)] at mem
      cases mem
  constructor
  · rw [countUpTo, starts_ofString, split, List.countP_append,
      List.countP_eq_length.mpr (by simpa using early),
      List.countP_eq_zero.mpr (by simpa using late)]
    simp [length_newlineEnds]
  · have found : (ofString source).starts[(bytes.take offset).count 10]? =
        some (lastLineStart (bytes.take offset)) := by
      rw [← Array.getElem?_toList, starts_ofString, split,
        List.getElem?_append_left (by simp [length_newlineEnds]), ← getLast_newlineEnds,
        List.getLast_eq_getElem, List.getElem?_eq_getElem (by simp [length_newlineEnds])]
      simp [length_newlineEnds]
    simp [getElem!_def, found]

theorem lineCol_ofString (source : String) (offset : Nat) :
    (ofString source).lineCol offset =
      ((source.toUTF8.data.toList.take offset).count 10 + 1,
        (offset - lastLineStart (source.toUTF8.data.toList.take offset) + 1) % 2 ^ 64) := by
  obtain ⟨count, start⟩ := countUpTo_ofString source offset
  delta lineCol
  show (countUpTo _ offset - 1 + 1,
    (offset - (ofString source).starts[countUpTo _ offset - 1]! + 1) % 2 ^ 64) = _
  rw [count, Nat.add_sub_cancel, start]

theorem lastLineStart_take_le (bytes : List UInt8) (offset : Nat) :
    lastLineStart (bytes.take offset) ≤ offset := by
  have := List.length_take_le offset bytes
  unfold lastLineStart
  omega

theorem column_ofString (source : String) {offset : Nat} (word : offset < 2 ^ 64) :
    ((ofString source).lineCol offset).2 =
      if offset = 2 ^ 64 - 1 ∧ 10 ∉ source.toUTF8.data.toList.take offset then 0
      else offset - lastLineStart (source.toUTF8.data.toList.take offset) + 1 := by
  rw [lineCol_ofString]
  have within := lastLineStart_take_le source.toUTF8.data.toList offset
  by_cases last : offset = 2 ^ 64 - 1 ∧ 10 ∉ source.toUTF8.data.toList.take offset
  · rw [if_pos last, (lastLineStart_eq_zero_iff _).mpr last.2, last.1]
    norm_num
  · rw [if_neg last, Nat.mod_eq_of_lt]
    -- a line start past zero, or an offset below the last, keeps the column in the word
    have other : ¬(offset = 2 ^ 64 - 1 ∧ lastLineStart (source.toUTF8.data.toList.take offset) = 0) := by
      rwa [lastLineStart_eq_zero_iff]
    omega

end LineIndex

namespace Frame

/-- Setting a position records the line of the offset, saturated to 32 bits, and touches nothing
else; the line is never left unknown. -/
theorem setPosition_ofString (f : Frame) (source : String) (offset : Nat) :
    f.setPosition offset (LineIndex.ofString source) =
      { f with line := some (min ((LineIndex.ofString source).lineCol offset).1 4294967295).toUInt32 } := by
  have positive : 1 ≤ ((LineIndex.ofString source).lineCol offset).1 := by
    rw [LineIndex.lineCol_ofString]
    omega
  delta setPosition
  show f.setLine (if ((LineIndex.ofString source).lineCol offset).1 < 2 ^ 32 then _ else _) = _
  rw [setLine]
  split
  · rename_i fits
    rw [if_neg, Nat.min_eq_left (by omega)]
    intro zero
    have := congrArg UInt32.toNat zero
    rw [Nat.toUInt32_eq, UInt32.toNat_ofNat_of_lt' fits] at this
    simp at this
    omega
  · rename_i large
    rw [if_neg (by decide), Nat.min_eq_right (by omega)]
    rfl

end Frame

namespace LineIndex

/-- Line and column of every 64-bit offset, past the end and inside a character included: the line
counts the newline bytes before the offset, the column is the distance from the line's start plus
one, except at the last offset with no newline before it, where the column wraps to zero; setting
a frame's position records the line, at most the largest 32-bit line, and never clears it. -/
theorem lineCol_counts_newlines (source : String) (offset : Nat) (word : offset < 2 ^ 64) :
    (ofString source).lineCol offset =
        ((source.toUTF8.data.toList.take offset).count 10 + 1,
          if offset = 2 ^ 64 - 1 ∧ 10 ∉ source.toUTF8.data.toList.take offset then 0
          else offset - lastLineStart (source.toUTF8.data.toList.take offset) + 1) ∧
      lastLineStart (source.toUTF8.data.toList.take offset) ≤ offset ∧
      ∀ f : Frame, f.setPosition offset (ofString source) = { f with
        line := some (min ((source.toUTF8.data.toList.take offset).count 10 + 1) 4294967295).toUInt32 } := by
  refine ⟨?_, lastLineStart_take_le _ offset, fun f => ?_⟩
  · rw [← column_ofString source word, lineCol_ofString]
  · rw [Frame.setPosition_ofString, lineCol_ofString]

/-- A line index of one line and the largest 64-bit offset: the column does not fit and wraps. -/
theorem lineCol_counts_newlines_last_word :
    18446744073709551615 < 2 ^ 64 ∧
      ((ofString "a").lineCol 18446744073709551615).2 = 0 := by
  refine ⟨by norm_num, ?_⟩
  have := (lineCol_counts_newlines "a" 18446744073709551615 (by norm_num)).1
  rw [this]
  decide

/-- The column of the last 64-bit offset on the first line wraps to zero: the column is not the
distance from the line's start plus one there. -/
theorem lineCol_last_offset_wraps : (ofString "a").lineCol 18446744073709551615 = (1, 0) := by
  decide

end LineIndex

end LuaIntrospect
