import Mathlib
import LuaIntrospect.Source.Chunk

/-! Short file names. Main statement: `shorten_keeps_longest_tail`. -/
namespace LuaIntrospect

theorem utf8ByteSize_ofList (cs : List Char) :
    (String.ofList cs).utf8ByteSize = (cs.map Char.utf8Size).sum := by
  induction cs with
  | nil => simp
  | cons c rest ih =>
    rw [String.ofList_cons, String.utf8ByteSize_append, String.utf8ByteSize_singleton, ih]
    simp

theorem sum_drop_utf8Size (cs : List Char) (j : Nat) :
    ((cs.drop j).map Char.utf8Size).sum =
      (cs.map Char.utf8Size).sum - ((cs.take j).map Char.utf8Size).sum := by
  have split := congrArg (fun l => (l.map Char.utf8Size).sum) (List.take_append_drop j cs)
  simp only [List.map_append, List.sum_append] at split
  omega

namespace ChunkSource

theorem keep_eq_drop (cut : Nat) (cs : List Char) (pos : Nat) :
    ∃ k ≤ cs.length, shorten.keep cut cs pos = cs.drop k ∧
      (∀ j < k, pos + ((cs.take j).map Char.utf8Size).sum < cut) ∧
      (k < cs.length → cut ≤ pos + ((cs.take k).map Char.utf8Size).sum) := by
  induction cs generalizing pos with
  | nil => exact ⟨0, le_refl _, rfl, by simp, by simp⟩
  | cons c rest ih =>
    by_cases reached : cut ≤ pos
    · exact ⟨0, Nat.zero_le _, by simp [shorten.keep, reached], by simp, by simpa using reached⟩
    · obtain ⟨k, bound, kept, before, after⟩ := ih (pos + c.utf8Size)
      refine ⟨k + 1, by simpa using bound, by simp [shorten.keep, reached, kept], ?_, ?_⟩
      · intro j below
        cases j with
        | zero => simpa using reached
        | succ j =>
          have := before j (by omega)
          simp only [List.take_succ_cons, List.map_cons, List.sum_cons]
          omega
      · intro inside
        have := after (by simpa using inside)
        simp only [List.take_succ_cons, List.map_cons, List.sum_cons]
        omega


theorem sum_drop_le_succ (cs : List Char) (j : Nat) :
    ((cs.drop j).map Char.utf8Size).sum ≤ ((cs.drop (j + 1)).map Char.utf8Size).sum + 4 := by
  by_cases inside : j < cs.length
  · rw [List.drop_eq_getElem_cons inside, List.map_cons, List.sum_cons]
    have := Char.utf8Size_le_four cs[j]
    omega
  · rw [List.drop_eq_nil_of_le (by omega)]
    simp

theorem shorten_of_le (file : String) (short : file.utf8ByteSize ≤ 59) : shorten file = file := by
  simp only [shorten]
  rw [if_pos (show file.utf8ByteSize ≤ shortLimit from short)]

theorem shorten_of_lt (file : String) (long : 59 < file.utf8ByteSize) :
    ∃ k, shorten file = "..." ++ String.ofList (file.toList.drop k) ∧
      (String.ofList (file.toList.drop k)).utf8ByteSize ≤ 56 ∧
      ∀ j < k, 56 < (String.ofList (file.toList.drop j)).utf8ByteSize := by
  obtain ⟨k, bound, kept, before, after⟩ := keep_eq_drop (file.utf8ByteSize - 56) file.toList 0
  have total : (file.toList.map Char.utf8Size).sum = file.utf8ByteSize := by
    rw [← utf8ByteSize_ofList, String.ofList_toList]
  refine ⟨k, ?_, ?_, ?_⟩
  · simp only [shorten]
    rw [if_neg (show ¬file.utf8ByteSize ≤ shortLimit from Nat.not_le.mpr long)]
    exact congrArg (fun cs => "..." ++ String.ofList cs) kept
  · rw [utf8ByteSize_ofList, sum_drop_utf8Size, total]
    rcases Nat.lt_or_ge k file.toList.length with inside | whole
    · have := after inside
      omega
    · rw [List.take_of_length_le whole, total]
      omega
  · intro j below
    rw [utf8ByteSize_ofList, sum_drop_utf8Size, total]
    have := before j below
    omega

/-- The short form of a file name: the name itself when it has at most 59 bytes; otherwise `...`
and the longest tail of at most 56 bytes that starts on a character boundary, that is after some
number `k` of whole characters. It has at most 59 bytes, and at least 56 when cut. -/
theorem shorten_keeps_longest_tail (file : String) :
    (file.utf8ByteSize ≤ 59 → shorten file = file) ∧
    (59 < file.utf8ByteSize → ∃ k, shorten file = "..." ++ String.ofList (file.toList.drop k) ∧
      (String.ofList (file.toList.drop k)).utf8ByteSize ≤ 56 ∧
      ∀ j < k, 56 < (String.ofList (file.toList.drop j)).utf8ByteSize) ∧
    (shorten file).utf8ByteSize ≤ 59 ∧
    (59 < file.utf8ByteSize → 56 ≤ (shorten file).utf8ByteSize) := by
  have marker : "...".utf8ByteSize = 3 := rfl
  refine ⟨shorten_of_le file, shorten_of_lt file, ?_, ?_⟩
  · by_cases long : 59 < file.utf8ByteSize
    · obtain ⟨k, cut, fits, -⟩ := shorten_of_lt file long
      rw [cut, String.utf8ByteSize_append, marker]
      omega
    · rw [shorten_of_le file (by omega)]
      omega
  · intro long
    obtain ⟨k, cut, fits, longest⟩ := shorten_of_lt file long
    -- the whole name is too long, so the tail starts after at least one character, and the
    -- character before it is at most four bytes
    have moved : k ≠ 0 := by
      rintro rfl
      rw [List.drop_zero, String.ofList_toList] at fits
      omega
    have previous := longest (k - 1) (by omega)
    have step := sum_drop_le_succ file.toList (k - 1)
    rw [utf8ByteSize_ofList] at previous fits
    rw [Nat.sub_add_cancel (Nat.pos_of_ne_zero moved)] at step
    rw [cut, String.utf8ByteSize_append, marker, utf8ByteSize_ofList]
    omega

-- the cut at byte 4 falls inside the three bytes of `€`, so the tail starts at byte 5
example : shorten ("aa€" ++ String.ofList (List.replicate 55 'a')) =
    "..." ++ String.ofList (List.replicate 55 'a') := by decide

end ChunkSource

end LuaIntrospect
