import Mathlib.Data.List.Basic

/-!
# A cursor on a ring

Positions `0 .. size - 1` are tried in turn from a cursor, the position after it
first and the cursor's own position last. The search stops at the first position
that is available and otherwise leaves the cursor where it is.
-/

namespace Rotation

variable {available : Nat → Bool} {size cursor offset index : Nat}

/-- The first available position after the cursor, in ring order. -/
def next (available : Nat → Bool) (size cursor : Nat) : Nat :=
  match (List.range' 1 size).find? (fun offset => available ((cursor + offset) % size)) with
  | some offset => (cursor + offset) % size
  | none => cursor

/-- A proper offset leaves the cursor, whether or not it wraps. -/
theorem offset_moves (inside : cursor < size) (positive : 0 < offset) (proper : offset < size) :
    (cursor + offset) % size ≠ cursor := by
  by_cases wraps : cursor + offset < size
  · rw [Nat.mod_eq_of_lt wraps]
    omega
  · have wrapped : cursor + offset - size < size := by omega
    rw [Nat.mod_eq_sub_mod (by omega), Nat.mod_eq_of_lt wrapped]
    omega

/-- Every other position is one proper offset away. -/
theorem offset_reaches (inside : cursor < size) (bounded : index < size) (other : index ≠ cursor) :
    ∃ offset, 0 < offset ∧ offset < size ∧ (cursor + offset) % size = index := by
  by_cases ahead : cursor < index
  · refine ⟨index - cursor, by omega, by omega, ?_⟩
    rw [Nat.add_sub_cancel' (Nat.le_of_lt ahead), Nat.mod_eq_of_lt bounded]
  · refine ⟨index + size - cursor, by omega, by omega, ?_⟩
    rw [Nat.add_sub_cancel' (by omega), Nat.add_mod_right, Nat.mod_eq_of_lt bounded]

/-- The search stays on the ring. -/
theorem next_lt (inside : cursor < size) : next available size cursor < size := by
  unfold next
  split
  · exact Nat.mod_lt _ (Nat.lt_of_le_of_lt (Nat.zero_le _) inside)
  · exact inside

/-- The cursor stays exactly when no other position is available; its own is
tried last, so it does not matter. -/
theorem next_eq_cursor (inside : cursor < size) :
    next available size cursor = cursor ↔
      ∀ index, index < size → index ≠ cursor → available index = false := by
  unfold next
  constructor
  · intro stays index bounded other
    obtain ⟨offset, positive, proper, reached⟩ := offset_reaches inside bounded other
    split at stays
    · rename_i found searched
      obtain ⟨_, member, passed⟩ := List.find?_range'_eq_some.mp searched
      have whole : ¬ found < size := fun proper =>
        offset_moves inside (List.mem_range'_1.mp member).1 proper stays
      have skipped := passed offset positive (by omega)
      rw [reached] at skipped
      simpa using skipped
    · rename_i searched
      have skipped := List.find?_range'_eq_none.mp searched offset positive (by omega)
      rw [reached] at skipped
      simpa using skipped
  · intro others
    split
    · rename_i found searched
      obtain ⟨free, member, _⟩ := List.find?_range'_eq_some.mp searched
      by_contra moved
      have bounded := Nat.mod_lt (cursor + found) (Nat.lt_of_le_of_lt (Nat.zero_le _) inside)
      simp [others _ bounded moved] at free
    · rfl

end Rotation
