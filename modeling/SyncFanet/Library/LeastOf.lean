import Mathlib.Order.Bounds.Basic
import Mathlib.Order.MinMax

/-!
# Least of a list

A loop that keeps the smaller of a stored value and the next one ends with the least of
the value it starts from and the values it sees.
-/

set_option autoImplicit false

namespace SyncFanet

variable {Value : Type} [LinearOrder Value]

theorem isLeast_foldl_min (start : Value) (values : List Value) :
    IsLeast {value | value = start ∨ value ∈ values} (values.foldl min start) := by
  induction values generalizing start with
  | nil => simp [IsLeast, lowerBounds]
  | cons value values ih =>
      obtain ⟨among, least⟩ := ih (min start value)
      rw [List.foldl_cons]
      constructor
      · rcases among with kept | later
        · rcases min_choice start value with left | right
          · exact .inl (kept.trans left)
          · exact .inr (List.mem_cons.mpr (.inl (kept.trans right)))
        · exact .inr (List.mem_cons_of_mem _ later)
      · have bound := least (.inl rfl)
        rintro other (rfl | member)
        · exact bound.trans (min_le_left _ _)
        · rcases List.mem_cons.mp member with rfl | later
          · exact bound.trans (min_le_right _ _)
          · exact least (.inr later)

/-- When the loop over some of the values finds the least of all: the start must not be
smaller, and the least one must be the start or one of those seen. -/
theorem isLeast_foldl_min_iff {start : Value} {seen values : List Value}
    (among : ∀ value ∈ seen, value ∈ values) :
    IsLeast {value | value ∈ values} (seen.foldl min start) ↔
      ∃ least, IsLeast {value | value ∈ values} least ∧ least ≤ start ∧
        (start = least ∨ least ∈ seen) := by
  obtain ⟨origin, least⟩ := isLeast_foldl_min start seen
  constructor
  · intro found
    refine ⟨_, found, least (.inl rfl), ?_⟩
    rcases origin with start | member
    · exact .inl start.symm
    · exact .inr member
  · rintro ⟨value, found, notBelow, attained⟩
    have below : value ≤ seen.foldl min start := by
      rcases origin with start | member
      · rw [start]
        exact notBelow
      · exact found.2 (among _ member)
    have above : seen.foldl min start ≤ value := by
      rcases attained with start | member
      · exact least (.inl start.symm)
      · exact least (.inr member)
    rw [le_antisymm above below]
    exact found

end SyncFanet
