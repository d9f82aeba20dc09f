import Mathlib.Algebra.Order.Round
import Mathlib.Data.Rat.Floor
import Mathlib.Tactic.Linarith
import Mathlib.Tactic.NormNum

/-!
# Truncation of numbers to integers

The conversion of a number to an integer that drops the fraction, so that values are rounded
towards zero. It is the floor of a nonnegative number, and after an offset of one half it is
the nearest integer.
-/

namespace Truncation

variable {α : Type*} [Field α] [LinearOrder α] [FloorRing α]

/-- Drop the fraction of `x`: round towards zero. -/
def trunc (x : α) : ℤ := if 0 ≤ x then ⌊x⌋ else ⌈x⌉

theorem trunc_of_nonneg {x : α} (h : 0 ≤ x) : trunc x = ⌊x⌋ := if_pos h

variable [IsStrictOrderedRing α]

@[simp] theorem trunc_intCast (n : ℤ) : trunc (n : α) = n := by
  unfold trunc
  split <;> simp

@[simp] theorem trunc_zero : trunc (0 : α) = 0 := by
  simpa using trunc_intCast (α := α) 0

/-- After an offset of one half, truncation rounds a nonnegative number to the nearest
integer, and the middle between two integers upwards. -/
theorem trunc_add_half {x : α} (h : 0 ≤ x) : trunc (x + 1 / 2) = round x := by
  rw [round_eq, trunc_of_nonneg (by positivity)]

/-- Truncation moves a number by less than one. -/
theorem abs_trunc_sub_lt_one (x : α) : |(trunc x : α) - x| < 1 := by
  have hfloor := Int.floor_le x
  have hfloor' := Int.lt_floor_add_one x
  have hceil := Int.le_ceil x
  have hceil' := Int.ceil_lt_add_one x
  unfold trunc
  split <;> rw [abs_sub_lt_iff] <;> constructor <;> linarith

/-- Numbers at a distance of two or more have different integer parts. -/
theorem trunc_ne_of_add_two_le {x y : α} (h : x + 2 ≤ y) : trunc x ≠ trunc y := by
  intro heq
  have hx := abs_sub_lt_iff.mp (abs_trunc_sub_lt_one x)
  have hy := abs_sub_lt_iff.mp (abs_trunc_sub_lt_one y)
  rw [heq] at hx
  linarith [hx.1, hy.2]

/-- The numbers with a positive integer part `n`. -/
theorem trunc_eq_iff_of_pos {n : ℤ} (hn : 0 < n) (x : α) :
    trunc x = n ↔ (n : α) ≤ x ∧ x < n + 1 := by
  have hn' : (0 : α) < n := Int.cast_pos.mpr hn
  constructor
  · intro h
    have hx : 0 ≤ x := by
      by_contra hneg
      have hceil : trunc x ≤ 0 := by
        rw [trunc, if_neg hneg]
        exact Int.ceil_nonpos.mpr (not_le.mp hneg).le
      omega
    rwa [trunc_of_nonneg hx, Int.floor_eq_iff] at h
  · rintro ⟨hlow, hhigh⟩
    rw [trunc_of_nonneg (hn'.le.trans hlow), Int.floor_eq_iff]
    exact ⟨hlow, hhigh⟩

/-- A move to a positive integer `n` stays within the same integer part only from above `n`. -/
theorem eq_of_trunc_eq_iff {n : ℤ} (hn : 0 < n) (x : α) :
    (trunc (n : α) = trunc x → (n : α) = x) ↔ ¬ ((n : α) < x ∧ x < n + 1) := by
  rw [trunc_intCast, eq_comm, trunc_eq_iff_of_pos hn]
  constructor
  · rintro h ⟨hlow, hhigh⟩
    exact hlow.ne (h ⟨hlow.le, hhigh⟩)
  · rintro h ⟨hlow, hhigh⟩
    by_contra hne
    exact h ⟨lt_of_le_of_ne hlow hne, hhigh⟩

/-- A step of one stays within the same integer part around 0 only, where truncation joins two
intervals. -/
theorem trunc_add_one_eq_iff (x : α) : trunc (x + 1) = trunc x ↔ -1 < x ∧ x < 0 := by
  rcases le_or_gt 0 x with hx | hx
  · rw [trunc_of_nonneg hx, trunc_of_nonneg (by linarith), Int.floor_add_one]
    exact iff_of_false (by omega) fun h => absurd hx h.2.not_ge
  · rcases le_or_gt x (-1) with hle | hgt
    · have hceil : trunc (x + 1) = ⌈x⌉ + 1 := by
        rw [← Int.ceil_add_one, trunc]
        split_ifs with h
        · have hzero : x + 1 = 0 := le_antisymm (by linarith) h
          rw [hzero, Int.floor_zero, Int.ceil_zero]
        · rfl
      rw [hceil, trunc, if_neg hx.not_ge]
      exact iff_of_false (by omega) fun h => absurd hle h.1.not_ge
    · refine iff_of_true ?_ ⟨hgt, hx⟩
      -- both integer parts are 0
      have hfloor : ⌊x + 1⌋ = 0 := by
        rw [Int.floor_eq_zero_iff]
        constructor <;> linarith
      have hceil : ⌈x⌉ = 0 := by
        rw [Int.ceil_eq_zero_iff]
        exact ⟨hgt, hx.le⟩
      rw [trunc_of_nonneg (by linarith), trunc, if_neg hx.not_ge, hfloor, hceil]

end Truncation
