import Mathlib.Data.Fin.Basic
import Mathlib.Logic.Function.Iterate

/-!
# Steering by relative steps

A controller turns a selector with the positions `0..top` by single steps, each of which stops at
the ends, and works from a shadow of the position that it never compares with the selector. The
difference between the two is what matters: a turn to the left keeps it, and a turn to the right
can only use it up at the upper end. So the selector is ahead of its shadow by the initial
difference, as far as the highest position so far has left room for it.
-/

namespace Steering

variable {top : ℕ}

/-- One step to the right. -/
def up (p : Fin (top + 1)) : Fin (top + 1) := ⟨min top (p + 1), by omega⟩

/-- One step to the left. -/
def down (p : Fin (top + 1)) : Fin (top + 1) := ⟨p - 1, by omega⟩

theorem up_iterate (n : ℕ) (p : Fin (top + 1)) :
    ((up^[n] p : Fin (top + 1)) : ℕ) = min top (p + n) := by
  induction n with
  | zero =>
    show (p : ℕ) = min top p
    omega
  | succ n ih =>
    rw [Function.iterate_succ_apply']
    show min top ((up^[n] p : Fin (top + 1)) + 1) = _
    rw [ih]
    omega

theorem down_iterate (n : ℕ) (p : Fin (top + 1)) :
    ((down^[n] p : Fin (top + 1)) : ℕ) = p - n := by
  induction n with
  | zero => rfl
  | succ n ih =>
    rw [Function.iterate_succ_apply']
    show ((down^[n] p : Fin (top + 1)) : ℕ) - 1 = _
    rw [ih]
    omega

/-- The steps that bring the shadow from `a` to `b`. -/
def steer (a b : ℕ) (p : Fin (top + 1)) : Fin (top + 1) :=
  if a ≤ b then up^[b - a] p else down^[a - b] p

/-- The selector is ahead of its shadow `a` by what is left of the initial difference `p₀` below
the highest position `m` so far. -/
def Ahead (p₀ m a : ℕ) (p : Fin (top + 1)) : Prop := (p : ℕ) = a + min p₀ (top - m)

/-- **Steering** keeps the selector ahead, below the new highest position. -/
theorem Ahead.steer {p₀ m a b : ℕ} {p : Fin (top + 1)} (h : Ahead p₀ m a p) (ha : a ≤ m)
    (hb : b ≤ top) : Ahead p₀ (max m b) b (steer a b p) := by
  rw [Ahead] at h ⊢
  rw [Steering.steer]
  rcases le_or_gt a b with hab | hab
  · -- to the right: what does not fit below the upper end is lost
    rw [if_pos hab, up_iterate, h]
    omega
  · rw [if_neg hab.not_ge, down_iterate, h]
    omega

/-- The selector agrees with its shadow if it did so at the start, or if the shadow has been at
the upper end. -/
theorem Ahead.eq_iff {p₀ m a : ℕ} {p : Fin (top + 1)} (h : Ahead p₀ m a p) (hm : m ≤ top) :
    (p : ℕ) = a ↔ p₀ = 0 ∨ m = top := by
  rw [Ahead] at h
  omega

end Steering
