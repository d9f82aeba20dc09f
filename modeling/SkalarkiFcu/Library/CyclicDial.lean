import Mathlib.Algebra.BigOperators.Group.List.Basic
import Mathlib.Data.Int.ConditionallyCompleteOrder
import Mathlib.Data.Int.ModEq
import Mathlib.Order.ConditionallyCompleteLattice.Basic
import Mathlib.Data.List.Induction

/-!
# A cyclic dial with two names for one direction

A dial of the period `N` is turned by single clicks. It goes around at both ends, but keeps both
of them: below 0 comes `N - 1`, and above `N` comes 1. So the clicks add up modulo `N` with one
exception. The direction of 0 is also that of `N`, and which of the two the dial holds depends
on the side it was reached from.
-/

namespace CyclicDial

inductive Direction where
  | left | right
  deriving DecidableEq, Repr

/-- What a click adds. -/
def Direction.step : Direction → ℤ
  | .left => -1
  | .right => 1

/-- One click of a dial. -/
def turn (N : ℤ) : Direction → ℤ → ℤ
  | .left, x => if x - 1 < 0 then x - 1 + N else x - 1
  | .right, x => if N < x + 1 then x + 1 - N else x + 1

/-- Some clicks, from the first to the last. -/
def turns (N x : ℤ) (ds : List Direction) : ℤ := ds.foldl (fun x d => turn N d x) x

/-- The net rotation of some clicks. -/
def net (ds : List Direction) : ℤ := (ds.map Direction.step).sum

/-- The end of the dial that the last click comes to; without clicks, the value of the dial. -/
def arrival (N x : ℤ) (ds : List Direction) : ℤ :=
  match ds.getLast? with
  | none => x
  | some .left => 0
  | some .right => N

@[simp] theorem net_nil : net [] = 0 := rfl

theorem net_concat (ds : List Direction) (d : Direction) : net (ds ++ [d]) = net ds + d.step := by
  simp [net]

theorem turns_concat (N x : ℤ) (ds : List Direction) (d : Direction) :
    turns N x (ds ++ [d]) = turn N d (turns N x ds) := by
  simp [turns]

variable {N x : ℤ}

/-- A click stays on the dial. -/
theorem turn_mem (hx : x ∈ Set.Icc 0 N) (hN : 0 < N) (d : Direction) :
    turn N d x ∈ Set.Icc 0 N := by
  obtain ⟨hx0, hxN⟩ := hx
  cases d with
  | left =>
    simp only [turn, Set.mem_Icc]
    split_ifs <;> omega
  | right =>
    simp only [turn, Set.mem_Icc]
    split_ifs <;> omega

/-- **One click**: the value moves by one modulo `N`, and to the end on its own side where the
direction has two names. -/
theorem turn_eq (hx : x ∈ Set.Icc 0 N) (hN : 1 < N) (d : Direction) :
    turn N d x = if (x + d.step) % N = 0 then arrival N x [d] else (x + d.step) % N := by
  obtain ⟨hx0, hxN⟩ := hx
  cases d with
  | left =>
    have hstep : x + Direction.left.step = x - 1 := rfl
    rw [hstep, turn]
    rcases hx0.eq_or_lt with rfl | hpos
    · -- below 0: the dial goes around to `N - 1`
      have hmod : (0 - 1) % N = 0 - 1 + N := by
        rw [← Int.add_emod_right, Int.emod_eq_of_lt (by omega) (by omega)]
      rw [hmod, if_pos (by omega), if_neg (by omega)]
    · rw [Int.emod_eq_of_lt (by omega) (by omega), if_neg (by omega)]
      split_ifs with hzero
      · exact hzero
      · rfl
  | right =>
    have hstep : x + Direction.right.step = x + 1 := rfl
    rw [hstep, turn]
    rcases lt_trichotomy (x + 1) N with hlt | heq | hgt
    · rw [Int.emod_eq_of_lt (by omega) hlt, if_neg hlt.not_gt, if_neg (by omega)]
    · rw [heq, Int.emod_self, if_neg (lt_irrefl N), if_pos rfl]
      rfl
    · -- above `N`: the dial goes around to 1
      have hmod : (x + 1) % N = x + 1 - N := by
        rw [← Int.sub_emod_right, Int.emod_eq_of_lt (by omega) (by omega)]
      rw [hmod, if_pos hgt, if_neg (by omega)]

theorem turns_mem (hx : x ∈ Set.Icc 0 N) (hN : 0 < N) (ds : List Direction) :
    turns N x ds ∈ Set.Icc 0 N := by
  induction ds using List.reverseRecOn with
  | nil => exact hx
  | append_singleton ds d ih =>
    rw [turns_concat]
    exact turn_mem ih hN d

/-- Clicks add up modulo `N`. -/
theorem turns_emod (hx : x ∈ Set.Icc 0 N) (hN : 1 < N) (ds : List Direction) :
    turns N x ds % N = (x + net ds) % N := by
  induction ds using List.reverseRecOn with
  | nil => simp [turns]
  | append_singleton ds d ih =>
    have hturn := turn_eq (turns_mem hx (by omega) ds) hN d
    have hmod : (turns N x ds + d.step) % N = (x + net (ds ++ [d])) % N := by
      rw [net_concat, ← add_assoc, Int.add_emod, ih, ← Int.add_emod]
    rw [turns_concat, hturn, ← hmod]
    split_ifs with hzero
    · -- both ends are 0 modulo `N`
      rw [hzero]
      cases d with
      | left => rfl
      | right => exact Int.emod_self
    · exact Int.emod_emod ..

/-- **Clicks of a dial**: the value is that of the net rotation modulo `N`, except that the
direction of 0 keeps the end at which the last click has arrived. -/
theorem turns_eq (hx : x ∈ Set.Icc 0 N) (hN : 1 < N) (ds : List Direction) :
    turns N x ds = if (x + net ds) % N = 0 then arrival N x ds else (x + net ds) % N := by
  rcases List.eq_nil_or_concat ds with rfl | ⟨ds, d, rfl⟩
  · have hturns : turns N x [] = x := rfl
    rw [hturns, net_nil, add_zero]
    split_ifs with hzero
    · rfl
    · -- no clicks, and not at an end
      obtain ⟨hx0, hxN⟩ := hx
      have hne : x ≠ N := by
        rintro rfl
        exact hzero Int.emod_self
      exact (Int.emod_eq_of_lt hx0 (lt_of_le_of_ne hxN hne)).symm
  · have hmem := turns_mem hx (by omega) ds
    have hmod : (turns N x ds + d.step) % N = (x + net (ds ++ [d])) % N := by
      rw [net_concat, ← add_assoc, Int.add_emod, turns_emod hx hN, ← Int.add_emod]
    have harrival : arrival N x (ds ++ [d]) = arrival N (turns N x ds) [d] := by
      rw [arrival, List.getLast?_append, List.getLast?_singleton, Option.some_or]
      cases d <;> rfl
    rw [List.concat_eq_append, turns_concat, turn_eq hmem hN, hmod, harrival]

/-- **One name for each direction** but that of 0: two sequences of clicks with the same net
rotation leave the dial at the same value if and only if this direction is another one, or both
arrive at the same end. -/
theorem turns_eq_turns_iff (hx : x ∈ Set.Icc 0 N) (hN : 1 < N) {ds es : List Direction}
    (hnet : net ds ≡ net es [ZMOD N]) :
    turns N x ds = turns N x es ↔
      (x + net ds) % N ≠ 0 ∨ arrival N x ds = arrival N x es := by
  have hmod : (x + net es) % N = (x + net ds) % N := (hnet.add_left x).symm
  rw [turns_eq hx hN ds, turns_eq hx hN es, hmod]
  by_cases hzero : (x + net ds) % N = 0
  · simp [hzero]
  · simp [hzero]

end CyclicDial
