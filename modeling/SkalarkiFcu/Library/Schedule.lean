import Mathlib.Algebra.Order.Ring.Nat
import Mathlib.Data.List.Basic
import SkalarkiFcu.Library.Transition

/-!
# Schedules

A schedule names the actions that the parties of a system take, one after the other. What a
schedule can cost is bounded by a potential, an amortised measure of the state that every
action pays from. What a schedule can reach is shown by a rank that some ready action
decreases until the goal is there.

## Architecture

- **Schedules**: `follow`, the state a schedule leads to
- **Potential**: `follow_potential`, a bound for every schedule
- **Progress**: `exists_schedule`, a schedule to the goal
-/

namespace TransitionSystem

variable {σ α : Type*}

/-! ## Schedules -/

variable (step : α → σ → Option σ)

/-- The state that a schedule leads to; `none` if one of its actions cannot be taken. -/
def follow : List α → σ → Option σ
  | [], s => some s
  | a :: as, s => (step a s).bind (follow as)

@[simp] theorem follow_nil (s : σ) : follow step [] s = some s := rfl

variable {step}

theorem follow_cons_eq_some {a : α} {as : List α} {s t : σ} :
    follow step (a :: as) s = some t ↔ ∃ u, step a s = some u ∧ follow step as u = some t := by
  simp [follow, Option.bind_eq_some_iff]

/-- What every step preserves, a schedule preserves. -/
theorem follow_invariant {I : σ → Prop} (hstep : ∀ a s t, I s → step a s = some t → I t)
    {as : List α} {s t : σ} (h : follow step as s = some t) (hs : I s) : I t := by
  induction as generalizing s with
  | nil => exact Option.some.inj h ▸ hs
  | cons a as ih =>
    obtain ⟨u, hu, hrest⟩ := follow_cons_eq_some.mp h
    exact ih hrest (hstep a s u hs hu)

/-- A schedule leads from reachable states to reachable states. -/
theorem Reachable.of_follow {S : TransitionSystem σ}
    (hnext : ∀ a s t, step a s = some t → S.next s t)
    {as : List α} {s t : σ} (hs : S.Reachable s) (h : follow step as s = some t) :
    S.Reachable t :=
  follow_invariant (fun a s t hs ht => hs.step (hnext a s t ht)) h hs

/-! ## Potential -/

/-- **Potential**: if every action pays its work from the potential and from the income of the
step, the work of a whole schedule is bounded by the potential it starts with and the income
of the run. -/
theorem follow_potential (I : σ → Prop) (income : σ → ℕ) {potential : σ → ℕ} {work : α → ℕ}
    (hstep : ∀ a s t, I s → step a s = some t →
      I t ∧ potential t + work a + income s ≤ potential s + income t)
    {as : List α} {s t : σ} (h : follow step as s = some t) (hs : I s) :
    I t ∧ potential t + (as.map work).sum + income s ≤ potential s + income t := by
  induction as generalizing s with
  | nil =>
    obtain rfl := Option.some.inj h
    refine ⟨hs, Nat.le_of_eq ?_⟩
    rw [List.map_nil, List.sum_nil, Nat.add_zero]
  | cons a as ih =>
    obtain ⟨u, hu, hrest⟩ := follow_cons_eq_some.mp h
    obtain ⟨hIu, hpay⟩ := hstep a s u hs hu
    obtain ⟨hIt, hsum⟩ := ih hrest hIu
    -- the payment of the first action and that of the rest add up
    refine ⟨hIt, ?_⟩
    rw [List.map_cons, List.sum_cons]
    omega

/-! ## Progress -/

/-- **Progress**: if in every state short of the goal some ready action decreases the rank, a
schedule of ready actions, not longer than the rank, leads to the goal. -/
theorem exists_schedule (step : α → σ → Option σ) (I Goal : σ → Prop) (rank : σ → ℕ)
    (ready : α → Prop)
    (hready : ∀ s, I s → ¬ Goal s →
      ∃ a t, ready a ∧ step a s = some t ∧ I t ∧ rank t < rank s)
    {s : σ} (hs : I s) : ∃ as t, (∀ a ∈ as, ready a) ∧ as.length ≤ rank s ∧
      follow step as s = some t ∧ I t ∧ Goal t := by
  -- by induction on the rank
  induction hn : rank s using Nat.strongRecOn generalizing s with
  | ind n ih =>
    subst hn
    by_cases hgoal : Goal s
    · exact ⟨[], s, by simp, Nat.zero_le _, rfl, hs, hgoal⟩
    · obtain ⟨a, u, ha, hu, hIu, hlt⟩ := hready s hs hgoal
      obtain ⟨as, t, has, hlen, hfollow, hIt, ht⟩ := ih (rank u) hlt hIu rfl
      refine ⟨a :: as, t, ?_, ?_, follow_cons_eq_some.mpr ⟨u, hu, hfollow⟩, hIt, ht⟩
      · exact List.forall_mem_cons.mpr ⟨ha, has⟩
      · rw [List.length_cons]
        omega

end TransitionSystem
