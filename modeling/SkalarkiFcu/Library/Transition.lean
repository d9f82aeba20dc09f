import Mathlib.Logic.Relation

/-!
# Transition systems

Systems of concurrently running parties, given by their initial states and by a step
relation that interleaves the parties. A property of every reachable state is proved by an
invariant: it holds initially and every step preserves it.
-/

/-- A transition system over the states `σ`. -/
structure TransitionSystem (σ : Type*) where
  /-- The states the system may start in. -/
  init : σ → Prop
  /-- One step of one of the parties. -/
  next : σ → σ → Prop

namespace TransitionSystem

variable {σ : Type*} (S : TransitionSystem σ)

/-- The states some interleaving leads to. -/
def Reachable (s : σ) : Prop := ∃ s₀, S.init s₀ ∧ Relation.ReflTransGen S.next s₀ s

variable {S}

theorem Reachable.start {s : σ} (h : S.init s) : S.Reachable s := ⟨s, h, .refl⟩

theorem Reachable.step {s t : σ} (hs : S.Reachable s) (ht : S.next s t) : S.Reachable t := by
  obtain ⟨s₀, h₀, hrun⟩ := hs
  exact ⟨s₀, h₀, hrun.tail ht⟩

/-- **Invariant rule**: what holds initially and is preserved by every step holds in every
reachable state. -/
theorem Reachable.invariant {I : σ → Prop} (hinit : ∀ s, S.init s → I s)
    (hstep : ∀ s t, I s → S.next s t → I t) {s : σ} (hs : S.Reachable s) : I s := by
  obtain ⟨s₀, h₀, hrun⟩ := hs
  induction hrun with
  | refl => exact hinit s₀ h₀
  | tail _ ht ih => exact hstep _ _ ih ht

end TransitionSystem
