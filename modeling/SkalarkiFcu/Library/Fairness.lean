import Mathlib.Data.Nat.Init
import Mathlib.Order.Lattice.Nat
import SkalarkiFcu.Library.Schedule

/-!
# Fair executions

An execution is an infinite sequence of states in which, at every time, one action is taken or
none. It is fair to a group of actions if, again and again, one of them is taken or none of them
can be. What must happen in a fair execution is shown by a rank: as long as the goal is not
reached, some group is helpful and can act, every action of it decreases the rank, and no other
action increases it.

## Architecture

- **Executions**: `Execution`, and `Execution.reachable`
- **Fairness**: `Execution.Fair`, and `Execution.FairWhile` in some of the states
- **Progress**: `Execution.eventually_of_helpful`, `Execution.Fair.eventually`,
  `Execution.exists_const`
- **Schedulers**: `Execution.ofScheduler`, an execution from a choice of actions
-/

namespace TransitionSystem

variable {σ α : Type*} {step : α → σ → Option σ}

/-! ## Executions -/

/-- An infinite sequence of states, with the action that is taken at each time. -/
structure Execution (step : α → σ → Option σ) where
  state : ℕ → σ
  action : ℕ → Option α
  next : ∀ n, (action n).elim (some (state n)) (step · (state n)) = some (state (n + 1))

namespace Execution

variable (E : Execution step)

/-- An execution proceeds by an action, or it stays where it is. -/
theorem next_cases (n : ℕ) : (E.action n = none ∧ E.state (n + 1) = E.state n) ∨
    ∃ a, E.action n = some a ∧ step a (E.state n) = some (E.state (n + 1)) := by
  have hnext := E.next n
  cases h : E.action n with
  | none =>
    rw [h] at hnext
    exact .inl ⟨rfl, (Option.some.inj hnext).symm⟩
  | some a =>
    rw [h] at hnext
    exact .inr ⟨a, rfl, hnext⟩

/-- Every state of an execution is reachable. -/
theorem reachable {S : TransitionSystem σ} (hnext : ∀ a s t, step a s = some t → S.next s t)
    (hinit : S.init (E.state 0)) (n : ℕ) : S.Reachable (E.state n) := by
  induction n with
  | zero => exact .start hinit
  | succ n ih =>
    rcases E.next_cases n with ⟨-, heq⟩ | ⟨a, -, ha⟩
    · rwa [heq]
    · exact ih.step (hnext a _ _ ha)

/-! ## Progress -/

/-- **Weak fairness** to a group of actions. -/
def Fair (A : α → Prop) : Prop :=
  ∀ n, ∃ m, n ≤ m ∧
    ((∃ a, A a ∧ E.action m = some a) ∨ ∀ a, A a → step a (E.state m) = none)

variable {E} {A : α → Prop}

/-- Weak fairness to a group, as far as `Q` holds. -/
def FairWhile (E : Execution step) (A : α → Prop) (Q : σ → Prop) : Prop :=
  ∀ n, ∃ m, n ≤ m ∧ ((∃ a, A a ∧ E.action m = some a) ∨
    (∀ a, A a → step a (E.state m) = none) ∨ ¬ Q (E.state m))

theorem Fair.fairWhile (h : E.Fair A) (Q : σ → Prop) : E.FairWhile A Q := by
  intro n
  obtain ⟨m, hm, htaken | hblocked⟩ := h n
  · exact ⟨m, hm, .inl htaken⟩
  · exact ⟨m, hm, .inr (.inl hblocked)⟩

theorem FairWhile.mono {Q R : σ → Prop} (h : E.FairWhile A Q) (hRQ : ∀ s, R s → Q s) :
    E.FairWhile A R := by
  intro n
  obtain ⟨m, hm, hact⟩ := h n
  exact ⟨m, hm, hact.imp_right fun hrest => hrest.imp_right fun hnot hR => hnot (hRQ _ hR)⟩

/-- **Progress by helpful groups**: in every state short of the goal one group is helpful, and can
act. The goal is reached from any time at which `P` holds, if each step keeps `P` and does not
increase the rank, and if a step that does not decrease it is none of the helpful group and
leaves that group helpful. -/
theorem eventually_of_helpful {κ : Type*} (group : κ → α → Prop) (helpful : σ → κ)
    (hfair : ∀ i, E.FairWhile (group i) fun s => helpful s = i) (P Goal : σ → Prop) (rank : σ → ℕ)
    {N : ℕ}
    (hready : ∀ n, N ≤ n → P (E.state n) → ¬ Goal (E.state n) →
      ∃ a, group (helpful (E.state n)) a ∧ step a (E.state n) ≠ none)
    (hstep : ∀ n a, N ≤ n → E.action n = some a →
      step a (E.state n) = some (E.state (n + 1)) → P (E.state n) → ¬ Goal (E.state n) →
        Goal (E.state (n + 1)) ∨ (P (E.state (n + 1)) ∧
          (rank (E.state (n + 1)) < rank (E.state n) ∨
            (rank (E.state (n + 1)) ≤ rank (E.state n) ∧
              helpful (E.state (n + 1)) = helpful (E.state n) ∧
                ¬ group (helpful (E.state n)) a))))
    (hN : P (E.state N)) : ∃ m, N ≤ m ∧ Goal (E.state m) := by
  suffices h : ∀ n, N ≤ n → P (E.state n) → ∃ m, n ≤ m ∧ Goal (E.state m) from h N le_rfl hN
  intro n hNn hn
  -- by induction on the rank
  induction hrank : rank (E.state n) using Nat.strongRecOn generalizing n with
  | ind r ih =>
    subst hrank
    -- a time with a lower rank is as good as the goal
    have hlower : ∀ k, n ≤ k → P (E.state k) → rank (E.state k) < rank (E.state n) →
        ∃ m, n ≤ m ∧ Goal (E.state m) := by
      intro k hk hP hlt
      obtain ⟨m, hm, hgoal⟩ := ih _ hlt k (hNn.trans hk) hP rfl
      exact ⟨m, hk.trans hm, hgoal⟩
    obtain ⟨m, hm, hact⟩ := hfair (helpful (E.state n)) n
    -- up to the next time of the group, the group stays helpful unless the rank decreases
    have hwait : (∃ k, n ≤ k ∧ Goal (E.state k)) ∨
        (P (E.state m) ∧ rank (E.state m) ≤ rank (E.state n) ∧
          helpful (E.state m) = helpful (E.state n)) := by
      clear hact
      induction m, hm using Nat.le_induction with
      | base => exact .inr ⟨hn, le_rfl, rfl⟩
      | succ m hm ihm =>
        rcases ihm with hgoal | ⟨hP, hle, hsame⟩
        · exact .inl hgoal
        · by_cases hgoal : Goal (E.state m)
          · exact .inl ⟨m, hm, hgoal⟩
          · have hm' : n ≤ m + 1 := hm.trans (Nat.le_succ m)
            rcases E.next_cases m with ⟨-, heq⟩ | ⟨a, htaken, ha⟩
            · exact .inr (by rw [heq]; exact ⟨hP, hle, hsame⟩)
            · rcases hstep m a (hNn.trans hm) htaken ha hP hgoal with
                hgoal' | ⟨hP', hlt | ⟨hle', hsame', -⟩⟩
              · exact .inl ⟨m + 1, hm', hgoal'⟩
              · exact .inl (hlower (m + 1) hm' hP' (hlt.trans_le hle))
              · exact .inr ⟨hP', hle'.trans hle, hsame'.trans hsame⟩
    rcases hwait with hgoal | ⟨hP, hle, hsame⟩
    · exact hgoal
    · by_cases hgoal : Goal (E.state m)
      · exact ⟨m, hm, hgoal⟩
      · -- at this time the group takes a step, or none of its actions can be taken
        rcases hact with ⟨a, ha, htaken⟩ | hblocked | hnot
        · have hnext := E.next m
          rw [htaken, Option.elim_some] at hnext
          have hm' : n ≤ m + 1 := hm.trans (Nat.le_succ m)
          rcases hstep m a (hNn.trans hm) htaken hnext hP hgoal with
            hgoal' | ⟨hP', hlt | ⟨-, -, hother⟩⟩
          · exact ⟨m + 1, hm', hgoal'⟩
          · exact hlower (m + 1) hm' hP' (hlt.trans_le hle)
          · rw [hsame] at hother
            exact absurd ha hother
        · obtain ⟨a, ha, henabled⟩ := hready m (hNn.trans hm) hP hgoal
          rw [hsame] at ha
          exact absurd (hblocked a ha) henabled
        · exact absurd hsame hnot

/-- **Progress**: in a fair execution, the goal is reached from any time at which `P` holds, if
as long as it is not reached the group can act, and each step keeps `P` and does not increase
the rank, which the actions of the group decrease. -/
theorem Fair.eventually (hfair : E.Fair A) (P Goal : σ → Prop) (rank : σ → ℕ) {N : ℕ}
    (hready : ∀ n, N ≤ n → P (E.state n) → ¬ Goal (E.state n) →
      ∃ a, A a ∧ step a (E.state n) ≠ none)
    (hstep : ∀ n a, N ≤ n → E.action n = some a →
      step a (E.state n) = some (E.state (n + 1)) → P (E.state n) → ¬ Goal (E.state n) →
        Goal (E.state (n + 1)) ∨ (P (E.state (n + 1)) ∧
          rank (E.state (n + 1)) ≤ rank (E.state n) ∧
            (A a → rank (E.state (n + 1)) < rank (E.state n))))
    (hN : P (E.state N)) : ∃ m, N ≤ m ∧ Goal (E.state m) := by
  -- the group is the only one, and always helpful
  refine eventually_of_helpful (fun _ : Unit => A) (fun _ => ()) (fun _ => hfair.fairWhile _)
    P Goal rank hready ?_ hN
  intro n a hn htaken ha hP hgoal
  rcases hstep n a hn htaken ha hP hgoal with hgoal' | ⟨hP', hle, hlt⟩
  · exact .inl hgoal'
  · by_cases hA : A a
    · exact .inr ⟨hP', .inl (hlt hA)⟩
    · exact .inr ⟨hP', .inr ⟨hle, rfl, hA⟩⟩

/-- A count that never falls and is bounded comes to rest. -/
theorem exists_const {c : ℕ → ℕ} (hmono : Monotone c) {b : ℕ} (hle : ∀ n, c n ≤ b) :
    ∃ m, ∀ k, m ≤ k → c k = c m := by
  -- the greatest value is taken at some time, and the count cannot leave it
  have hbdd : BddAbove (Set.range c) := ⟨b, by rintro _ ⟨n, rfl⟩; exact hle n⟩
  obtain ⟨m, hm⟩ := Nat.sSup_mem (Set.range_nonempty c) hbdd
  refine ⟨m, fun k hk => le_antisymm ?_ (hmono hk)⟩
  rw [hm]
  exact le_csSup hbdd ⟨k, rfl⟩

/-! ## Schedulers -/

variable (step) in
/-- The states of a scheduler that picks an action at each time; an action that cannot be taken
is left out. -/
def scheduled (pick : ℕ → σ → α) (s : σ) : ℕ → σ
  | 0 => s
  | n + 1 => (step (pick n (scheduled pick s n)) (scheduled pick s n)).getD (scheduled pick s n)

variable (step) in
/-- The execution of a scheduler. -/
def ofScheduler (pick : ℕ → σ → α) (s : σ) : Execution step where
  state := scheduled step pick s
  action n :=
    if (step (pick n (scheduled step pick s n)) (scheduled step pick s n)).isSome then
      some (pick n (scheduled step pick s n))
    else none
  next n := by
    cases h : step (pick n (scheduled step pick s n)) (scheduled step pick s n) with
    | none => simp [scheduled, h]
    | some t => simp [scheduled, h]

theorem action_ofScheduler {pick : ℕ → σ → α} {s : σ} {n : ℕ} {a : α}
    (h : (ofScheduler step pick s).action n = some a) :
    a = pick n ((ofScheduler step pick s).state n) := by
  simp only [ofScheduler] at h
  split_ifs at h
  exact (Option.some.inj h).symm

/-- A scheduler is fair to a group if again and again it picks an action that stands for the
whole group. -/
theorem fair_ofScheduler {pick : ℕ → σ → α} {s : σ}
    (h : ∀ n, ∃ m, n ≤ m ∧ ∀ t, A (pick m t) ∧
      (step (pick m t) t = none → ∀ a, A a → step a t = none)) :
    (ofScheduler step pick s).Fair A := by
  intro n
  obtain ⟨m, hm, hpick⟩ := h n
  obtain ⟨hA, hnone⟩ := hpick (scheduled step pick s m)
  refine ⟨m, hm, ?_⟩
  cases hstep : step (pick m (scheduled step pick s m)) (scheduled step pick s m) with
  | none => exact .inr (hnone hstep)
  | some t => exact .inl ⟨_, hA, by simp [ofScheduler, hstep]⟩

end Execution

end TransitionSystem
