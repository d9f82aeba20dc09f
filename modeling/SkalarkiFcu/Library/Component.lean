import SkalarkiFcu.Library.Reactive

/-!
# Components of a reactive program

A component has a part of the state and some of the effects to itself, and answers what it sees
of the inputs. What the rest of the program is given has no influence on it: two runs that look
the same to a component leave it in the same state and make it emit the same effects.
-/

namespace Reactive

variable {σ ι ε : Type*}

/-- A component of a program: the program acts on it as `respond` does on what it sees. -/
structure Component (step : ι → Action σ ε) (α κ : Type*) where
  /-- The part of the state that is the component's own. -/
  get : σ → α
  /-- The effects that only the component emits. -/
  owns : ε → Bool
  /-- What the component sees of an input; `none` if the input does not reach it. -/
  sees : ι → Option κ
  respond : κ → Action α ε
  owns_respond : ∀ k x, ∀ e ∈ (respond k x).2, owns e = true
  simulates : ∀ i, Simulates get owns (step i) ((sees i).elim .skip respond)

namespace Component

variable {step : ι → Action σ ε} {α κ : Type*} (C : Component step α κ)

/-- What the component makes of a configuration. -/
def view (c : Config σ ε) : Config α ε := observe C.get C.owns c

/-- A step of the program is what the component answers to what it sees. -/
theorem view_exec (c : Config σ ε) (i : ι) :
    C.view (exec (step i) c) = exec ((C.sees i).elim .skip C.respond) (C.view c) := by
  refine (C.simulates i).observe_exec (fun x e he => ?_) c
  cases hsees : C.sees i with
  | none =>
    rw [hsees] at he
    cases he
  | some k =>
    rw [hsees] at he
    exact C.owns_respond k x e he

/-- **Decomposition**: seen from the component, a run of the program is its own run on what it
sees of the inputs. -/
theorem view_run (c : Config σ ε) (is : List ι) :
    C.view (run step c is) = run C.respond (C.view c) (is.filterMap C.sees) := by
  induction is generalizing c with
  | nil => rfl
  | cons i is ih =>
    rw [run_cons, ih, C.view_exec]
    cases hsees : C.sees i with
    | none =>
      -- the input does not reach the component, which skips it
      rw [List.filterMap_cons_none hsees, Option.elim_none]
      simp [exec]
    | some k => rw [List.filterMap_cons_some hsees, run_cons, Option.elim_some]

/-- **Noninterference**: what a component does not see has no influence on it. -/
theorem view_run_congr {c d : Config σ ε} (hview : C.view c = C.view d) {is js : List ι}
    (hsees : is.filterMap C.sees = js.filterMap C.sees) :
    C.view (run step c is) = C.view (run step d js) := by
  rw [C.view_run, C.view_run, hview, hsees]

/-- **Rest**: a component that has nothing to answer to what it sees of the inputs stays as it
is and emits nothing. -/
theorem view_run_of_quiet {c : Config σ ε} {is : List ι}
    (h : ∀ i ∈ is, ∀ k, C.sees i = some k → Quiet (C.respond k) (C.get c.1)) :
    C.view (run step c is) = C.view c := by
  induction is generalizing c with
  | nil => rfl
  | cons i is ih =>
    rw [List.forall_mem_cons] at h
    have hquiet : C.view (exec (step i) c) = C.view c := by
      rw [C.view_exec]
      cases hsees : C.sees i with
      | none => simp [exec]
      | some k =>
        have hk : C.respond k (C.view c).1 = ((C.view c).1, []) := h.1 k hsees
        rw [Option.elim_some, exec, hk]
        simp
    -- the rest of the run finds the component as it was
    have hget : C.get (exec (step i) c).1 = C.get c.1 := congrArg Prod.fst hquiet
    rw [run_cons, ih, hquiet]
    rw [hget]
    exact h.2

end Component

end Reactive
