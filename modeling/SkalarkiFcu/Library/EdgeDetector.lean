import Mathlib.Data.List.Induction
import SkalarkiFcu.Library.Reactive

/-!
# Edge detectors

An edge detector caches the last reading of an input and emits the rendering of a reading only
when it differs from the cached one. An observer that keeps the last emission then sees the
cached reading, if it has ever been in step with the cache.
-/

namespace Reactive

variable {β ε : Type*} (render : β → ε)

/-- The observer is in step: the last emission renders the cached reading, or nothing has been
emitted and the cache holds the reading `rest` that the observer assumes by itself. -/
def InStep (rest : β) (c : Config β ε) : Prop :=
  c.2.getLast? = some (render c.1) ∨ (c.2 = [] ∧ c.1 = rest)

variable {render} {rest : β} {c : Config β ε}

/-- What an observer in step sees. -/
theorem InStep.getLast?_iff (h : InStep render rest c) {x : β} (hx : x ≠ rest)
    (hrender : ∀ y, render y = render x → y = x) :
    c.2.getLast? = some (render x) ↔ c.1 = x := by
  rcases h with h | ⟨hnil, hrest⟩
  · rw [h, Option.some.injEq]
    exact ⟨hrender c.1, congrArg render⟩
  · rw [hnil, hrest]
    exact iff_of_false nofun (Ne.symm hx)

variable [DecidableEq β] (render)

/-- Compare a reading with the cached one; if it differs, cache it and emit its rendering. -/
def detect (x : β) : Action β ε := fun s => if s = x then (s, []) else (x, [render x])

@[simp] theorem detect_fst (x s : β) : (detect render x s).1 = x := by
  unfold detect
  split
  · assumption
  · rfl

theorem detect_snd_ne_nil_iff (x s : β) : (detect render x s).2 ≠ [] ↔ x ≠ s := by
  unfold detect
  split
  · simp [*]
  · simp [Ne.symm ‹s ≠ x›]

variable {render}

/-- An edge brings the observer in step, wherever it was. -/
theorem inStep_exec_of_ne {x : β} (h : c.1 ≠ x) :
    InStep render rest (exec (detect render x) c) := by
  left
  simp [exec, detect, h]

theorem exec_detect_self (c : Config β ε) : exec (detect render c.1) c = c := by
  simp [exec, detect]

theorem InStep.exec_detect (h : InStep render rest c) (x : β) :
    InStep render rest (exec (detect render x) c) := by
  by_cases hx : c.1 = x
  · rw [← hx, exec_detect_self]
    exact h
  · exact inStep_exec_of_ne hx

/-! ## Runs of readings -/

variable (render)

/-- An edge detector that some inputs do not concern. -/
def sample : Option β → Action β ε
  | none => .skip
  | some x => detect render x

/-- The inputs that do not concern the detector leave no trace. -/
theorem run_sample {ι : Type*} (reading : ι → Option β) (c : Config β ε) (is : List ι) :
    run (fun i => sample render (reading i)) c is =
      run (detect render) c (is.filterMap reading) := by
  induction is generalizing c with
  | nil => rfl
  | cons i is ih =>
    cases h : reading i with
    | none =>
      rw [run_cons, ih, List.filterMap_cons_none h, h]
      simp [sample, exec]
    | some x => rw [run_cons, ih, List.filterMap_cons_some h, h, run_cons, sample]

/-- The cache holds the last reading. -/
theorem run_detect_fst (c : Config β ε) (xs : List β) :
    (run (detect render) c xs).1 = xs.getLast?.getD c.1 := by
  induction xs using List.reverseRecOn with
  | nil => rfl
  | append_singleton xs x _ => simp [run_concat]

variable {render}

/-- An observer in step stays in step. -/
theorem InStep.run_detect (h : InStep render rest c) (xs : List β) :
    InStep render rest (run (detect render) c xs) := by
  induction xs generalizing c with
  | nil => exact h
  | cons x xs ih => exact ih (h.exec_detect x)

end Reactive
