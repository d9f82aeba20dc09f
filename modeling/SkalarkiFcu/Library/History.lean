import Mathlib.Data.List.Induction
import Mathlib.Data.List.Infix

/-!
# Properties along a history

A history is the list of the inputs a program has answered. `Along Q is` says that `Q` holds
at every input of `is`, each seen together with the inputs before it. Safety properties of
whole runs have this form, and so have conditions on the inputs of a run; `along_iff` compares
the two, input by input, under an invariant that holds as long as the property has held.
-/

namespace History

variable {ι : Type*}

/-- `Q` holds at every input of a history, given the inputs before it. -/
def Along (Q : List ι → ι → Prop) (is : List ι) : Prop :=
  ∀ pre i, pre ++ [i] <+: is → Q pre i

theorem along_nil (Q : List ι → ι → Prop) : Along Q [] := by
  intro pre i h
  have := h.length_le
  simp at this

theorem along_concat {Q : List ι → ι → Prop} {is : List ι} {i : ι} :
    Along Q (is ++ [i]) ↔ Along Q is ∧ Q is i := by
  constructor
  · intro h
    exact ⟨fun pre j hj => h pre j (hj.trans (List.prefix_append _ _)), h is i List.prefix_rfl⟩
  · rintro ⟨his, hi⟩ pre j hj
    rcases List.prefix_concat_iff.mp hj with heq | hpre
    · obtain ⟨rfl, hij⟩ := List.append_inj' heq rfl
      obtain rfl : j = i := by simpa using hij
      exact hi
    · exact his pre j hpre

/-- **Comparison along a history**: if, under the invariant `I`, the property `Q` of an input
amounts to `R`, and the invariant survives every input at which `Q` holds, then `Q` holds along
a history if and only if `R` does. -/
theorem along_iff {Q R : List ι → ι → Prop} {I : List ι → Prop} {is : List ι} (hnil : I [])
    (hiff : ∀ pre i, pre ++ [i] <+: is → I pre → (Q pre i ↔ R pre i))
    (hstep : ∀ pre i, pre ++ [i] <+: is → I pre → Q pre i → I (pre ++ [i])) :
    Along Q is ↔ Along R is := by
  -- the invariant is carried along with the comparison, as far as `Q` has held
  suffices h : (Along Q is ↔ Along R is) ∧ (Along Q is → I is) from h.1
  induction is using List.reverseRecOn with
  | nil => exact ⟨iff_of_true (along_nil Q) (along_nil R), fun _ => hnil⟩
  | append_singleton is i ih =>
    have hpre : ∀ {pre : List ι} {j : ι}, pre ++ [j] <+: is → pre ++ [j] <+: is ++ [i] :=
      fun hj => hj.trans (List.prefix_append _ _)
    obtain ⟨hQR, hI⟩ := ih (fun pre j hj => hiff pre j (hpre hj))
      (fun pre j hj => hstep pre j (hpre hj))
    rw [along_concat, along_concat]
    refine ⟨?_, fun ⟨hQ, hi⟩ => hstep is i List.prefix_rfl (hI hQ) hi⟩
    constructor
    · rintro ⟨hQ, hi⟩
      exact ⟨hQR.mp hQ, (hiff is i List.prefix_rfl (hI hQ)).mp hi⟩
    · rintro ⟨hR, hi⟩
      have hQ := hQR.mpr hR
      exact ⟨hQ, (hiff is i List.prefix_rfl (hI hQ)).mpr hi⟩

end History
