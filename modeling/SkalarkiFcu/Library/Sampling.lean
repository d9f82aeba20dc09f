import Mathlib.Data.List.Destutter
import SkalarkiFcu.Library.Reactive

/-!
# Sampled registers

A register of a reactive program has a dialled and a taken value. At its ticks the program takes
over what has been dialled and emits it, unless it repeats what was taken last. What a run emits
are then the values that its ticks have found, without repetitions. Where each input turns the
dial by itself, these values are a matter of the inputs alone, however they are spread over
the ticks.

## Architecture

- **Registers**: `SampledRegister`, and `Regularly` for the runs that it describes
- **What is emitted**: `sampled`, `SampledRegister.write_run`, `SampledRegister.taken_run`
- **What is dialled**: `dials`, `SampledRegister.dialled_run`, `SampledRegister.sampled_eq_dials`
-/

namespace Reactive

variable {σ ι ε β : Type*}

/-! ## Registers -/

/-- A register of a reactive program. -/
structure SampledRegister (step : ι → Action σ ε) (β : Type*) where
  dialled : σ → β
  taken : σ → β
  /-- What an effect writes to the outside of the register. -/
  write : ε → Option β
  tick : ι → Bool
  /-- The second value is no repetition of the first. -/
  differs : β → β → Prop
  decDiffers : DecidableRel differs
  /-- The inputs at which the register behaves as one. -/
  regular : ι → σ → Prop
  keep : ∀ i s, tick i = false →
    taken (step i s).1 = taken s ∧ (step i s).2.filterMap write = []
  take : ∀ i s, tick i = true → regular i s → differs (taken s) (dialled s) →
    taken (step i s).1 = dialled s ∧ (step i s).2.filterMap write = [dialled s]
  rest : ∀ i s, tick i = true → regular i s → ¬ differs (taken s) (dialled s) →
    taken (step i s).1 = taken s ∧ (step i s).2.filterMap write = []

namespace SampledRegister

attribute [instance] decDiffers

variable {step : ι → Action σ ε} (r : SampledRegister step β)

/-- All inputs of a run are regular in the states that they find. -/
def Regularly (c : Config σ ε) (is : List ι) : Prop :=
  ∀ pre i, pre ++ [i] <+: is → r.regular i (run step c pre).1

variable {r}

theorem Regularly.head {c : Config σ ε} {i : ι} {is : List ι} (h : r.Regularly c (i :: is)) :
    r.regular i c.1 := h [] i (by simp)

theorem Regularly.tail {c : Config σ ε} {i : ι} {is : List ι} (h : r.Regularly c (i :: is)) :
    r.Regularly (exec (step i) c) is := by
  intro pre j hj
  exact h (i :: pre) j (by simpa using hj)

variable (r)

/-! ## What is emitted -/

/-- What the ticks of a run find. -/
def sampled : σ → List ι → List β
  | _, [] => []
  | s, i :: is =>
    if r.tick i then r.dialled s :: sampled (step i s).1 is else sampled (step i s).1 is

/-- What a list keeps when its repetitions go begins with its first value. -/
theorem destutter'_eq_cons_tail (R : β → β → Prop) [DecidableRel R] (b : β) (bs : List β) :
    bs.destutter' R b = b :: (bs.destutter' R b).tail := by
  induction bs with
  | nil => rfl
  | cons b' bs ih =>
    by_cases h : R b b'
    · rw [List.destutter'_cons_pos bs h, List.tail_cons]
    · rwa [List.destutter'_cons_neg bs h]

/-- Nothing is left behind the first value exactly if all values repeat it. -/
theorem tail_destutter'_eq_nil_iff (R : β → β → Prop) [DecidableRel R] (b : β) (bs : List β) :
    (bs.destutter' R b).tail = [] ↔ ∀ x ∈ bs, ¬ R b x := by
  induction bs with
  | nil => simp
  | cons b' bs ih =>
    by_cases h : R b b'
    · rw [List.destutter'_cons_pos bs h, List.tail_cons]
      refine iff_of_false (List.destutter'_ne_nil bs R) fun hall => ?_
      exact hall b' List.mem_cons_self h
    · rw [List.destutter'_cons_neg bs h, ih, List.forall_mem_cons]
      exact (and_iff_right h).symm

/-- **What is written**: a run writes the values that its ticks find, without repetitions. -/
theorem write_run {c : Config σ ε} {is : List ι} (h : r.Regularly c is) :
    (run step c is).2.filterMap r.write = c.2.filterMap r.write ++
      ((r.sampled c.1 is).destutter' r.differs (r.taken c.1)).tail := by
  induction is generalizing c with
  | nil => simp [sampled]
  | cons i is ih =>
    rw [run_cons, ih h.tail, exec_snd, List.filterMap_append, exec_fst, List.append_assoc, sampled]
    congr 1
    cases htick : r.tick i with
    | false =>
      obtain ⟨htaken, hwrite⟩ := r.keep i c.1 htick
      simp [htaken, hwrite]
    | true =>
      rw [if_pos rfl]
      by_cases hdiffers : r.differs (r.taken c.1) (r.dialled c.1)
      · -- the tick finds a new value, with which the comparison goes on
        obtain ⟨htaken, hwrite⟩ := r.take i c.1 htick h.head hdiffers
        rw [List.destutter'_cons_pos _ hdiffers, List.tail_cons, htaken, hwrite]
        exact (destutter'_eq_cons_tail _ _ _).symm
      · -- the tick finds a repetition, which is left out on both sides
        obtain ⟨htaken, hwrite⟩ := r.rest i c.1 htick h.head hdiffers
        rw [List.destutter'_cons_neg _ hdiffers, htaken, hwrite, List.nil_append]

/-- A register holds what it has emitted last, or what it held before. -/
theorem taken_run {c : Config σ ε} {is : List ι} (h : r.Regularly c is) :
    r.taken (run step c is).1 =
      ((r.sampled c.1 is).destutter' r.differs (r.taken c.1)).tail.getLast?.getD (r.taken c.1) := by
  induction is generalizing c with
  | nil => rfl
  | cons i is ih =>
    rw [run_cons, ih h.tail, exec_fst, sampled]
    cases htick : r.tick i with
    | false => simp [(r.keep i c.1 htick).1]
    | true =>
      rw [if_pos rfl]
      by_cases hdiffers : r.differs (r.taken c.1) (r.dialled c.1)
      · -- the new value comes before all that follow
        obtain ⟨htaken, -⟩ := r.take i c.1 htick h.head hdiffers
        rw [List.destutter'_cons_pos _ hdiffers, List.tail_cons, htaken,
          destutter'_eq_cons_tail _ (r.dialled c.1), List.tail_cons, List.getLast?_cons,
          Option.getD_some]
      · obtain ⟨htaken, -⟩ := r.rest i c.1 htick h.head hdiffers
        rw [List.destutter'_cons_neg _ hdiffers, htaken]

/-! ## What is dialled -/

/-- The values that the ticks find if each input turns the dial by itself. -/
def dials (tick : ι → Bool) (turn : ι → β → β) : β → List ι → List β
  | _, [] => []
  | b, i :: is =>
    if tick i then b :: dials tick turn (turn i b) is else dials tick turn (turn i b) is

variable {turn : ι → β → β}
  (hturn : ∀ i s, r.regular i s → r.dialled (step i s).1 = turn i (r.dialled s))

include hturn

/-- The dial of a run is turned by one input after the other. -/
theorem dialled_run {c : Config σ ε} {is : List ι} (h : r.Regularly c is) :
    r.dialled (run step c is).1 = is.foldl (fun b i => turn i b) (r.dialled c.1) := by
  induction is generalizing c with
  | nil => rfl
  | cons i is ih => rw [run_cons, ih h.tail, exec_fst, hturn i c.1 h.head, List.foldl_cons]

/-- **What is found**: the ticks find the dial where the inputs before them have turned it. -/
theorem sampled_eq_dials {c : Config σ ε} {is : List ι} (h : r.Regularly c is) :
    r.sampled c.1 is = dials r.tick turn (r.dialled c.1) is := by
  induction is generalizing c with
  | nil => rfl
  | cons i is ih =>
    -- from the state after this input, the dial stands where the input has turned it
    have hrest := ih h.tail
    rw [exec_fst, hturn i c.1 h.head] at hrest
    rw [sampled, dials, hrest]

end SampledRegister

end Reactive
