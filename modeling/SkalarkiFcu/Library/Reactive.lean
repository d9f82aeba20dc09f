import Mathlib.Data.List.Induction

/-!
# Reactive programs that emit effects

A reactive program keeps a state, answers each input with an action, and talks to the
outside only through the effects that its actions emit. This file has the vocabulary for
such programs and the rules by which results about one action become results about a run.

## Architecture

- **Actions**: `Action`, with `skip`, `seq`, `block`, `mapEffects`, and `zoom` for an action on
  one part of a larger state
- **Runs**: `exec` and `run` over configurations (a state with everything emitted so far), and
  `outputs`, what each input emits
- **Rest**: `Quiet`, an action that finds nothing to do
- **Observation**: `latest`, the last emitted effect of one kind, and `LastOf`, the same as a
  relation
- **Simulation**: an action seen through a projection of its state and a filter on its
  effects is another, smaller action
-/

namespace Reactive

/-! ## Actions -/

/-- An action maps the state it starts in to the state it leaves and the effects it emits,
in order. -/
abbrev Action (σ ε : Type*) := σ → σ × List ε

variable {σ α ι ε : Type*}

namespace Action

/-- Change nothing, emit nothing. -/
def skip : Action σ ε := fun s => (s, [])

/-- One action after the other. -/
def seq (a b : Action σ ε) : Action σ ε := fun s =>
  let r := a s
  let r' := b r.1
  (r'.1, r.2 ++ r'.2)

/-- The actions of a list, from left to right. -/
def block : List (Action σ ε) → Action σ ε
  | [] => skip
  | a :: as => seq a (block as)

@[simp] theorem skip_apply (s : σ) : (skip : Action σ ε) s = (s, []) := rfl

@[simp] theorem seq_fst (a b : Action σ ε) (s : σ) : (seq a b s).1 = (b (a s).1).1 := rfl

@[simp] theorem seq_snd (a b : Action σ ε) (s : σ) :
    (seq a b s).2 = (a s).2 ++ (b (a s).1).2 := rfl

@[simp] theorem block_nil : block ([] : List (Action σ ε)) = skip := rfl

@[simp] theorem block_cons (a : Action σ ε) (as : List (Action σ ε)) :
    block (a :: as) = seq a (block as) := rfl

end Action

/-- The same action with its effects translated. -/
def Action.mapEffects {ε' : Type*} (f : ε → ε') (a : Action σ ε) : Action σ ε' := fun s =>
  ((a s).1, (a s).2.map f)

theorem Action.mapEffects_block {ε' : Type*} (f : ε → ε') (as : List (Action σ ε)) :
    (block as).mapEffects f = block (as.map (Action.mapEffects f)) := by
  induction as with
  | nil => rfl
  | cons a as ih =>
    funext s
    simp [← ih, mapEffects, seq]

/-- A part `α` of a larger state `σ`; a part that is overwritten reads as what was written. -/
structure Part (σ α : Type*) where
  /-- Read the part. -/
  get : σ → α
  /-- Overwrite the part. -/
  set : α → σ → σ
  get_set : ∀ (a : α) (s : σ), get (set a s) = a

/-- Run an action of one part on the whole state. -/
def Part.zoom (p : Part σ α) (a : Action α ε) : Action σ ε := fun s =>
  let r := a (p.get s)
  (p.set r.1 s, r.2)

@[simp] theorem Part.zoom_snd (p : Part σ α) (a : Action α ε) (s : σ) :
    (p.zoom a s).2 = (a (p.get s)).2 := rfl

/-! ## Rest -/

/-- In the state `s` the action changes nothing and emits nothing. -/
def Quiet (a : Action σ ε) (s : σ) : Prop := a s = (s, [])

/-- **A block at rest**: if every action of a block is quiet in a state, so is the block. -/
theorem quiet_block {as : List (Action σ ε)} {s : σ} (h : ∀ a ∈ as, Quiet a s) :
    Quiet (Action.block as) s := by
  induction as with
  | nil => rfl
  | cons a as ih =>
    rw [List.forall_mem_cons] at h
    have ha : a s = (s, []) := h.1
    have has : Action.block as s = (s, []) := ih h.2
    simp [Quiet, Action.seq, ha, has]

theorem Part.quiet_zoom {p : Part σ α} {a : Action α ε} {s : σ} (h : Quiet a (p.get s))
    (hset : p.set (p.get s) s = s) : Quiet (p.zoom a) s := by
  have ha : a (p.get s) = (p.get s, []) := h
  simp [Quiet, Part.zoom, ha, hset]

/-! ## Runs -/

/-- A configuration: the current state and everything emitted so far. -/
abbrev Config (σ ε : Type*) := σ × List ε

/-- Execute one action in a configuration. -/
def exec (a : Action σ ε) (c : Config σ ε) : Config σ ε :=
  let r := a c.1
  (r.1, c.2 ++ r.2)

/-- Answer a list of inputs. -/
def run (step : ι → Action σ ε) (c : Config σ ε) (is : List ι) : Config σ ε :=
  is.foldl (fun c i => exec (step i) c) c

@[simp] theorem exec_fst (a : Action σ ε) (c : Config σ ε) : (exec a c).1 = (a c.1).1 := rfl

@[simp] theorem exec_snd (a : Action σ ε) (c : Config σ ε) :
    (exec a c).2 = c.2 ++ (a c.1).2 := rfl

variable (step : ι → Action σ ε)

@[simp] theorem run_nil (c : Config σ ε) : run step c [] = c := rfl

@[simp] theorem run_cons (c : Config σ ε) (i : ι) (is : List ι) :
    run step c (i :: is) = run step (exec (step i) c) is := rfl

theorem run_append (c : Config σ ε) (is js : List ι) :
    run step c (is ++ js) = run step (run step c is) js := List.foldl_append

theorem run_concat (c : Config σ ε) (is : List ι) (i : ι) :
    run step c (is ++ [i]) = exec (step i) (run step c is) := by
  rw [run_append]
  rfl

/-- What a run has emitted it keeps: the old trace is a prefix of the new one. -/
theorem run_snd_prefix (c : Config σ ε) (is : List ι) : c.2 <+: (run step c is).2 := by
  induction is generalizing c with
  | nil => exact List.prefix_rfl
  | cons i is ih => exact (List.prefix_append _ _).trans (ih (exec (step i) c))

/-- What each input of a run emits. -/
def outputs (step : ι → Action σ ε) (s : σ) : List ι → List (List ε)
  | [] => []
  | i :: is => (step i s).2 :: outputs step (step i s).1 is

/-- A property of everything that the actions emit holds of every output of a run. -/
theorem forall_mem_outputs {p : ε → Prop} {step : ι → Action σ ε}
    (h : ∀ i s, ∀ e ∈ (step i s).2, p e) {s : σ} {is : List ι} :
    ∀ es ∈ outputs step s is, ∀ e ∈ es, p e := by
  induction is generalizing s with
  | nil => simp [outputs]
  | cons i is ih =>
    rw [outputs, List.forall_mem_cons]
    exact ⟨h i s, ih⟩

/-- What each input of a kind emits in a run. -/
def outputsOf (p : ι → Bool) (step : ι → Action σ ε) (s : σ) : List ι → List (List ε)
  | [] => []
  | i :: is =>
    if p i then (step i s).2 :: outputsOf p step (step i s).1 is
    else outputsOf p step (step i s).1 is

/-- **Runs without interference**: if only the inputs with a reading move a part of the state,
each as a smaller action of its reading does, then their outputs are those of the smaller
actions on the readings alone. -/
theorem outputsOf_eq_outputs {ρ ε' : Type*} {p : ι → Bool} {step : ι → Action σ ε} {get : σ → α}
    {view : List ε → List ε'} {reading : ι → Option ρ} {f : ρ → Action α ε'}
    (hp : ∀ i, p i = (reading i).isSome)
    (hskip : ∀ i s, reading i = none → get (step i s).1 = get s)
    (hread : ∀ i s r, reading i = some r →
      get (step i s).1 = (f r (get s)).1 ∧ view (step i s).2 = (f r (get s)).2)
    (s : σ) (is : List ι) :
    (outputsOf p step s is).map view = outputs f (get s) (is.filterMap reading) := by
  induction is generalizing s with
  | nil => rfl
  | cons i is ih =>
    cases h : reading i with
    | none =>
      rw [List.filterMap_cons_none h, ← hskip i s h, ← ih, outputsOf, hp, h]
      rfl
    | some r =>
      obtain ⟨hget, hview⟩ := hread i s r h
      rw [List.filterMap_cons_some h, outputs, ← hget, ← hview, ← ih, outputsOf, hp, h]
      rfl

/-- Translated outputs are the outputs of the translated actions. -/
theorem outputs_mapEffects {ε' : Type*} (f : ε → ε') (s : σ) (is : List ι) :
    outputs (fun i => (step i).mapEffects f) s is = (outputs step s is).map (List.map f) := by
  induction is generalizing s with
  | nil => rfl
  | cons i is ih =>
    rw [outputs, ih, outputs, List.map_cons]
    rfl

/-! ## The latest effect of a kind -/

/-- The last effect of a trace that satisfies `p`. -/
def latest (p : ε → Bool) (es : List ε) : Option ε := (es.filter p).getLast?

/-- The last element of a list that has the property. -/
def LastOf (p : α → Prop) (xs : List α) (x : α) : Prop :=
  p x ∧ ∃ before after, xs = before ++ x :: after ∧ ∀ y ∈ after, ¬ p y

theorem latest_eq_some_iff {p : ε → Bool} {es : List ε} {e : ε} :
    latest p es = some e ↔ LastOf (fun e => p e = true) es e := by
  rw [latest, List.getLast?_eq_some_iff]
  constructor
  · rintro ⟨kept, hkept⟩
    -- what the filter keeps behind the element is nothing
    obtain ⟨before, rest, rfl, -, hrest⟩ := List.filter_eq_append_iff.mp hkept
    obtain ⟨between, after, rfl, -, he, hafter⟩ := List.filter_eq_cons_iff.mp hrest
    exact ⟨he, before ++ between, after, by simp, List.filter_eq_nil_iff.mp hafter⟩
  · rintro ⟨he, before, after, rfl, hafter⟩
    refine ⟨before.filter p, ?_⟩
    rw [List.filter_append, List.filter_cons_of_pos he, List.filter_eq_nil_iff.mpr hafter]

/-- A list has one last element with the property. -/
theorem LastOf.unique {p : α → Prop} {xs : List α} {x y : α} (hx : LastOf p xs x)
    (hy : LastOf p xs y) : x = y := by
  classical
  have hlatest : ∀ {z}, LastOf p xs z → latest (fun z => decide (p z)) xs = some z := by
    intro z hz
    simpa [latest_eq_some_iff] using hz
  exact Option.some.inj ((hlatest hx).symm.trans (hlatest hy))

/-- The last element of the images is the image of the last element. -/
theorem LastOf.filterMap {β : Type*} {g : α → Option β} {p : α → Prop} {q : β → Prop}
    {xs : List α} {x : α} {b : β} (h : LastOf p xs x) (hx : g x = some b)
    (hpq : ∀ y ∈ xs, ∀ c, g y = some c → (q c ↔ p y)) : LastOf q (xs.filterMap g) b := by
  obtain ⟨hp, before, after, rfl, hafter⟩ := h
  refine ⟨(hpq x (by simp) b hx).mpr hp, before.filterMap g, after.filterMap g, ?_, ?_⟩
  · rw [List.filterMap_append, List.filterMap_cons_some hx]
  · intro c hc hq
    obtain ⟨y, hy, hyc⟩ := List.mem_filterMap.mp hc
    exact hafter y hy ((hpq y (by simp [hy]) c hyc).mp hq)

/-- If some element has the property, one is the last. -/
theorem exists_lastOf {p : α → Prop} {xs : List α} (h : ∃ x ∈ xs, p x) : ∃ x, LastOf p xs x := by
  classical
  cases hlatest : latest (fun x => decide (p x)) xs with
  | some x => exact ⟨x, by simpa using latest_eq_some_iff.mp hlatest⟩
  | none =>
    obtain ⟨x, hx, hp⟩ := h
    rw [latest, List.getLast?_eq_none_iff, List.filter_eq_nil_iff] at hlatest
    exact absurd (decide_eq_true hp) (hlatest x hx)

/-! ## Simulation -/

/-- Seen through the projection `get` and the filter `p`, the action `a` is the action `f`
of the projected state. -/
def Simulates (get : σ → α) (p : ε → Bool) (a : Action σ ε) (f : Action α ε) : Prop :=
  ∀ s, get (a s).1 = (f (get s)).1 ∧ (a s).2.filter p = (f (get s)).2.filter p

/-- The part of a configuration that the projection and the filter show. -/
def observe (get : σ → α) (p : ε → Bool) (c : Config σ ε) : Config α ε :=
  (get c.1, c.2.filter p)

variable {get : σ → α} {p : ε → Bool}

/-- Executing an action and observing is observing and executing the smaller action. -/
theorem Simulates.observe_exec {a : Action σ ε} {f : Action α ε} (h : Simulates get p a f)
    (hf : ∀ x, ∀ e ∈ (f x).2, p e = true) (c : Config σ ε) :
    observe get p (exec a c) = exec f (observe get p c) := by
  obtain ⟨hget, hfilter⟩ := h c.1
  have hall : (f (get c.1)).2.filter p = (f (get c.1)).2 :=
    List.filter_eq_self.mpr (hf (get c.1))
  simp only [observe, exec, List.filter_append, hget, hfilter, hall]

/-- **Simulation of runs**: if every step simulates a smaller one, the observed run is the run
of the smaller steps. -/
theorem observe_run {step : ι → Action σ ε} {f : ι → Action α ε}
    (h : ∀ i, Simulates get p (step i) (f i)) (hf : ∀ i x, ∀ e ∈ (f i x).2, p e = true)
    (c : Config σ ε) (is : List ι) :
    observe get p (run step c is) = run f (observe get p c) is := by
  induction is generalizing c with
  | nil => rfl
  | cons i is ih => rw [run_cons, run_cons, ih, (h i).observe_exec (hf i)]

end Reactive
