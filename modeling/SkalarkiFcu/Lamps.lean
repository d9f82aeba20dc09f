import SkalarkiFcu.Library.EdgeDetector
import SkalarkiFcu.Dispatch

/-!
# Annunciators and managed-mode dots

Every lamp is an edge detector: `Update` compares a reading with a state variable and pushes a
frame when they differ. Both kinds of lamps are simulated by `detect`, so that a run is seen by
a lamp as the sequence of its own readings. What remains is the start: the state variables of
the annunciators start with the lamps off, and those of the dots start with what `InitDatarefs`
reads, of which only the speed dot is told.

## Architecture

- **Annunciators**: `observe_session_annunciator`, and `annunciators_mirror`
- **Dots**: `observe_session_dot`, and `dotsRight_iff`
-/

namespace SkalarkiFcu

open LittleEndian Reactive Truncation

/-! ## Annunciators -/

/-- The frame for a thresholded reading. -/
def Annunciator.render (k : Annunciator) (n : ℤ) : Effect :=
  .push (if n = 1 then k.onFrame else k.offFrame)

theorem Annunciator.render_eq_one {k : Annunciator} {n : ℤ} (h : k.render n = k.render 1) :
    n = 1 := by
  have hne : k.offFrame ≠ k.onFrame := by
    clear h
    cases k <;> decide
  by_contra hn
  simp only [Annunciator.render, if_neg hn, if_true, Effect.push.injEq] at h
  exact hne h

/-- The thresholded reading of an annunciator at an event. -/
def Event.reading (k : Annunciator) : Event → Option ℤ
  | .packet _ _ => none
  | .update env => some (Update.threshold (env.annunciator k))

/-- The thresholded reading at the last update, 0 before the first. -/
def lastReading (k : Annunciator) (pre : List Event) : ℤ :=
  (pre.filterMap (Event.reading k)).getLast?.getD 0

theorem Update.threshold_eq_one_iff (x : ℚ) : Update.threshold x = 1 ↔ x > 0.001 := by
  unfold Update.threshold
  split <;> simp [*]

theorem Update.annunciator_eq_detect (k : Annunciator) (env : Datarefs) :
    Update.annunciator k env = detect k.render (Update.threshold (env.annunciator k)) := by
  funext n
  simp only [Update.annunciator, detect, ne_eq, ite_not, pushMessage_annunciator_on,
    pushMessage_annunciator_off]
  apply if_congr Iff.rfl rfl
  -- the new value is 0 or 1, and only 1 sends the frame that switches on
  by_cases h : Update.threshold (env.annunciator k) = 1 <;> simp [Annunciator.render, h]

theorem aims_render_annunciator (k : Annunciator) (n : ℤ) :
    Effect.aims (.lamp (.annunciator k)) (k.render n) = true := by
  unfold Annunciator.render
  split <;> simp

theorem sample_annunciator_aims (k : Annunciator) (o : Option ℤ) (n : ℤ) :
    ∀ e ∈ (sample k.render o n).2, Effect.aims (.lamp (.annunciator k)) e = true := by
  intro e he
  -- an event without a reading emits nothing
  cases o with
  | none => cases he
  | some x =>
    by_cases h : n = x
    · simp [sample, detect, h] at he
    · obtain rfl : e = k.render x := by simpa [sample, detect, h] using he
      exact aims_render_annunciator k x

/-- A packet is nothing to a lamp whose state variable it keeps. -/
theorem simulates_packet {α : Type} {get : Globals → α} (hash : Bytes → UInt64)
    (env : Datarefs) (recvbuf : Bytes) (t : Target)
    (hget : ∀ s, get (processPacket hash env recvbuf s).1 = get s) :
    Simulates get (Effect.aims t) (processPacket hash env recvbuf) .skip := by
  intro s
  have hquiet := framesFor_of_pushes_eq_nil t (pushes_processPacket hash env recvbuf s)
  simp only [Action.skip_apply, List.filter_nil]
  exact ⟨hget s, hquiet⟩

theorem processPacket_state (hash : Bytes → UInt64) (env : Datarefs) (recvbuf : Bytes)
    (s : Globals) : (processPacket hash env recvbuf s).1.state = s.state := by
  obtain ⟨_, _, _, _, _, _, h⟩ := processPacket_dialled hash env recvbuf s
  rw [h]

/-- An event of the plugin is, for one annunciator, its own reading and nothing else. -/
theorem simulates_annunciator (hash : Bytes → UInt64) (k : Annunciator) (e : Event) :
    Simulates (fun s : Globals => s.state k) (Effect.aims (.lamp (.annunciator k)))
      (e.step hash) (sample k.render (e.reading k)) := by
  -- packets keep the state variables; the update of one lamp is an edge detector
  cases e with
  | packet env recvbuf =>
    apply simulates_packet hash env recvbuf
    intro s
    rw [processPacket_state]
  | update env =>
    intro s
    rw [Event.step_update]
    constructor
    · simp only [update_state, Update.annunciator_eq_detect]
      rfl
    · show framesFor _ (update env s).2 = _
      rw [framesFor_update_annunciator, Update.annunciator_eq_detect]
      rfl

/-- **What one annunciator sees of a run**: an edge detector, fed with its own readings. -/
theorem observe_session_annunciator (hash : Bytes → UInt64) (env₀ : Datarefs)
    (k : Annunciator) (events : List Event) :
    observe (fun s : Globals => s.state k) (Effect.aims (.lamp (.annunciator k)))
        (session hash env₀ events) =
      run (detect k.render) (0, []) (events.filterMap (Event.reading k)) := by
  -- no lamp of an annunciator is told at the start, and all state variables are 0
  have hstart : observe (fun s : Globals => s.state k) (Effect.aims (.lamp (.annunciator k)))
      (started env₀) = (0, []) := by
    apply Prod.ext
    · show (started env₀).1.state k = 0
      rw [started_fst]
      rfl
    · show framesFor (.lamp (.annunciator k)) (started env₀).2 = []
      rw [framesFor_started _ (by simp), framesFor_init]
  rw [session, observe_run (simulates_annunciator hash k)
    (fun e => sample_annunciator_aims k (e.reading k)), hstart, run_sample]

theorem session_state (hash : Bytes → UInt64) (env₀ : Datarefs) (k : Annunciator)
    (pre : List Event) : (session hash env₀ pre).1.state k = lastReading k pre := by
  have h := congrArg Prod.fst (observe_session_annunciator hash env₀ k pre)
  rwa [run_detect_fst] at h

/-- After an update the last frame for an annunciator is its On frame exactly if the reading is
above the threshold. -/
theorem latest_annunciator_iff (hash : Bytes → UInt64) (env₀ : Datarefs) (k : Annunciator)
    (pre : List Event) (env : Datarefs) :
    latest (Effect.aims (.lamp (.annunciator k)))
        (session hash env₀ (pre ++ [.update env])).2 = some (.push k.onFrame) ↔
      env.annunciator k > 0.001 := by
  have hobs := observe_session_annunciator hash env₀ k (pre ++ [.update env])
  -- off and 0 agree at the start, so the lamp stays in step with its state variable
  have hstep : InStep k.render 0
      (run (detect k.render) (0, []) ((pre ++ [Event.update env]).filterMap (Event.reading k))) :=
    InStep.run_detect (.inr ⟨rfl, rfl⟩) _
  have hcache : (run (detect k.render) (0, [])
      ((pre ++ [Event.update env]).filterMap (Event.reading k))).1 =
        Update.threshold (env.annunciator k) := by
    simp [run_detect_fst, Event.reading]
  have hlast := hstep.getLast?_iff one_ne_zero fun y hy => Annunciator.render_eq_one hy
  rw [← hobs] at hlast hcache
  rw [← Update.threshold_eq_one_iff, ← hcache]
  exact hlast

/-- An update pushes a frame for an annunciator exactly if its thresholded reading is new. -/
theorem framesFor_update_ne_nil_iff (hash : Bytes → UInt64) (env₀ : Datarefs)
    (k : Annunciator) (pre : List Event) (env : Datarefs) :
    framesFor (.lamp (.annunciator k)) (update env (session hash env₀ pre).1).2 ≠ [] ↔
      Update.threshold (env.annunciator k) ≠ lastReading k pre := by
  rw [framesFor_update_annunciator, Update.annunciator_eq_detect, session_state]
  -- a detector pushes for its own lamp only
  have hall : framesFor (.lamp (.annunciator k))
      (detect k.render (Update.threshold (env.annunciator k)) (lastReading k pre)).2 =
        (detect k.render (Update.threshold (env.annunciator k)) (lastReading k pre)).2 :=
    List.filter_eq_self.mpr
      (sample_annunciator_aims k (some (Update.threshold (env.annunciator k))) _)
  rw [hall]
  apply detect_snd_ne_nil_iff

/-- Runs with the same readings of an annunciator have the same frames for it. -/
theorem framesFor_session_congr {k : Annunciator} {events events' : List Event}
    (h : events.filterMap (Event.reading k) = events'.filterMap (Event.reading k))
    (hash hash' : Bytes → UInt64) (env₀ env₀' : Datarefs) :
    framesFor (.lamp (.annunciator k)) (session hash env₀ events).2 =
      framesFor (.lamp (.annunciator k)) (session hash' env₀' events').2 := by
  have hrun := congrArg Prod.snd (observe_session_annunciator hash env₀ k events)
  have hrun' := congrArg Prod.snd (observe_session_annunciator hash' env₀' k events')
  rw [h] at hrun
  exact hrun.trans hrun'.symm

/-- **Annunciators mirror the simulator**: after every update the last frame for an annunciator
switches it on if and only if that update read it above the threshold; an update pushes a
frame for it if and only if its thresholded reading has changed; and its frames depend on
nothing but its own readings. -/
theorem annunciators_mirror (hash : Bytes → UInt64) (env₀ : Datarefs) (k : Annunciator)
    (events : List Event) :
    AtUpdates (fun pre env =>
      (latest (Effect.aims (.lamp (.annunciator k)))
          (session hash env₀ (pre ++ [.update env])).2 = some (.push k.onFrame) ↔
        env.annunciator k > 0.001) ∧
      (framesFor (.lamp (.annunciator k)) (update env (session hash env₀ pre).1).2 ≠ [] ↔
        Update.threshold (env.annunciator k) ≠ lastReading k pre)) events ∧
    ∀ (hash' : Bytes → UInt64) (env₀' : Datarefs) (events' : List Event),
      events.filterMap (Event.reading k) = events'.filterMap (Event.reading k) →
      framesFor (.lamp (.annunciator k)) (session hash env₀ events).2 =
        framesFor (.lamp (.annunciator k)) (session hash' env₀' events').2 := by
  refine ⟨fun pre env _ => ⟨?_, ?_⟩, fun hash' env₀' events' hreadings => ?_⟩
  · apply latest_annunciator_iff
  · apply framesFor_update_ne_nil_iff
  · exact framesFor_session_congr hreadings hash hash' env₀ env₀'

/-- The A/THR light does not care which other lights are on. -/
theorem annunciators_mirror_athr :
    framesFor (.lamp (.annunciator .athr)) (session fnv1a .zero
        [.update { Datarefs.zero with annunciator := Function.update (fun _ => 0) .athr 1 }]).2 =
      framesFor (.lamp (.annunciator .athr)) (session fnv1a .zero
        [.update { Datarefs.zero with annunciator := fun _ => 1 }]).2 :=
  (annunciators_mirror fnv1a .zero .athr _).2 fnv1a .zero _ rfl

/-! ## Dots -/

/-- The simulator manages the window. -/
def Dot.reads : Dot → Datarefs → Bool
  | .spd, env => decide (env.gSpdManagedDataref = 0)
  | .hdg, env => decide (trunc env.gHdgManagedDataref = 0)
  | .alt, env => decide (env.gAltManagedDataref = 1)

/-- `SpdManaged`, `HdgManaged`, `AltManaged` -/
def Dot.managed : Dot → Globals → Bool
  | .spd, s => s.spd.spdManaged
  | .hdg, s => s.hdg.hdgManaged
  | .alt, s => s.alt.altManaged

/-- The frame for a managed flag. -/
def Dot.render (d : Dot) (on : Bool) : Effect := .push (if on then d.onFrame else d.offFrame)

/-- The reading of a dot at an event. -/
def Event.dotReading (d : Dot) : Event → Option Bool
  | .packet _ _ => none
  | .update env => some (d.reads env)

theorem Dot.render_eq_true {d : Dot} {on : Bool} (h : d.render on = d.render true) :
    on = true := by
  have hne : d.offFrame ≠ d.onFrame := by
    clear h
    cases d <;> decide
  cases on with
  | true => rfl
  | false => exact absurd (Effect.push.inj h) hne

theorem sample_dot_aims (d : Dot) (o : Option Bool) (on : Bool) :
    ∀ e ∈ (sample d.render o on).2, Effect.aims (.lamp (.dot d)) e = true := by
  intro e he
  cases o with
  | none => cases he
  | some x =>
    by_cases h : on = x
    · simp [sample, detect, h] at he
    · obtain rfl : e = d.render x := by simpa [sample, detect, h] using he
      cases x <;> simp [Dot.render]

/-- A part of `Update` serves a dot as an edge detector of its flag. -/
theorem framesFor_spdMode_dot (env : Datarefs) (w : SpdWindow) :
    framesFor (.lamp (.dot .spd)) (Update.spdMode env w).2 =
      (detect Dot.spd.render (Dot.spd.reads env) w.spdManaged).2 := by
  by_cases h : env.gSpdManagedDataref = 0 <;> cases hm : w.spdManaged <;>
    simp [Update.spdMode, detect, Dot.reads, Dot.render, framesFor, updateSpd_eq, h, hm]

theorem framesFor_hdgMode_dot (env : Datarefs) (w : HdgWindow) :
    framesFor (.lamp (.dot .hdg)) (Update.hdgMode env w).2 =
      (detect Dot.hdg.render (Dot.hdg.reads env) w.hdgManaged).2 := by
  by_cases h : trunc env.gHdgManagedDataref = 0 <;> cases hm : w.hdgManaged <;>
    simp [Update.hdgMode, detect, Dot.reads, Dot.render, framesFor, updateHdg_eq, h, hm]

theorem framesFor_altMode_dot (env : Datarefs) (w : AltWindow) :
    framesFor (.lamp (.dot .alt)) (Update.altMode env w).2 =
      (detect Dot.alt.render (Dot.alt.reads env) w.altManaged).2 := by
  by_cases h : env.gAltManagedDataref = 1 <;> cases hm : w.altManaged <;>
    simp [Update.altMode, detect, Dot.reads, Dot.render, framesFor, h, hm]

theorem update_managed (d : Dot) (env : Datarefs) (s : Globals) :
    d.managed (update env s).1 = d.reads env := by
  cases d <;> simp [Dot.managed, Dot.reads]

theorem processPacket_managed (hash : Bytes → UInt64) (env : Datarefs) (recvbuf : Bytes)
    (d : Dot) (s : Globals) : d.managed (processPacket hash env recvbuf s).1 = d.managed s := by
  obtain ⟨_, _, _, _, _, _, h⟩ := processPacket_dialled hash env recvbuf s
  rw [h]
  cases d <;> rfl

theorem framesFor_update_dot (d : Dot) (env : Datarefs) (s : Globals) :
    framesFor (.lamp (.dot d)) (update env s).2 =
      (detect d.render (d.reads env) (d.managed s)).2 := by
  cases d with
  | spd => rw [framesFor_update_spdDot, framesFor_spdMode_dot, Dot.managed]
  | hdg => rw [framesFor_update_hdgDot, framesFor_hdgMode_dot, Dot.managed]
  | alt => rw [framesFor_update_altDot, framesFor_altMode_dot, Dot.managed]

/-- An event of the plugin is, for one dot, its own reading and nothing else. -/
theorem simulates_dot (hash : Bytes → UInt64) (d : Dot) (e : Event) :
    Simulates d.managed (Effect.aims (.lamp (.dot d))) (e.step hash)
      (sample d.render (e.dotReading d)) := by
  cases e with
  | packet env recvbuf =>
    exact simulates_packet hash env recvbuf _ (processPacket_managed hash env recvbuf d)
  | update env =>
    intro s
    rw [Event.step_update]
    constructor
    · rw [update_managed]
      exact (detect_fst d.render (d.reads env) (d.managed s)).symm
    · -- all frames of the detector are for this dot
      have hall := List.filter_eq_self.mpr
        (sample_dot_aims d (some (d.reads env)) (d.managed s))
      exact (framesFor_update_dot d env s).trans hall.symm

/-- What a dot sees of the start: its flag as `InitDatarefs` reads it, and a frame for the
speed dot only. -/
theorem observe_started_dot (d : Dot) (env₀ : Datarefs) :
    observe d.managed (Effect.aims (.lamp (.dot d))) (started env₀) =
      (d.reads env₀, if d = .spd then [d.render (d.reads env₀)] else []) := by
  apply Prod.ext
  · show d.managed (started env₀).1 = d.reads env₀
    rw [started_fst]
    cases d <;> rfl
  · show framesFor (.lamp (.dot d)) (started env₀).2 = _
    -- `InitDatarefs` pushes for the speed only
    cases d with
    | spd =>
      rw [framesFor_started_spdDot]
      by_cases h : env₀.gSpdManagedDataref = 0 <;> simp [Dot.render, Dot.reads, h]
    | hdg => rw [framesFor_started _ (by simp), framesFor_init]; rfl
    | alt => rw [framesFor_started _ (by simp), framesFor_init]; rfl

/-! ### Runs -/

section DotRuns

variable (hash : Bytes → UInt64) (env₀ : Datarefs)

/-- What a dot sees of a run. -/
def dotView (d : Dot) (pre : List Event) : Config Bool Effect :=
  observe d.managed (Effect.aims (.lamp (.dot d))) (session hash env₀ pre)

theorem dotView_packet (d : Dot) (pre : List Event) (env : Datarefs) (recvbuf : Bytes) :
    dotView hash env₀ d (pre ++ [.packet env recvbuf]) = dotView hash env₀ d pre := by
  rw [dotView, session, run_concat,
    (simulates_dot hash d (.packet env recvbuf)).observe_exec (sample_dot_aims d _)]
  exact Prod.ext rfl (List.append_nil _)

theorem dotView_update (d : Dot) (pre : List Event) (env : Datarefs) :
    dotView hash env₀ d (pre ++ [.update env]) =
      exec (detect d.render (d.reads env)) (dotView hash env₀ d pre) := by
  rw [dotView, session, run_concat,
    (simulates_dot hash d (.update env)).observe_exec (sample_dot_aims d _)]
  rfl

/-- After the update, the last frame for each dot switches it on if and only if that update
read its window as managed. -/
def DotsRight (pre : List Event) (env : Datarefs) : Prop :=
  ∀ d : Dot, latest (Effect.aims (.lamp (.dot d)))
    (session hash env₀ (pre ++ [.update env])).2 = some (.push d.onFrame) ↔ d.reads env = true

/-- The two dots that `InitDatarefs` does not push: neither of them has been managed since. -/
def DotsReleased (pre : List Event) (env : Datarefs) : Prop :=
  BeforeUpdates pre → ∀ d : Dot, d ≠ .spd → ¬ (d.reads env₀ = true ∧ d.reads env = true)

theorem dotRight_iff_of_inStep {d : Dot} {c : Config Bool Effect} (h : InStep d.render false c) :
    c.2.getLast? = some (d.render true) ↔ c.1 = true :=
  h.getLast?_iff Bool.false_ne_true.symm fun _ => Dot.render_eq_true

/-- A dot whose flag was set without a frame comes in step unless it stays managed. -/
theorem inStep_of_unpushed (d : Dot) {on₀ on : Bool} (h : ¬ (on₀ = true ∧ on = true)) :
    InStep d.render false (exec (detect d.render on) (on₀, [])) := by
  -- an unchanged flag pushes nothing, which is right only if it is off
  by_cases heq : on₀ = on
  · have hoff : on₀ = false := by
      rw [← heq, and_self] at h
      exact Bool.eq_false_iff.mpr h
    exact InStep.exec_detect (.inr ⟨rfl, hoff⟩) on
  · exact inStep_exec_of_ne heq

/-- At the first update such a dot is right if and only if it does not stay managed. -/
theorem dotRight_iff_of_unpushed (d : Dot) (on₀ on : Bool) :
    ((exec (detect d.render on) (on₀, [])).2.getLast? = some (d.render true) ↔ on = true) ↔
      ¬ (on₀ = true ∧ on = true) := by
  by_cases h : on₀ = true ∧ on = true
  · obtain ⟨rfl, rfl⟩ := h
    have hself : exec (detect d.render true) (true, []) = (true, []) :=
      exec_detect_self (true, ([] : List Effect))
    simp [hself]
  · refine iff_of_true ?_ h
    rw [dotRight_iff_of_inStep (inStep_of_unpushed d h), exec_fst, detect_fst]

/-- The speed dot is pushed at the start, and in step from then on. -/
theorem inStep_spd_started : InStep Dot.spd.render false
    (Dot.spd.reads env₀, [Dot.spd.render (Dot.spd.reads env₀)]) := by
  left
  rfl

theorem dotsRight_iff_dotView (pre : List Event) (env : Datarefs) :
    DotsRight hash env₀ pre env ↔ ∀ d : Dot,
      ((exec (detect d.render (d.reads env)) (dotView hash env₀ d pre)).2.getLast? =
        some (d.render true) ↔ d.reads env = true) := by
  apply forall_congr'
  intro d
  rw [← dotView_update]
  exact Iff.rfl

/-- What the dots see of a run in which they were right: before the first update what the start
has left, and later they are in step with their flags. -/
structure DotsFollow (pre : List Event) : Prop where
  start : BeforeUpdates pre → ∀ d : Dot, dotView hash env₀ d pre =
    (d.reads env₀, if d = .spd then [d.render (d.reads env₀)] else [])
  later : ¬ BeforeUpdates pre → ∀ d : Dot, InStep d.render false (dotView hash env₀ d pre)

theorem dotsFollow_nil : DotsFollow hash env₀ [] where
  start _ d := observe_started_dot d env₀
  later h := absurd beforeUpdates_nil h

variable {hash env₀} {pre : List Event}

theorem DotsFollow.packet (h : DotsFollow hash env₀ pre) (env : Datarefs) (recvbuf : Bytes) :
    DotsFollow hash env₀ (pre ++ [.packet env recvbuf]) := by
  constructor
  · simpa only [beforeUpdates_packet, dotView_packet] using h.start
  · simpa only [beforeUpdates_packet, dotView_packet] using h.later

/-- After an update the dots are right unless one of the two unpushed ones stays managed. -/
theorem DotsFollow.right_iff_released (h : DotsFollow hash env₀ pre) (env : Datarefs) :
    DotsRight hash env₀ pre env ↔ DotsReleased env₀ pre env := by
  rw [dotsRight_iff_dotView, DotsReleased]
  by_cases hfirst : BeforeUpdates pre
  · simp only [hfirst, true_implies]
    apply forall_congr'
    intro d
    rw [h.start hfirst d]
    by_cases hd : d = .spd
    · -- the speed dot has been pushed by `InitDatarefs`
      subst hd
      refine iff_of_true ?_ fun hne => absurd rfl hne
      rw [if_pos rfl, dotRight_iff_of_inStep ((inStep_spd_started env₀).exec_detect _), exec_fst,
        detect_fst]
    · rw [if_neg hd, dotRight_iff_of_unpushed]
      exact ⟨fun h _ => h, fun h => h hd⟩
  · -- later the dots are in step in any case
    refine iff_of_true (fun d => ?_) fun h => absurd h hfirst
    rw [dotRight_iff_of_inStep ((h.later hfirst d).exec_detect _), exec_fst, detect_fst]

/-- Dots that are right after an update are in step from then on. -/
theorem DotsFollow.update (h : DotsFollow hash env₀ pre) {env : Datarefs}
    (hright : DotsRight hash env₀ pre env) : DotsFollow hash env₀ (pre ++ [.update env]) := by
  refine ⟨fun hfirst => absurd hfirst (not_beforeUpdates_update pre env), fun _ d => ?_⟩
  rw [dotView_update]
  by_cases hfirst : BeforeUpdates pre
  · -- at the first update being right means being in step
    have hd := (dotsRight_iff_dotView hash env₀ pre env).mp hright d
    rw [h.start hfirst d] at hd ⊢
    by_cases hspd : d = .spd
    · subst hspd
      exact (inStep_spd_started env₀).exec_detect _
    · rw [if_neg hspd] at hd ⊢
      exact inStep_of_unpushed d ((dotRight_iff_of_unpushed d _ _).mp hd)
  · exact (h.later hfirst d).exec_detect _

/-- **Managed-mode dots**: they are right at every update of a run if and only if neither the
heading nor the altitude is managed both at `InitDatarefs` and at the first update. -/
theorem dotsRight_iff (hash : Bytes → UInt64) (env₀ : Datarefs) (events : List Event) :
    AtUpdates (DotsRight hash env₀) events ↔ AtUpdates (DotsReleased env₀) events := by
  apply atUpdates_iff (I := DotsFollow hash env₀)
  · exact dotsFollow_nil hash env₀
  · intro pre env recvbuf h
    exact h.packet env recvbuf
  · intro pre env _ h
    exact h.right_iff_released env
  · intro pre env _ h hright
    exact h.update hright

end DotRuns

/-- Managed heading at the start and at the first update: the heading dot stays dark. -/
theorem dotsRight_managed_heading :
    ¬ ∀ (hash : Bytes → UInt64) (env₀ : Datarefs) (events : List Event),
      AtUpdates (DotsRight hash env₀) events := by
  intro h
  have hdot := h fnv1a .zero [.update .zero] [] .zero List.prefix_rfl .hdg
  -- the flag is set at the start, without a frame
  have hview : dotView fnv1a .zero .hdg ([] ++ [.update .zero]) =
      exec (detect Dot.hdg.render true) (true, []) := by
    rw [dotView_update, dotView, session_nil, observe_started_dot]
    have hreads : Dot.hdg.reads .zero = true := by decide +kernel
    rw [hreads, if_neg (by decide)]
  have hreads : Dot.hdg.reads .zero = true := by decide +kernel
  have hright := (dotRight_iff_of_unpushed .hdg true true).mp
  rw [← hview] at hright
  exact hright (by rw [← hreads]; exact hdot) ⟨rfl, rfl⟩

end SkalarkiFcu
