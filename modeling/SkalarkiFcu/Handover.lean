import SkalarkiFcu.Dials
import SkalarkiFcu.Heading

/-!
# From managed to selected

While a window is managed the simulator moves the target, and the pilot takes over what it is at
when the window goes back to selected mode. For the speed `Update` then reads the dataref again.
For the heading it does not: `HdgSet` is what `InitDatarefs` and the knob have made of it, and is
even written back if it differs from what has been shown.

A click after that moves the target by one unit, with one more exception that comes from the
comparison of truncated values in `Update`: a change within one integer part is not written.

## Architecture

- **Targets of the simulator**: `targetAfter`, and what an update writes
- **One update**: `spdHandover_iff`, `hdgHandover_iff`
- **Runs**: `handoverRight_iff`
-/

namespace SkalarkiFcu

open LittleEndian Reactive History Truncation CyclicDial

/-! ## Targets of the simulator -/

/-- What a target dataref reads after a trace, if it read `v` before. -/
def targetAfter (d : DatafRef) (v : ℚ) (es : List Effect) : ℚ := (lastWritten d es).getD v

theorem lastWritten_update_spd (env : Datarefs) (s : Globals) :
    lastWritten .gSpdDataref (update env s).2 =
      let w := (Update.spdMode env s.spd).1
      if trunc w.spdSet ≠ trunc w.spd then some w.spdSet else none := by
  rw [lastWritten, written_update, Update.written_hdgValue, Update.written_spdValue,
    Update.written_altValue]
  split_ifs <;> simp_all

theorem lastWritten_update_hdg (env : Datarefs) (s : Globals) :
    lastWritten .gHdgDataref (update env s).2 =
      if trunc s.hdg.hdgSet ≠ trunc s.hdg.hdg then some s.hdg.hdgSet else none := by
  rw [lastWritten, written_update, Update.written_hdgValue, Update.written_spdValue,
    Update.written_altValue, Update.hdgMode_hdg, Update.hdgMode_hdgSet]
  split_ifs <;> simp

/-- The command of a click of the speed knob. -/
def spdClick : Direction → Command
  | .left => .spdLeft
  | .right => .spdRight

/-- One unit of the speed, within the bounds of the knob. -/
def spdUnit (v : ℚ) : Direction → ℚ
  | .left => max 125 (v - 1)
  | .right => min 999 (v + 1)

theorem ite_lt_eq_max (x y : ℚ) : (if y < x then x else y) = max x y := by
  split_ifs with h
  · exact (max_eq_left h.le).symm
  · exact (max_eq_right (not_lt.mp h)).symm

theorem ite_lt_eq_min (x y : ℚ) : (if x < y then x else y) = min x y := by
  split_ifs with h
  · exact (min_eq_left h.le).symm
  · exact (min_eq_right (not_lt.mp h)).symm

/-- One unit of the heading, around the compass. -/
def hdgUnit (v : ℚ) : Direction → ℚ
  | .left => if v - 1 < 0 then v - 1 + 360 else v - 1
  | .right => if 360 < v + 1 then v + 1 - 360 else v + 1

/-! ## One update -/

section OneUpdate

variable (hash : Bytes → UInt64) (env : Datarefs) (s : Globals)

/-- The update takes the speed window from managed to selected. -/
def SpdReleased : Prop := s.spd.spdManaged = true ∧ env.gSpdManagedDataref ≠ 0

/-- The update takes the heading window from managed to selected. -/
def HdgReleased : Prop := s.hdg.hdgManaged = true ∧ trunc env.gHdgManagedDataref ≠ 0

/-- After the update the target is that of the simulator, and one click and one update move the
simulator by one unit. -/
def SpdHandover : Prop :=
  let r := update env s
  let target := targetAfter .gSpdDataref env.gSpdDataref r.2
  r.1.spd.spd = env.gSpdDataref ∧ r.1.spd.spdSet = env.gSpdDataref ∧
  ∀ (d : Direction) (env₁ env₂ : Datarefs),
    targetAfter .gSpdDataref target
      (update env₂ (processPacket hash env₁ (spdClick d).literal r.1).1).2 = spdUnit target d

/-- The same for the heading. -/
def HdgHandover : Prop :=
  let r := update env s
  let target := targetAfter .gHdgDataref env.gHdgDataref r.2
  r.1.hdg.hdg = env.gHdgDataref ∧ r.1.hdg.hdgSet = env.gHdgDataref ∧
  ∀ (d : Direction) (env₁ env₂ : Datarefs),
    targetAfter .gHdgDataref target
      (update env₂ (processPacket hash env₁ (hdgClick d).literal r.1).1).2 = hdgUnit target d

/-- The speed of the simulator is not one that a click changes within its integer part. -/
def SpdSteps : Prop :=
  let v := env.gSpdDataref
  ¬ (125 < v ∧ v < 126) ∧ ¬ (999 < v ∧ v < 1000) ∧ ¬ (-1 < v ∧ v < 0)

/-- The dialled heading is that of the simulator, and is also shown or else taken over now. In a
run both headings are a matter of the readings at the start and of the clicks: see
`hdgHandover_session_iff`. -/
def HdgCurrent : Prop :=
  let v := env.gHdgDataref
  s.hdg.hdgSet = v ∧ (s.hdg.hdg = v ∨ trunc s.hdg.hdg ≠ trunc v) ∧ ¬ (-1 < v ∧ v < 0)

variable {hash env s}

/-- The speed is picked up in any case, without a write. -/
theorem spd_of_released (h : SpdReleased env s) :
    (update env s).1.spd.spd = env.gSpdDataref ∧ (update env s).1.spd.spdSet = env.gSpdDataref ∧
    lastWritten .gSpdDataref (update env s).2 = none := by
  obtain ⟨hm, henv⟩ := h
  rw [lastWritten_update_spd, update_spd]
  simp [Update.spdMode, Update.spdValue, hm, henv]

/-- In selected mode the mode part leaves the speeds alone. -/
theorem Update.spdMode_of_selected (env : Datarefs) {w : SpdWindow} (h : w.spdManaged = false) :
    (spdMode env w).1.spd = w.spd ∧ (spdMode env w).1.spdSet = w.spdSet := by
  by_cases henv : env.gSpdManagedDataref = 0 <;> simp [spdMode, henv, h]

/-- A click of the speed knob, whatever else the packet and the update read. -/
theorem targetAfter_spdClick (hhash : SeparatesLiterals hash) (hm : s.spd.spdManaged = false)
    {v : ℚ} (hspd : s.spd.spd = v) (hset : s.spd.spdSet = v) (d : Direction)
    (env₁ env₂ : Datarefs) :
    targetAfter .gSpdDataref v
      (update env₂ (processPacket hash env₁ (spdClick d).literal s).1).2 =
        if trunc (spdUnit v d) = trunc v then v else spdUnit v d := by
  obtain ⟨hm', hspd', hset'⟩ :
      (processPacket hash env₁ (spdClick d).literal s).1.spd.spdManaged = false ∧
      (processPacket hash env₁ (spdClick d).literal s).1.spd.spd = v ∧
      (processPacket hash env₁ (spdClick d).literal s).1.spd.spdSet = spdUnit v d := by
    -- the click dials one unit, clamped as the handler does
    rw [processPacket_spd, hhash.dispatch_literal, Option.elim_some, ← hset]
    cases d with
    | left => exact ⟨hm, hspd.trans hset.symm, ite_lt_eq_max _ _⟩
    | right => exact ⟨hm, hspd.trans hset.symm, ite_lt_eq_min _ _⟩
  -- in selected mode the next update compares the integer parts of these
  obtain ⟨h₁, h₂⟩ := Update.spdMode_of_selected env₂ hm'
  rw [targetAfter, lastWritten_update_spd]
  simp only [h₁, h₂, hspd', hset', ne_eq, ite_not]
  split_ifs <;> rfl

/-- When a click to the left changes the integer part of the speed, or nothing. -/
theorem spdUnit_left_steps_iff (v : ℚ) :
    (trunc (spdUnit v .left) = trunc v → spdUnit v .left = v) ↔ ¬ (125 < v ∧ v < 126) := by
  rcases le_or_gt (v - 1) 125 with hle | hgt
  · -- clamped at 125
    have h125 := eq_of_trunc_eq_iff (show (0 : ℤ) < 125 by norm_num) v
    rw [spdUnit, max_eq_left hle]
    norm_num at h125 ⊢
    exact h125
  · rw [spdUnit, max_eq_right hgt.le]
    refine iff_of_true (fun h => ?_) fun h => by linarith [h.2]
    have hstep := (trunc_add_one_eq_iff (v - 1)).mp (by rw [sub_add_cancel, h])
    linarith [hstep.2]

/-- When a click to the right changes the integer part of the speed, or nothing. -/
theorem spdUnit_right_steps_iff (v : ℚ) :
    (trunc (spdUnit v .right) = trunc v → spdUnit v .right = v) ↔
      ¬ (999 < v ∧ v < 1000) ∧ ¬ (-1 < v ∧ v < 0) := by
  rcases le_or_gt 999 (v + 1) with hle | hgt
  · -- clamped at 999, far from 0
    have h999 := eq_of_trunc_eq_iff (show (0 : ℤ) < 999 by norm_num) v
    have hfar : ¬ (-1 < v ∧ v < 0) := fun hv => by linarith [hv.2]
    rw [spdUnit, min_eq_left hle, and_iff_left hfar]
    norm_num at h999 ⊢
    exact h999
  · have hlow : ¬ (999 < v ∧ v < 1000) := fun hv => by linarith [hv.1]
    rw [spdUnit, min_eq_right hgt.le, trunc_add_one_eq_iff, and_iff_right hlow]
    refine ⟨fun hstep hv => ?_, fun hv hv' => absurd hv' hv⟩
    linarith [hstep hv]

theorem spdUnit_steps_iff (v : ℚ) :
    (∀ d, trunc (spdUnit v d) = trunc v → spdUnit v d = v) ↔
      ¬ (125 < v ∧ v < 126) ∧ ¬ (999 < v ∧ v < 1000) ∧ ¬ (-1 < v ∧ v < 0) := by
  rw [← spdUnit_left_steps_iff, ← spdUnit_right_steps_iff]
  constructor
  · intro h
    exact ⟨h .left, h .right⟩
  · rintro ⟨hleft, hright⟩ d
    cases d with
    | left => exact hleft
    | right => exact hright

/-- **Speed**: the hand-over is right for all speeds at which a click steps. -/
theorem spdHandover_iff (hhash : SeparatesLiterals hash) (h : SpdReleased env s) :
    SpdHandover hash env s ↔ SpdSteps env := by
  obtain ⟨hspd, hset, hwritten⟩ := spd_of_released h
  have hm : (update env s).1.spd.spdManaged = false := by
    rw [update_spd, Update.spdValue_spdManaged, Update.spdMode_spdManaged]
    exact decide_eq_false h.2
  -- the simulator keeps its own speed
  have htarget : targetAfter .gSpdDataref env.gSpdDataref (update env s).2 = env.gSpdDataref := by
    rw [targetAfter, hwritten]
    rfl
  rw [SpdSteps, ← spdUnit_steps_iff]
  simp only [SpdHandover, hspd, hset, htarget, true_and,
    targetAfter_spdClick hhash hm hspd hset, ite_eq_right_iff]
  exact ⟨fun hsteps d heq => (hsteps d env env heq).symm,
    fun hsteps d _ _ heq => (hsteps d heq).symm⟩

/-- A click of the heading knob, whatever else the packet and the update read. -/
theorem targetAfter_hdgClick (hhash : SeparatesLiterals hash) {v : ℚ} (hhdg : s.hdg.hdg = v)
    (hset : s.hdg.hdgSet = v) (d : Direction) (env₁ env₂ : Datarefs) :
    targetAfter .gHdgDataref v
      (update env₂ (processPacket hash env₁ (hdgClick d).literal s).1).2 =
        if trunc (hdgUnit v d) = trunc v then v else hdgUnit v d := by
  obtain ⟨hhdg', hset'⟩ :
      (processPacket hash env₁ (hdgClick d).literal s).1.hdg.hdg = v ∧
      (processPacket hash env₁ (hdgClick d).literal s).1.hdg.hdgSet = hdgUnit v d := by
    -- the click dials one degree, around the compass
    rw [processPacket_hdg, hhash.dispatch_literal, Option.elim_some, ← hset]
    cases d with
    | left => exact ⟨hhdg.trans hset.symm, rfl⟩
    | right => exact ⟨hhdg.trans hset.symm, rfl⟩
  rw [targetAfter, lastWritten_update_hdg]
  simp only [hhdg', hset', ne_eq, ite_not]
  split_ifs <;> rfl

/-- When a click of the heading knob changes the integer part of the heading. -/
theorem hdgUnit_steps_iff (v : ℚ) :
    (∀ d, trunc (hdgUnit v d) = trunc v → hdgUnit v d = v) ↔ ¬ (-1 < v ∧ v < 0) := by
  have hleft : trunc (hdgUnit v .left) ≠ trunc v := by
    rw [hdgUnit]
    split_ifs with h
    · -- around the compass
      exact (trunc_ne_of_add_two_le (by linarith)).symm
    · intro heq
      have hstep := (trunc_add_one_eq_iff (v - 1)).mp (by rw [sub_add_cancel, heq])
      linarith [hstep.2]
  have hright : (trunc (hdgUnit v .right) = trunc v → hdgUnit v .right = v) ↔
      ¬ (-1 < v ∧ v < 0) := by
    rw [hdgUnit]
    split_ifs with h
    · refine iff_of_true (fun heq => absurd heq ?_) fun hv => by linarith [hv.2]
      exact trunc_ne_of_add_two_le (by linarith)
    · rw [trunc_add_one_eq_iff]
      refine ⟨fun hstep hv => ?_, fun hv hv' => absurd hv' hv⟩
      linarith [hstep hv]
  rw [← hright]
  constructor
  · intro h
    exact h .right
  · intro h d
    cases d with
    | left => exact fun heq => absurd heq hleft
    | right => exact h

/-- What the update leaves of the headings: the dialled one, shown if it differs in the integer
part. -/
theorem update_hdg_hdg (env : Datarefs) (s : Globals) :
    (update env s).1.hdg.hdg =
      if trunc s.hdg.hdgSet = trunc s.hdg.hdg then s.hdg.hdg else s.hdg.hdgSet := by
  rw [update_hdg]
  simp only [Update.hdgValue, Update.hdgMode_hdg, Update.hdgMode_hdgSet, ne_eq, ite_not]
  split_ifs <;> simp

/-- **Heading**: the hand-over is right only where the dialled heading is already that of the
simulator. -/
theorem hdgHandover_iff (hhash : SeparatesLiterals hash) :
    HdgHandover hash env s ↔ HdgCurrent env s := by
  set v := env.gHdgDataref with hv
  -- the update leaves `HdgSet` alone, and takes it over where the integer parts differ
  have hpicked : (update env s).1.hdg.hdg = v ∧ (update env s).1.hdg.hdgSet = v ↔
      s.hdg.hdgSet = v ∧ (s.hdg.hdg = v ∨ trunc s.hdg.hdg ≠ trunc v) := by
    rw [update_hdgSet, update_hdg_hdg, and_comm]
    refine and_congr_right fun hset => ?_
    rw [hset]
    split_ifs with htrunc
    · simp [htrunc]
    · exact iff_of_true rfl (.inr (Ne.symm htrunc))
  rw [HdgHandover, HdgCurrent, ← hdgUnit_steps_iff, ← and_assoc, ← and_assoc, ← hv, hpicked]
  refine and_congr_right fun hcurrent => ?_
  obtain ⟨hhdg, hset⟩ := hpicked.mpr hcurrent
  -- what it writes is the heading that the simulator has
  have htarget : targetAfter .gHdgDataref v (update env s).2 = v := by
    rw [targetAfter, lastWritten_update_hdg, hcurrent.1]
    split_ifs <;> rfl
  simp only [htarget, targetAfter_hdgClick hhash hhdg hset, ite_eq_right_iff]
  exact ⟨fun hsteps d heq => (hsteps d env env heq).symm,
    fun hsteps d _ _ heq => (hsteps d heq).symm⟩

end OneUpdate

/-! ## Runs -/

section Runs

variable (hash : Bytes → UInt64) (env₀ : Datarefs)

/-- No packet of the speed or heading knob since the last update. -/
def KnobsUntouched (pre : List Event) : Prop :=
  ∀ ini env recvbuf post, pre = ini ++ .packet env recvbuf :: post → BeforeUpdates post →
    ∀ d : Direction, dispatch hash recvbuf ≠ some (spdClick d) ∧
      dispatch hash recvbuf ≠ some (hdgClick d)

/-- A window that goes from managed to selected picks up the target of the simulator. -/
def HandoverRight (pre : List Event) (env : Datarefs) : Prop :=
  KnobsUntouched hash pre →
    let s := (session hash env₀ pre).1
    (SpdReleased env s → SpdHandover hash env s) ∧ (HdgReleased env s → HdgHandover hash env s)

/-- The target of the simulator steps, and the dialled heading is current. -/
def HandoverCurrent (pre : List Event) (env : Datarefs) : Prop :=
  KnobsUntouched hash pre →
    let s := (session hash env₀ pre).1
    (SpdReleased env s → SpdSteps env) ∧ (HdgReleased env s → HdgCurrent env s)

variable {hash}

/-- **Leaving managed mode** picks up the target of the simulator, in every update of a run, if
and only if the heading of the simulator is the dialled one wherever the heading window is
released, and no click is lost to the comparison of integer parts. The arithmetic is that of
rationals, without the rounding of the source's floats. -/
theorem handoverRight_iff (hhash : SeparatesLiterals hash) (events : List Event) :
    AtUpdates (HandoverRight hash env₀) events ↔ AtUpdates (HandoverCurrent hash env₀) events := by
  have hstep : ∀ pre env, HandoverRight hash env₀ pre env ↔ HandoverCurrent hash env₀ pre env := by
    intro pre env
    refine imp_congr_right fun _ => and_congr ?_ ?_
    · exact imp_congr_right fun hrel => spdHandover_iff hhash hrel
    · exact imp_congr_right fun _ => hdgHandover_iff hhash
  constructor
  · intro h pre env hpre
    exact (hstep pre env).mp (h pre env hpre)
  · intro h pre env hpre
    exact (hstep pre env).mpr (h pre env hpre)

end Runs

/-- The simulator flies at 300 kt when the speed window is released. -/
theorem handoverRight_speed :
    AtUpdates (HandoverRight fnv1a { Datarefs.zero with gSpdDataref := 250 })
      [.update { Datarefs.zero with gSpdDataref := 300, gSpdManagedDataref := 1 }] := by
  refine (handoverRight_iff _ separatesLiterals_fnv1a _).mpr ?_
  intro pre env hpre _
  have henv : env = { Datarefs.zero with gSpdDataref := 300, gSpdManagedDataref := 1 } := by
    have hmem := hpre.subset (List.mem_append_right pre (List.mem_singleton_self _))
    simpa using hmem
  subst henv
  refine ⟨fun _ => by norm_num [SpdSteps], fun hrel => absurd ?_ hrel.2⟩
  simp [Datarefs.zero]

/-- The simulator turns from 100 to 200 while the heading window is managed: its release brings
the plugin back to 100. -/
theorem handoverRight_heading : ¬ ∀ (hash : Bytes → UInt64) (env₀ : Datarefs)
    (events : List Event), SeparatesLiterals hash → AtUpdates (HandoverRight hash env₀) events := by
  intro h
  let managed : Datarefs := { Datarefs.zero with gHdgDataref := 100 }
  let released : Datarefs := { Datarefs.zero with gHdgDataref := 200, gHdgManagedDataref := 1 }
  have hone : trunc (1 : ℚ) = 1 := trunc_intCast 1
  have hright := h fnv1a managed ([.update managed] ++ [.update released])
    separatesLiterals_fnv1a _ _ List.prefix_rfl
  have hpre : session fnv1a managed [.update managed] =
      exec (update managed) (session fnv1a managed []) := session_update fnv1a managed [] managed
  have huntouched : KnobsUntouched fnv1a [.update managed] := by
    intro ini env recvbuf post heq
    cases ini <;> simp at heq
  have hreleased : HdgReleased released (session fnv1a managed [.update managed]).1 := by
    refine ⟨?_, by simp [released, hone]⟩
    rw [hpre, exec_fst, update_hdg, Update.hdgValue_hdgManaged, Update.hdgMode_hdgManaged]
    simp [managed, Datarefs.zero]
  have hset := ((hright huntouched).2 hreleased).2.1
  rw [update_hdgSet, hpre, exec_fst, update_hdgSet, session_nil, started_fst] at hset
  norm_num [managed, released] at hset

end SkalarkiFcu
