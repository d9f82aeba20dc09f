import SkalarkiFcu.Commands

/-!
# Init, InitDatarefs and Update

The three functions of `SkalarkiCmd` that read the simulator and push frames. `Update` is the
block of its parts in the order of the source; each part is an action on the group of globals
that it works with.
-/

namespace SkalarkiFcu

open Reactive Truncation

/-! ## Init -/

/-- `Init`, without the `Init` of the connection that it calls first. -/
def init : Action Globals Effect := fun s =>
  -- the lights first, and then every window with the value it has so far
  (s,
    pushMessage ⟨sendbufBacklightOn, sendbufLenBacklightOn⟩ ++
    pushMessage ⟨altLvlChngOn, altLvlChngOnLen⟩ ++
    pushMessage ⟨hdgVsOn, hdgVsOnLen⟩ ++
    pushMessage ⟨spdOn, spdOnLen⟩ ++
    pushMessage ⟨latOn, latOnLen⟩ ++
    updateHdg s.hdg (trunc s.hdg.hdg) ++
    updateAlt (trunc s.alt.alt) ++
    updateSpd s.spd (trunc s.spd.spd) ++
    updateVs s.vs s.vs.vs ++
    updateBaroCpt s.baroCpt s.baroCpt.baro ++
    updateBaroFo s.baroFo s.baroFo.baro)

/-! ## InitDatarefs -/

namespace InitDatarefs

def alt (env : Datarefs) (w : AltWindow) : AltWindow :=
  let w := { w with altSet := env.gAltDataref, altMode := env.gAltModeDataref }
  -- the handle is null at the first call only, so a later call leaves the cached mode alone
  if w.gAltManagedDataref = false then
    let i := env.gAltManagedDataref
    { w with gAltManagedDataref := true, altManaged := if i = 1 then true else false }
  else w

def spd (env : Datarefs) : Action SpdWindow Effect := fun w =>
  -- only the target is read here: the displayed speed follows in the next `Update`
  let w := { w with spdSet := env.gSpdDataref }
  if w.gSpdManagedDataref = false then
    let w := { w with gSpdManagedDataref := true }
    let i := env.gSpdManagedDataref
    if i = 0 then ({ w with spdManaged := true }, pushMessage Dot.spd.onFrame)
    else ({ w with spdManaged := false }, pushMessage Dot.spd.offFrame)
  else (w, [])

def hdg (env : Datarefs) (w : HdgWindow) : HdgWindow :=
  let w := { w with hdgSet := env.gHdgDataref }
  if w.gHdgManagedDataref = false then
    let i := trunc env.gHdgManagedDataref
    { w with gHdgManagedDataref := true, hdgManaged := if i = 0 then true else false }
  else w

def vs (env : Datarefs) (w : VsWindow) : VsWindow :=
  if w.gVsManagedDataref = false then
    let i := trunc env.gVsManagedDataref
    { w with gVsManagedDataref := true, vsManaged := if i = 0 then true else false }
  else w

def baro (d : BaroDatarefs) (b : Baro) : Baro :=
  { b with baroMode := trunc d.mode, baro := d.setting, baroStdSet := trunc d.std }

end InitDatarefs

/-- `InitDatarefs`. It pushes one frame, for the speed dot. -/
def initDatarefs (env : Datarefs) : Action Globals Effect :=
  .block [
    dial Globals.altPart (InitDatarefs.alt env),
    dial Globals.hdgPart (InitDatarefs.hdg env),
    Globals.spdPart.zoom (InitDatarefs.spd env),
    dial Globals.vsPart (InitDatarefs.vs env),
    dial Globals.baroCptPart (InitDatarefs.baro env.baroCpt),
    dial Globals.baroFoPart (InitDatarefs.baro env.baroFo)]

/-! ## The parts of Update -/

namespace Update

def vsValue (env : Datarefs) : Action VsWindow Effect := fun w =>
  let vsnew := trunc env.gVsDataref
  if vsnew ≠ w.vs then
    let w := { w with vs := vsnew }
    -- a managed window keeps its dashes, and the new value waits in the cache
    (w, if w.vsManaged = false then updateVs w w.vs else [])
  else (w, [])

def vsMode (env : Datarefs) : Action VsWindow Effect := fun w =>
  let vsStateNew := trunc env.gVsManagedDataref
  if vsStateNew = 0 then
    if w.vsManaged = false then
      let w := { w with vsManaged := true }
      (w, updateVs w w.vs)
    else (w, [])
  else
    if w.vsManaged = true then
      let w := { w with vsManaged := false }
      (w, updateVs w w.vs)
    else (w, [])

def altMode (env : Datarefs) : Action AltWindow Effect := fun w =>
  let altManagedNew := env.gAltManagedDataref
  if altManagedNew = 1 then
    if w.altManaged = false then
      ({ w with altManaged := true }, pushMessage Dot.alt.onFrame)
    else (w, [])
  else
    if w.altManaged = true then
      ({ w with altManaged := false }, pushMessage Dot.alt.offFrame)
    else (w, [])

/-- The thresholded reading of an annunciator. The bound `0.001` of the source is the `double` next
to 1/1000, and here 1/1000 itself. -/
def threshold (x : ℚ) : ℤ := if x > 0.001 then 1 else 0

/-- The common body of the eleven annunciators, on the state variable of `k`. -/
def annunciator (k : Annunciator) (env : Datarefs) : Action ℤ Effect := fun state =>
  let stateNew := threshold (env.annunciator k)
  if state ≠ stateNew then
    (stateNew, if stateNew = 1 then pushMessage k.onFrame else pushMessage k.offFrame)
  else (state, [])

def hdgMode (env : Datarefs) : Action HdgWindow Effect := fun w =>
  let i := trunc env.gHdgManagedDataref
  if i = 0 then
    if w.hdgManaged = false then
      let w := { w with hdgManaged := true }
      -- the window first, then the lamp; the heading is truncated here and rounded in `hdgValue`
      (w, updateHdg w (trunc w.hdg) ++ pushMessage Dot.hdg.onFrame)
    else (w, [])
  else
    if w.hdgManaged = true then
      let w := { w with hdgManaged := false }
      (w, updateHdg w (trunc w.hdg) ++ pushMessage Dot.hdg.offFrame)
    else (w, [])

def spdMode (env : Datarefs) : Action SpdWindow Effect := fun w =>
  let i := env.gSpdManagedDataref
  if i = 0 then
    if w.spdManaged = false then
      let w := { w with spdManaged := true }
      (w, updateSpd w (trunc w.spd) ++ pushMessage Dot.spd.onFrame)
    else (w, [])
  else
    if w.spdManaged = true then
      -- back to selected: the current target of the autopilot becomes the displayed speed
      let w := { w with spdManaged := false, spdSet := env.gSpdDataref }
      let w := { w with spd := w.spdSet }
      (w, updateSpd w (trunc w.spd) ++ pushMessage Dot.spd.offFrame)
    else (w, [])

/-- At most `n` rounds of the loop of one ND mode selector. -/
def ndLoop (left right : CommandRef) : ℕ → Action NdSelector Effect
  | 0 => .skip
  | n + 1 => fun sel =>
    if sel.ndMode ≠ sel.ndModeSet then
      -- the simulator only has commands for one step to either side
      if sel.ndMode < sel.ndModeSet then
        let r := ndLoop left right n { sel with ndMode := sel.ndMode + 1 }
        (r.1, .commandOnce right :: r.2)
      else
        let r := ndLoop left right n { sel with ndMode := sel.ndMode - 1 }
        (r.1, .commandOnce left :: r.2)
    else (sel, [])

/-- The loop of one ND mode selector; each round brings it one position closer. -/
def ndMode (left right : CommandRef) : Action NdSelector Effect := fun sel =>
  ndLoop left right (sel.ndModeSet - sel.ndMode).natAbs sel

def hdgValue : Action HdgWindow Effect := fun w =>
  -- compared truncated, but shown rounded
  if trunc w.hdgSet ≠ trunc w.hdg then
    let w := { w with hdg := w.hdgSet }
    (w, updateHdg w (trunc (w.hdg + 0.5)) ++ [.setDataf .gHdgDataref w.hdg])
  else (w, [])

def spdValue : Action SpdWindow Effect := fun w =>
  if trunc w.spdSet ≠ trunc w.spd then
    let w := { w with spd := w.spdSet }
    (w, updateSpd w (trunc w.spd) ++ [.setDataf .gSpdDataref w.spd])
  else (w, [])

def altValue : Action AltWindow Effect := fun w =>
  if w.alt ≠ w.altSet then
    let w := { w with alt := w.altSet }
    (w, updateAlt (trunc w.alt) ++ [.setDataf .gAltDataref w.alt])
  else (w, [])

/-- `IN_HG_TO_HPA` -/
def inHgToHpa : ℚ := 33.863889532610884

/-- The unit knob: a turn forces a refresh of the display. -/
def baroMode (d : BaroDatarefs) (b : Baro) : Baro :=
  let b := { b with baroModeSet := trunc d.mode }
  if b.baroMode ≠ b.baroModeSet then
    { b with baroMode := b.baroModeSet, baroDisplay := 0, updateBaroDisplay := true }
  else b

/-- The request for a refresh, made once by the initial values. -/
def baroValue (b : Baro) : Baro :=
  if b.updateBaroValue = true then { b with updateBaroValue := false, updateBaroDisplay := true }
  else b

/-- What comes before the STD knob. -/
def baroUnit (d : BaroDatarefs) (b : Baro) : Baro := baroValue (baroMode d b)

/-- The STD knob. -/
def baroStd (bufs : BaroBuffers) (d : BaroDatarefs) : Action Baro Effect := fun b =>
  let b := { b with baroStdSet := trunc d.std }
  if b.baroStd ≠ b.baroStdSet then
    let b := { b with baroStd := b.baroStdSet }
    -- leaving STD empties the display cache, so that the setting is pushed again
    if b.baroStd = 1 then (b, setBaroStd bufs) else ({ b with baroDisplay := 0 }, [])
  else (b, [])

/-- The setting, outside STD. -/
def baroSetting (bufs : BaroBuffers) (d : BaroDatarefs) : Action Baro Effect := fun b =>
  if b.baroStd = 0 then
    if b.baroMode = 0 then
      -- half a unit of the last digit, since the conversion to an integer truncates
      let baro := d.setting + 0.005
      let baroDisplayNew := trunc (baro * 100)
      if b.baroDisplay ≠ baroDisplayNew then
        let b := { b with baroDisplay := baroDisplayNew }
        (b, updateBaro bufs b (b.baroDisplay / 100))
      else (b, [])
    else
      let baro := d.setting * inHgToHpa + 0.5
      let baroDisplayNew := trunc baro
      if b.baroDisplay ≠ baroDisplayNew then
        let b := { b with baroDisplay := baroDisplayNew }
        (b, updateBaro bufs b b.baroDisplay)
      else (b, [])
  else (b, [])

/-- The common body of the two barometers. -/
def baro (bufs : BaroBuffers) (d : BaroDatarefs) : Action Baro Effect :=
  .block [fun b => (baroUnit d b, []), baroStd bufs d, baroSetting bufs d]

/-- The block of the captain's barometer: `BaroCpt...`, and `sendbufBaroLeft` in its encoders. -/
def baroCpt (env : Datarefs) : Action Baro Effect := baro sendbufBaroLeft env.baroCpt

/-- The block of the first officer's barometer: `BaroFo...`, and `sendBufBaroRight`. -/
def baroFo (env : Datarefs) : Action Baro Effect := baro sendBufBaroRight env.baroFo

end Update

/-- `Update` -/
def update (env : Datarefs) : Action Globals Effect :=
  .block [
    Globals.vsPart.zoom (Update.vsValue env),
    Globals.vsPart.zoom (Update.vsMode env),
    Globals.altPart.zoom (Update.altMode env),
    (Globals.statePart .athr).zoom (Update.annunciator .athr env),
    (Globals.statePart .appr).zoom (Update.annunciator .appr env),
    (Globals.statePart .ap1).zoom (Update.annunciator .ap1 env),
    (Globals.statePart .ap2).zoom (Update.annunciator .ap2 env),
    (Globals.statePart .masterCaution).zoom (Update.annunciator .masterCaution env),
    (Globals.statePart .masterWarning).zoom (Update.annunciator .masterWarning env),
    Globals.hdgPart.zoom (Update.hdgMode env),
    Globals.spdPart.zoom (Update.spdMode env),
    (Globals.statePart .lsCpt).zoom (Update.annunciator .lsCpt env),
    (Globals.statePart .fdCpt).zoom (Update.annunciator .fdCpt env),
    (Globals.statePart .lsFo).zoom (Update.annunciator .lsFo env),
    (Globals.statePart .fdFo).zoom (Update.annunciator .fdFo env),
    (Globals.statePart .loc).zoom (Update.annunciator .loc env),
    Globals.ndCptPart.zoom (Update.ndMode .gNdModeCptLeftDataref .gNdModeCptRightDataref),
    Globals.ndFoPart.zoom (Update.ndMode .gNdModeFoLeftDataref .gNdModeFoRightDataref),
    Globals.hdgPart.zoom Update.hdgValue,
    Globals.spdPart.zoom Update.spdValue,
    Globals.altPart.zoom Update.altValue,
    Globals.baroCptPart.zoom (Update.baroCpt env),
    Globals.baroFoPart.zoom (Update.baroFo env)]

/-! ## The block, field by field -/

section Fields

variable (env : Datarefs) (s : Globals)

@[simp] theorem init_fst : (init s).1 = s := rfl

@[simp] theorem initDatarefs_fst : (initDatarefs env s).1 = { s with
    alt := InitDatarefs.alt env s.alt
    hdg := InitDatarefs.hdg env s.hdg
    spd := (InitDatarefs.spd env s.spd).1
    vs := InitDatarefs.vs env s.vs
    baroCpt := InitDatarefs.baro env.baroCpt s.baroCpt
    baroFo := InitDatarefs.baro env.baroFo s.baroFo } := by
  simp [initDatarefs, dial]

theorem initDatarefs_snd : (initDatarefs env s).2 = (InitDatarefs.spd env s.spd).2 := by
  simp [initDatarefs, dial]

@[simp] theorem update_spd :
    (update env s).1.spd = (Update.spdValue (Update.spdMode env s.spd).1).1 := by
  simp [update]

@[simp] theorem update_hdg :
    (update env s).1.hdg = (Update.hdgValue (Update.hdgMode env s.hdg).1).1 := by
  simp [update]

@[simp] theorem update_alt :
    (update env s).1.alt = (Update.altValue (Update.altMode env s.alt).1).1 := by
  simp [update]

@[simp] theorem update_vs :
    (update env s).1.vs = (Update.vsMode env (Update.vsValue env s.vs).1).1 := by
  simp [update]

@[simp] theorem update_state (k : Annunciator) :
    (update env s).1.state k = (Update.annunciator k env (s.state k)).1 := by
  cases k <;> simp [update]

@[simp] theorem update_ndCpt : (update env s).1.ndCpt =
    (Update.ndMode .gNdModeCptLeftDataref .gNdModeCptRightDataref s.ndCpt).1 := by
  simp [update]

@[simp] theorem update_ndFo : (update env s).1.ndFo =
    (Update.ndMode .gNdModeFoLeftDataref .gNdModeFoRightDataref s.ndFo).1 := by
  simp [update]

@[simp] theorem update_baroCpt :
    (update env s).1.baroCpt = (Update.baro sendbufBaroLeft env.baroCpt s.baroCpt).1 := by
  simp [update, Update.baroCpt]

@[simp] theorem update_baroFo :
    (update env s).1.baroFo = (Update.baro sendBufBaroRight env.baroFo s.baroFo).1 := by
  simp [update, Update.baroFo]

theorem update_snd : (update env s).2 =
    (Update.vsValue env s.vs).2 ++ ((Update.vsMode env (Update.vsValue env s.vs).1).2 ++
    ((Update.altMode env s.alt).2 ++
    ((Update.annunciator .athr env (s.state .athr)).2 ++
    ((Update.annunciator .appr env (s.state .appr)).2 ++
    ((Update.annunciator .ap1 env (s.state .ap1)).2 ++
    ((Update.annunciator .ap2 env (s.state .ap2)).2 ++
    ((Update.annunciator .masterCaution env (s.state .masterCaution)).2 ++
    ((Update.annunciator .masterWarning env (s.state .masterWarning)).2 ++
    ((Update.hdgMode env s.hdg).2 ++ ((Update.spdMode env s.spd).2 ++
    ((Update.annunciator .lsCpt env (s.state .lsCpt)).2 ++
    ((Update.annunciator .fdCpt env (s.state .fdCpt)).2 ++
    ((Update.annunciator .lsFo env (s.state .lsFo)).2 ++
    ((Update.annunciator .fdFo env (s.state .fdFo)).2 ++
    ((Update.annunciator .loc env (s.state .loc)).2 ++
    ((Update.ndMode .gNdModeCptLeftDataref .gNdModeCptRightDataref s.ndCpt).2 ++
    ((Update.ndMode .gNdModeFoLeftDataref .gNdModeFoRightDataref s.ndFo).2 ++
    ((Update.hdgValue (Update.hdgMode env s.hdg).1).2 ++
    ((Update.spdValue (Update.spdMode env s.spd).1).2 ++
    ((Update.altValue (Update.altMode env s.alt).1).2 ++
    ((Update.baro sendbufBaroLeft env.baroCpt s.baroCpt).2 ++
    (Update.baro sendBufBaroRight env.baroFo s.baroFo).2))))))))))))))))))))) := by
  simp [update, Update.baroCpt, Update.baroFo]

end Fields

/-! ## The cached modes

After its part of the update every mode is the one that the update read. The modes of heading
and altitude have no part in their targets. -/

namespace Update

@[simp] theorem spdMode_spdManaged (env : Datarefs) (w : SpdWindow) :
    (spdMode env w).1.spdManaged = decide (env.gSpdManagedDataref = 0) := by
  by_cases h : env.gSpdManagedDataref = 0 <;> cases hm : w.spdManaged <;>
    simp [spdMode, h, hm]

@[simp] theorem hdgMode_hdgManaged (env : Datarefs) (w : HdgWindow) :
    (hdgMode env w).1.hdgManaged = decide (trunc env.gHdgManagedDataref = 0) := by
  by_cases h : trunc env.gHdgManagedDataref = 0 <;> cases hm : w.hdgManaged <;>
    simp [hdgMode, h, hm]

@[simp] theorem altMode_altManaged (env : Datarefs) (w : AltWindow) :
    (altMode env w).1.altManaged = decide (env.gAltManagedDataref = 1) := by
  by_cases h : env.gAltManagedDataref = 1 <;> cases hm : w.altManaged <;>
    simp [altMode, h, hm]

@[simp] theorem hdgMode_hdg (env : Datarefs) (w : HdgWindow) :
    (hdgMode env w).1.hdg = w.hdg := by
  simp only [hdgMode]
  split_ifs <;> rfl

@[simp] theorem hdgMode_hdgSet (env : Datarefs) (w : HdgWindow) :
    (hdgMode env w).1.hdgSet = w.hdgSet := by
  simp only [hdgMode]
  split_ifs <;> rfl

@[simp] theorem altMode_alt (env : Datarefs) (w : AltWindow) :
    (altMode env w).1.alt = w.alt := by
  simp only [altMode]
  split_ifs <;> rfl

@[simp] theorem altMode_altSet (env : Datarefs) (w : AltWindow) :
    (altMode env w).1.altSet = w.altSet := by
  simp only [altMode]
  split_ifs <;> rfl

@[simp] theorem spdValue_spdManaged (w : SpdWindow) :
    (spdValue w).1.spdManaged = w.spdManaged := by
  simp only [spdValue]
  split_ifs <;> rfl

@[simp] theorem hdgValue_hdgManaged (w : HdgWindow) :
    (hdgValue w).1.hdgManaged = w.hdgManaged := by
  simp only [hdgValue]
  split_ifs <;> rfl

@[simp] theorem altValue_altManaged (w : AltWindow) :
    (altValue w).1.altManaged = w.altManaged := by
  simp only [altValue]
  split_ifs <;> rfl

@[simp] theorem vsValue_vsManaged (env : Datarefs) (w : VsWindow) :
    (vsValue env w).1.vsManaged = w.vsManaged := by
  simp only [vsValue]
  split_ifs <;> rfl

@[simp] theorem vsValue_vs (env : Datarefs) (w : VsWindow) :
    (vsValue env w).1.vs = trunc env.gVsDataref := by
  by_cases h : trunc env.gVsDataref = w.vs <;> simp [vsValue, h]

@[simp] theorem vsMode_vs (env : Datarefs) (w : VsWindow) :
    (vsMode env w).1.vs = w.vs := by
  simp only [vsMode]
  split_ifs <;> rfl

@[simp] theorem vsMode_vsManaged (env : Datarefs) (w : VsWindow) :
    (vsMode env w).1.vsManaged = decide (trunc env.gVsManagedDataref = 0) := by
  by_cases h : trunc env.gVsManagedDataref = 0 <;> cases hm : w.vsManaged <;>
    simp [vsMode, h, hm]

end Update

/-! ## The loops of the ND modes

A loop ends with the cached position at the dialled one, after one command for each position
in between. -/

namespace Update

variable {left right : CommandRef}

/-- The commands that turn a selector by `d` positions. -/
def ndSteps (left right : CommandRef) (d : ℤ) : List Effect :=
  List.replicate d.natAbs (.commandOnce (if 0 < d then right else left))

theorem ndSteps_right {d : ℤ} (h : 0 < d) :
    ndSteps left right d = .commandOnce right :: ndSteps left right (d - 1) := by
  obtain ⟨n, rfl⟩ : ∃ n : ℕ, d = n + 1 := ⟨(d - 1).natAbs, by omega⟩
  have habs : (n + 1 : ℤ).natAbs = n + 1 := rfl
  rw [ndSteps, if_pos h, habs, List.replicate_succ, add_sub_cancel_right, ndSteps, Int.natAbs_natCast]
  -- the last step leaves no commands, so that their kind does not matter
  cases n with
  | zero => rfl
  | succ n => rw [if_pos (by omega)]

theorem ndSteps_left {d : ℤ} (h : d < 0) :
    ndSteps left right d = .commandOnce left :: ndSteps left right (d + 1) := by
  obtain ⟨n, hn⟩ : ∃ n : ℕ, d.natAbs = n + 1 := ⟨(d + 1).natAbs, by omega⟩
  have hnext : (d + 1).natAbs = n := by omega
  rw [ndSteps, if_neg h.not_gt, hn, List.replicate_succ, ndSteps, hnext, if_neg (by omega)]

/-- **The loop terminates** at the dialled position, whatever the bound on its rounds, as long
as it allows for the distance. -/
theorem ndLoop_eq {n : ℕ} {mode set : ℤ} (h : (set - mode).natAbs ≤ n) :
    ndLoop left right n ⟨mode, set⟩ = (⟨set, set⟩, ndSteps left right (set - mode)) := by
  induction n generalizing mode with
  | zero =>
    -- no distance is left
    obtain rfl : mode = set := by omega
    rw [sub_self]
    rfl
  | succ n ih =>
    simp only [ndLoop]
    rcases lt_trichotomy mode set with hlt | rfl | hgt
    · -- one command to the right, and one step less
      have hstep : set - (mode + 1) = set - mode - 1 := by ring
      rw [if_pos hlt.ne, if_pos hlt, ih (by omega), hstep, ← ndSteps_right (sub_pos.mpr hlt)]
    · rw [if_neg (not_not.mpr rfl), sub_self]
      rfl
    · -- one command to the left
      have hstep : set - (mode - 1) = set - mode + 1 := by ring
      rw [if_pos hgt.ne', if_neg hgt.not_gt, ih (by omega), hstep,
        ← ndSteps_left (sub_neg.mpr hgt)]

theorem ndMode_eq (sel : NdSelector) : ndMode left right sel =
    (⟨sel.ndModeSet, sel.ndModeSet⟩, ndSteps left right (sel.ndModeSet - sel.ndMode)) :=
  ndLoop_eq le_rfl

end Update

/-! ## The frames of each part

Each part pushes frames for its own window and lamps only. -/

namespace Update

variable (env : Datarefs)

theorem vsValue_serves (w : VsWindow) : Serves [.window .vs] (vsValue env w).2 := by
  simp only [vsValue]
  split_ifs
  · apply serves_updateVs
  · apply serves_nil
  · apply serves_nil

theorem vsMode_serves (w : VsWindow) : Serves [.window .vs] (vsMode env w).2 := by
  simp only [vsMode]
  split_ifs
  · apply serves_updateVs
  · apply serves_nil
  · apply serves_updateVs
  · apply serves_nil

theorem altMode_serves (w : AltWindow) : Serves [.lamp (.dot .alt)] (altMode env w).2 := by
  simp only [altMode, pushMessage_dot_on, pushMessage_dot_off]
  split_ifs
  · apply serves_push
    exact .inl rfl
  · apply serves_nil
  · apply serves_push
    exact .inr rfl
  · apply serves_nil

theorem annunciator_serves (k : Annunciator) (n : ℤ) :
    Serves [.lamp (.annunciator k)] (annunciator k env n).2 := by
  simp only [annunciator, pushMessage_annunciator_on, pushMessage_annunciator_off]
  split_ifs
  · apply serves_push
    exact .inl rfl
  · apply serves_push
    exact .inr rfl
  · apply serves_nil

theorem hdgMode_serves (w : HdgWindow) :
    Serves [.window .hdg, .lamp (.dot .hdg)] (hdgMode env w).2 := by
  simp only [hdgMode, pushMessage_dot_on, pushMessage_dot_off]
  split_ifs
  · exact (serves_updateHdg _ _).append (serves_push (.inl rfl))
  · apply serves_nil
  · exact (serves_updateHdg _ _).append (serves_push (.inr rfl))
  · apply serves_nil

theorem spdMode_serves (w : SpdWindow) :
    Serves [.window .spd, .lamp (.dot .spd)] (spdMode env w).2 := by
  simp only [spdMode, pushMessage_dot_on, pushMessage_dot_off]
  split_ifs
  · exact (serves_updateSpd _ _).append (serves_push (.inl rfl))
  · apply serves_nil
  · exact (serves_updateSpd _ _).append (serves_push (.inr rfl))
  · apply serves_nil

theorem pushes_ndLoop (left right : CommandRef) (n : ℕ) (sel : NdSelector) :
    pushes (ndLoop left right n sel).2 = [] := by
  induction n generalizing sel with
  | zero => rfl
  | succ n ih =>
    simp only [ndLoop]
    split_ifs
    · apply ih
    · apply ih
    · rfl

theorem ndMode_serves (left right : CommandRef) (sel : NdSelector) :
    Serves [] (ndMode left right sel).2 :=
  serves_of_pushes_eq_nil (pushes_ndLoop left right _ sel)

theorem hdgValue_serves (w : HdgWindow) : Serves [.window .hdg] (hdgValue w).2 := by
  simp only [hdgValue]
  split_ifs
  · exact (serves_updateHdg _ _).append (serves_of_pushes_eq_nil rfl)
  · apply serves_nil

theorem spdValue_serves (w : SpdWindow) : Serves [.window .spd] (spdValue w).2 := by
  simp only [spdValue]
  split_ifs
  · exact (serves_updateSpd _ _).append (serves_of_pushes_eq_nil rfl)
  · apply serves_nil

theorem altValue_serves (w : AltWindow) : Serves [.window .alt] (altValue w).2 := by
  simp only [altValue]
  split_ifs
  · exact (serves_updateAlt _).append (serves_of_pushes_eq_nil rfl)
  · apply serves_nil

theorem baroStd_serves {bufs : BaroBuffers} {w : Window} (hbufs : bufs.For w)
    (d : BaroDatarefs) (b : Baro) : Serves [.window w] (baroStd bufs d b).2 := by
  simp only [baroStd]
  split_ifs
  · exact hbufs.serves_setBaroStd
  · apply serves_nil
  · apply serves_nil

theorem baroSetting_serves {bufs : BaroBuffers} {w : Window} (hbufs : bufs.For w)
    (d : BaroDatarefs) (b : Baro) : Serves [.window w] (baroSetting bufs d b).2 := by
  simp only [baroSetting]
  split_ifs
  · apply hbufs.serves_updateBaro
  · apply serves_nil
  · apply hbufs.serves_updateBaro
  · apply serves_nil
  · apply serves_nil

theorem baro_serves {bufs : BaroBuffers} {w : Window} (hbufs : bufs.For w)
    (d : BaroDatarefs) (b : Baro) : Serves [.window w] (baro bufs d b).2 := by
  have hsnd : (baro bufs d b).2 = (baroStd bufs d (baroUnit d b)).2 ++
      (baroSetting bufs d (baroStd bufs d (baroUnit d b)).1).2 := by
    simp [baro]
  rw [hsnd]
  intro f hf
  rw [pushes_append, List.mem_append] at hf
  rcases hf with hf | hf
  · exact baroStd_serves hbufs d _ f hf
  · exact baroSetting_serves hbufs d _ f hf

end Update

/-- Every frame that `Update` pushes is for some target. -/
theorem takes_of_pushes_update (env : Datarefs) (s : Globals) :
    ∀ f ∈ pushes (update env s).2, ∃ t : Target, t.Takes f := by
  obtain ⟨ts, hserves⟩ : ∃ ts, Serves ts (update env s).2 := by
    -- part by part, in the order of the source
    rw [update_snd]
    exact ⟨_, (Update.vsValue_serves env _).append <| (Update.vsMode_serves env _).append <|
      (Update.altMode_serves env _).append <| (Update.annunciator_serves env .athr _).append <|
      (Update.annunciator_serves env .appr _).append <|
      (Update.annunciator_serves env .ap1 _).append <|
      (Update.annunciator_serves env .ap2 _).append <|
      (Update.annunciator_serves env .masterCaution _).append <|
      (Update.annunciator_serves env .masterWarning _).append <|
      (Update.hdgMode_serves env _).append <| (Update.spdMode_serves env _).append <|
      (Update.annunciator_serves env .lsCpt _).append <|
      (Update.annunciator_serves env .fdCpt _).append <|
      (Update.annunciator_serves env .lsFo _).append <|
      (Update.annunciator_serves env .fdFo _).append <|
      (Update.annunciator_serves env .loc _).append <|
      (Update.ndMode_serves _ _ _).append <| (Update.ndMode_serves _ _ _).append <|
      (Update.hdgValue_serves _).append <| (Update.spdValue_serves _).append <|
      (Update.altValue_serves _).append <| (Update.baro_serves sendbufBaroLeft_for _ _).append <|
      Update.baro_serves sendBufBaroRight_for _ _⟩
  intro f hf
  obtain ⟨t, -, htakes⟩ := hserves f hf
  exact ⟨t, htakes⟩

theorem InitDatarefs.spd_serves (env : Datarefs) (w : SpdWindow) :
    Serves [.lamp (.dot .spd)] (InitDatarefs.spd env w).2 := by
  simp only [InitDatarefs.spd, pushMessage_dot_on, pushMessage_dot_off]
  split_ifs
  · apply serves_push
    exact .inl rfl
  · apply serves_push
    exact .inr rfl
  · apply serves_nil

/-! ## The datarefs that each part writes

For an observer `g` that ignores frames and commands, only the three targets are left. -/

namespace Update

section Observed

variable {β : Type} {g : Effect → Option β}
  (hpush : ∀ f : Frame, f.Accepted → g (.push f) = none)
  (hcommand : ∀ c, g (.commandOnce c) = none) (env : Datarefs)

include hpush

theorem observed_annunciator (k : Annunciator) (n : ℤ) :
    (annunciator k env n).2.filterMap g = [] := by
  simp only [annunciator, pushMessage_annunciator_on, pushMessage_annunciator_off]
  split_ifs <;> simp [hpush]

theorem observed_vsValue (w : VsWindow) : (vsValue env w).2.filterMap g = [] := by
  simp only [vsValue, updateVs_eq]
  split_ifs <;> simp [hpush]

theorem observed_vsMode (w : VsWindow) : (vsMode env w).2.filterMap g = [] := by
  simp only [vsMode, updateVs_eq]
  split_ifs <;> simp [hpush]

theorem observed_altMode (w : AltWindow) : (altMode env w).2.filterMap g = [] := by
  simp only [altMode, pushMessage_dot_on, pushMessage_dot_off]
  split_ifs <;> simp [hpush]

theorem observed_hdgMode (w : HdgWindow) : (hdgMode env w).2.filterMap g = [] := by
  simp only [hdgMode, updateHdg_eq, pushMessage_dot_on, pushMessage_dot_off]
  split_ifs <;> simp [hpush]

theorem observed_spdMode (w : SpdWindow) : (spdMode env w).2.filterMap g = [] := by
  simp only [spdMode, updateSpd_eq, pushMessage_dot_on, pushMessage_dot_off]
  split_ifs <;> simp [hpush]

theorem observed_setBaroStd {bufs : BaroBuffers} {w : Window} (hbufs : bufs.For w) :
    (setBaroStd bufs).filterMap g = [] := by
  rw [hbufs.std]
  simp [hpush]

theorem observed_updateBaro {bufs : BaroBuffers} {w : Window} (hbufs : bufs.For w) (b : Baro)
    (x : ℚ) : (updateBaro bufs b x).filterMap g = [] := by
  by_cases hmode : b.baroMode = 0
  · rw [hbufs.inHg b x hmode]
    simp [hpush]
  · rw [hbufs.hPa b x hmode]
    simp [hpush]

theorem observed_baro {bufs : BaroBuffers} {w : Window} (hbufs : bufs.For w) (d : BaroDatarefs)
    (b : Baro) : (baro bufs d b).2.filterMap g = [] := by
  have hstd : ∀ b, (baroStd bufs d b).2.filterMap g = [] := by
    intro b
    simp only [baroStd]
    split_ifs
    · exact observed_setBaroStd hpush hbufs
    · rfl
    · rfl
  -- the two parts that push, each a frame or nothing
  have hsetting : ∀ b, (baroSetting bufs d b).2.filterMap g = [] := by
    intro b
    simp only [baroSetting]
    split_ifs
    · exact observed_updateBaro hpush hbufs _ _
    · rfl
    · exact observed_updateBaro hpush hbufs _ _
    · rfl
    · rfl
  simp only [baro, Action.block_cons, Action.block_nil, Action.seq_snd, Action.skip_apply,
    List.filterMap_append, hstd, hsetting, List.filterMap_nil, List.append_nil]

section Targets

variable (hset : ∀ d v, g (.setDataf d v) = none)

include hset

theorem observed_hdgValue (w : HdgWindow) : (hdgValue w).2.filterMap g = [] := by
  simp only [hdgValue, updateHdg_eq]
  split_ifs <;> simp [hpush, hset]

theorem observed_spdValue (w : SpdWindow) : (spdValue w).2.filterMap g = [] := by
  simp only [spdValue, updateSpd_eq]
  split_ifs <;> simp [hpush, hset]

theorem observed_altValue (w : AltWindow) : (altValue w).2.filterMap g = [] := by
  simp only [altValue, updateAlt_eq]
  split_ifs <;> simp [hpush, hset]

end Targets

omit hpush
include hcommand

theorem observed_ndLoop (left right : CommandRef) (n : ℕ) (sel : NdSelector) :
    (ndLoop left right n sel).2.filterMap g = [] := by
  induction n generalizing sel with
  | zero => rfl
  | succ n ih =>
    simp only [ndLoop]
    split_ifs
    · -- every round issues one command
      rw [List.filterMap_cons, hcommand]
      apply ih
    · rw [List.filterMap_cons, hcommand]
      apply ih
    · rfl

end Observed

theorem written_hdgValue (w : HdgWindow) : written (hdgValue w).2 =
    if trunc w.hdgSet ≠ trunc w.hdg then [(.gHdgDataref, w.hdgSet)] else [] := by
  simp only [hdgValue, updateHdg_eq]
  split_ifs <;> rfl

theorem written_spdValue (w : SpdWindow) : written (spdValue w).2 =
    if trunc w.spdSet ≠ trunc w.spd then [(.gSpdDataref, w.spdSet)] else [] := by
  simp only [spdValue, updateSpd_eq]
  split_ifs <;> rfl

theorem written_altValue (w : AltWindow) : written (altValue w).2 =
    if w.alt ≠ w.altSet then [(.gAltDataref, w.altSet)] else [] := by
  simp only [altValue, updateAlt_eq]
  split_ifs <;> rfl

end Update

/-- Apart from frames, `Update` emits what the ND loops and the three targets do, in this
order. -/
theorem observed_update_of_push {β : Type} {g : Effect → Option β}
    (hpush : ∀ f : Frame, f.Accepted → g (.push f) = none)
    (env : Datarefs) (s : Globals) :
    (update env s).2.filterMap g =
      (Update.ndMode .gNdModeCptLeftDataref .gNdModeCptRightDataref s.ndCpt).2.filterMap g ++
        ((Update.ndMode .gNdModeFoLeftDataref .gNdModeFoRightDataref s.ndFo).2.filterMap g ++
          ((Update.hdgValue (Update.hdgMode env s.hdg).1).2.filterMap g ++
            ((Update.spdValue (Update.spdMode env s.spd).1).2.filterMap g ++
              (Update.altValue (Update.altMode env s.alt).1).2.filterMap g))) := by
  simp [update_snd, Update.observed_annunciator hpush, Update.observed_vsValue hpush,
    Update.observed_vsMode hpush, Update.observed_altMode hpush, Update.observed_hdgMode hpush,
    Update.observed_spdMode hpush, Update.observed_baro hpush sendbufBaroLeft_for,
    Update.observed_baro hpush sendBufBaroRight_for]

/-- Apart from frames and commands, `Update` emits what the three targets do, in this order. -/
theorem observed_update {β : Type} {g : Effect → Option β}
    (hpush : ∀ f : Frame, f.Accepted → g (.push f) = none)
    (hcommand : ∀ c, g (.commandOnce c) = none) (env : Datarefs) (s : Globals) :
    (update env s).2.filterMap g =
      (Update.hdgValue (Update.hdgMode env s.hdg).1).2.filterMap g ++
        ((Update.spdValue (Update.spdMode env s.spd).1).2.filterMap g ++
          (Update.altValue (Update.altMode env s.alt).1).2.filterMap g) := by
  rw [observed_update_of_push hpush, Update.ndMode, Update.ndMode,
    Update.observed_ndLoop hcommand, Update.observed_ndLoop hcommand, List.nil_append,
    List.nil_append]

/-- `Update` emits nothing else. -/
theorem observed_update_eq_nil {β : Type} {g : Effect → Option β}
    (hpush : ∀ f : Frame, f.Accepted → g (.push f) = none)
    (hcommand : ∀ c, g (.commandOnce c) = none) (hset : ∀ d v, g (.setDataf d v) = none)
    (env : Datarefs) (s : Globals) : (update env s).2.filterMap g = [] := by
  rw [observed_update hpush hcommand, Update.observed_hdgValue hpush hset,
    Update.observed_spdValue hpush hset, Update.observed_altValue hpush hset]
  rfl

/-- The three targets are the only datarefs that `Update` writes. -/
theorem written_update (env : Datarefs) (s : Globals) : written (update env s).2 =
    written (Update.hdgValue (Update.hdgMode env s.hdg).1).2 ++
      (written (Update.spdValue (Update.spdMode env s.spd).1).2 ++
        written (Update.altValue (Update.altMode env s.alt).1).2) :=
  observed_update (fun _ _ => rfl) (fun _ => rfl) env s

/-! ## The frames of Update, target by target -/

section Targets

variable (env : Datarefs) {t : Target}

@[simp] theorem framesFor_vsValue (w : VsWindow) (ht : t ≠ .window .vs) :
    framesFor t (Update.vsValue env w).2 = [] :=
  (Update.vsValue_serves env w).framesFor_eq_nil (by simp [ht])

@[simp] theorem framesFor_vsMode (w : VsWindow) (ht : t ≠ .window .vs) :
    framesFor t (Update.vsMode env w).2 = [] :=
  (Update.vsMode_serves env w).framesFor_eq_nil (by simp [ht])

@[simp] theorem framesFor_altMode (w : AltWindow) (ht : t ≠ .lamp (.dot .alt)) :
    framesFor t (Update.altMode env w).2 = [] :=
  (Update.altMode_serves env w).framesFor_eq_nil (by simp [ht])

@[simp] theorem framesFor_annunciator (k : Annunciator) (n : ℤ)
    (ht : t ≠ .lamp (.annunciator k)) : framesFor t (Update.annunciator k env n).2 = [] :=
  (Update.annunciator_serves env k n).framesFor_eq_nil (by simp [ht])

@[simp] theorem framesFor_hdgMode (w : HdgWindow) (ht : t ≠ .window .hdg)
    (ht' : t ≠ .lamp (.dot .hdg)) : framesFor t (Update.hdgMode env w).2 = [] :=
  (Update.hdgMode_serves env w).framesFor_eq_nil (by simp [ht, ht'])

@[simp] theorem framesFor_spdMode (w : SpdWindow) (ht : t ≠ .window .spd)
    (ht' : t ≠ .lamp (.dot .spd)) : framesFor t (Update.spdMode env w).2 = [] :=
  (Update.spdMode_serves env w).framesFor_eq_nil (by simp [ht, ht'])

@[simp] theorem framesFor_ndMode (left right : CommandRef) (sel : NdSelector) :
    framesFor t (Update.ndMode left right sel).2 = [] :=
  (Update.ndMode_serves left right sel).framesFor_eq_nil (by simp)

@[simp] theorem framesFor_hdgValue (w : HdgWindow) (ht : t ≠ .window .hdg) :
    framesFor t (Update.hdgValue w).2 = [] :=
  (Update.hdgValue_serves w).framesFor_eq_nil (by simp [ht])

@[simp] theorem framesFor_spdValue (w : SpdWindow) (ht : t ≠ .window .spd) :
    framesFor t (Update.spdValue w).2 = [] :=
  (Update.spdValue_serves w).framesFor_eq_nil (by simp [ht])

@[simp] theorem framesFor_altValue (w : AltWindow) (ht : t ≠ .window .alt) :
    framesFor t (Update.altValue w).2 = [] :=
  (Update.altValue_serves w).framesFor_eq_nil (by simp [ht])

@[simp] theorem framesFor_baroCpt (d : BaroDatarefs) (b : Baro) (ht : t ≠ .window .baroCpt) :
    framesFor t (Update.baro sendbufBaroLeft d b).2 = [] :=
  (Update.baro_serves sendbufBaroLeft_for d b).framesFor_eq_nil (by simp [ht])

@[simp] theorem framesFor_baroFo (d : BaroDatarefs) (b : Baro) (ht : t ≠ .window .baroFo) :
    framesFor t (Update.baro sendBufBaroRight d b).2 = [] :=
  (Update.baro_serves sendBufBaroRight_for d b).framesFor_eq_nil (by simp [ht])

variable (s : Globals)

theorem framesFor_update_spd : framesFor (.window .spd) (update env s).2 =
    framesFor (.window .spd) (Update.spdMode env s.spd).2 ++
      framesFor (.window .spd) (Update.spdValue (Update.spdMode env s.spd).1).2 := by
  simp [update_snd, framesFor_append]

theorem framesFor_update_hdg : framesFor (.window .hdg) (update env s).2 =
    framesFor (.window .hdg) (Update.hdgMode env s.hdg).2 ++
      framesFor (.window .hdg) (Update.hdgValue (Update.hdgMode env s.hdg).1).2 := by
  simp [update_snd, framesFor_append]

theorem framesFor_update_alt : framesFor (.window .alt) (update env s).2 =
    framesFor (.window .alt) (Update.altValue (Update.altMode env s.alt).1).2 := by
  simp [update_snd, framesFor_append]

theorem framesFor_update_vs : framesFor (.window .vs) (update env s).2 =
    framesFor (.window .vs) (Update.vsValue env s.vs).2 ++
      framesFor (.window .vs) (Update.vsMode env (Update.vsValue env s.vs).1).2 := by
  simp [update_snd, framesFor_append]

theorem framesFor_update_baroCpt : framesFor (.window .baroCpt) (update env s).2 =
    framesFor (.window .baroCpt) (Update.baro sendbufBaroLeft env.baroCpt s.baroCpt).2 := by
  simp [update_snd, framesFor_append]

theorem framesFor_update_baroFo : framesFor (.window .baroFo) (update env s).2 =
    framesFor (.window .baroFo) (Update.baro sendBufBaroRight env.baroFo s.baroFo).2 := by
  simp [update_snd, framesFor_append]

theorem framesFor_update_annunciator (k : Annunciator) :
    framesFor (.lamp (.annunciator k)) (update env s).2 =
      framesFor (.lamp (.annunciator k)) (Update.annunciator k env (s.state k)).2 := by
  cases k <;> simp [update_snd, framesFor_append]

theorem framesFor_update_spdDot : framesFor (.lamp (.dot .spd)) (update env s).2 =
    framesFor (.lamp (.dot .spd)) (Update.spdMode env s.spd).2 := by
  simp [update_snd, framesFor_append]

theorem framesFor_update_hdgDot : framesFor (.lamp (.dot .hdg)) (update env s).2 =
    framesFor (.lamp (.dot .hdg)) (Update.hdgMode env s.hdg).2 := by
  simp [update_snd, framesFor_append]

theorem framesFor_update_altDot : framesFor (.lamp (.dot .alt)) (update env s).2 =
    framesFor (.lamp (.dot .alt)) (Update.altMode env s.alt).2 := by
  simp [update_snd, framesFor_append]

theorem framesFor_initDatarefs {t : Target} (ht : t ≠ .lamp (.dot .spd)) :
    framesFor t (initDatarefs env s).2 = [] := by
  rw [initDatarefs_snd]
  exact (InitDatarefs.spd_serves env s.spd).framesFor_eq_nil (by simp [ht])

end Targets

end SkalarkiFcu
