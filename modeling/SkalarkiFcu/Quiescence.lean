import SkalarkiFcu.Baro

/-!
# Quiescence

`Update` is a collection of change detectors. After one pass every cache holds what the pass has
read, and a second pass under the same readings finds nothing to do. The readings of the three
target datarefs do not matter for that: the second pass may find what the first one has written
there, or anything else.

## Architecture

- **Rest**: `Globals.Settled`, what the caches hold when there is nothing to do
- **Reaching rest**: `settled_update`, one lemma for each part
- **Staying at rest**: `Globals.Settled.quiet`
-/

namespace SkalarkiFcu

open Reactive Truncation

/-! ## Rest -/

/-- The caches of a barometer agree with the readings. -/
structure Baro.Settled (d : BaroDatarefs) (b : Baro) : Prop where
  mode : b.baroMode = trunc d.mode
  modeSet : b.baroModeSet = trunc d.mode
  updateBaroValue : b.updateBaroValue = false
  std : b.baroStd = trunc d.std
  stdSet : b.baroStdSet = trunc d.std
  display : b.baroStd = 0 → b.baroDisplay = Update.baroDisplayNew d b.baroMode

/-- Every cache agrees with the readings, and every target has been taken over. -/
structure Globals.Settled (env : Datarefs) (s : Globals) : Prop where
  vs : s.vs.vs = trunc env.gVsDataref
  vsManaged : s.vs.vsManaged = decide (trunc env.gVsManagedDataref = 0)
  altManaged : s.alt.altManaged = decide (env.gAltManagedDataref = 1)
  hdgManaged : s.hdg.hdgManaged = decide (trunc env.gHdgManagedDataref = 0)
  spdManaged : s.spd.spdManaged = decide (env.gSpdManagedDataref = 0)
  state : ∀ k, s.state k = Update.threshold (env.annunciator k)
  ndCpt : s.ndCpt.ndMode = s.ndCpt.ndModeSet
  ndFo : s.ndFo.ndMode = s.ndFo.ndModeSet
  hdg : trunc s.hdg.hdgSet = trunc s.hdg.hdg
  spd : trunc s.spd.spdSet = trunc s.spd.spd
  alt : s.alt.alt = s.alt.altSet
  baroCpt : s.baroCpt.Settled env.baroCpt
  baroFo : s.baroFo.Settled env.baroFo

/-! ## Reaching rest -/

namespace Update

theorem hdgValue_settles (w : HdgWindow) :
    trunc (hdgValue w).1.hdgSet = trunc (hdgValue w).1.hdg := by
  simp only [hdgValue]
  split_ifs with h
  · rfl
  · exact not_not.mp h

theorem spdValue_settles (w : SpdWindow) :
    trunc (spdValue w).1.spdSet = trunc (spdValue w).1.spd := by
  simp only [spdValue]
  split_ifs with h
  · rfl
  · exact not_not.mp h

theorem altValue_settles (w : AltWindow) : (altValue w).1.alt = (altValue w).1.altSet := by
  simp only [altValue]
  split_ifs with h
  · rfl
  · exact not_not.mp h

theorem annunciator_fst (k : Annunciator) (env : Datarefs) (n : ℤ) :
    (annunciator k env n).1 = threshold (env.annunciator k) := by
  simp only [annunciator]
  split_ifs with h
  · rfl
  · rfl
  · exact not_not.mp h

theorem baroUnit_settles (d : BaroDatarefs) (b : Baro) :
    (baroUnit d b).baroMode = trunc d.mode ∧ (baroUnit d b).baroModeSet = trunc d.mode ∧
    (baroUnit d b).updateBaroValue = false := by
  refine ⟨baroUnit_baroMode d b, ?_, ?_⟩
  · simp only [baroUnit, baroValue, baroMode]
    split_ifs <;> rfl
  · simp only [baroUnit, baroValue]
    split_ifs with hv
    · rfl
    · exact Bool.not_eq_true _ ▸ hv

/-- The STD part leaves the unit alone. -/
theorem baroStd_settles (bufs : BaroBuffers) (d : BaroDatarefs) (b : Baro) :
    (baroStd bufs d b).1.baroStd = trunc d.std ∧ (baroStd bufs d b).1.baroStdSet = trunc d.std ∧
    (baroStd bufs d b).1.baroMode = b.baroMode ∧
    (baroStd bufs d b).1.baroModeSet = b.baroModeSet ∧
    (baroStd bufs d b).1.updateBaroValue = b.updateBaroValue := by
  simp only [baroStd]
  split_ifs with hne
  · exact ⟨rfl, rfl, rfl, rfl, rfl⟩
  · exact ⟨rfl, rfl, rfl, rfl, rfl⟩
  · exact ⟨not_not.mp hne, rfl, rfl, rfl, rfl⟩

/-- **A barometer settles** in one pass. -/
theorem baro_settles {bufs : BaroBuffers} {w : Window} (hbufs : bufs.For w) (d : BaroDatarefs)
    (b : Baro) : (baro bufs d b).1.Settled d := by
  obtain ⟨hmode, hmodeSet, hvalue⟩ := baroUnit_settles d b
  obtain ⟨hstd, hstdSet, hmode', hmodeSet', hvalue'⟩ := baroStd_settles bufs d (baroUnit d b)
  have hfst : (baro bufs d b).1 = (baroSetting bufs d (baroStd bufs d (baroUnit d b)).1).1 := rfl
  rw [hfst, baroSetting_for _ _ _ hbufs]
  split_ifs with hnew
  · -- the setting is new and becomes the cached one
    exact ⟨hmode'.trans hmode, hmodeSet'.trans hmodeSet, hvalue'.trans hvalue, hstd, hstdSet,
      fun _ => rfl⟩
  · refine ⟨hmode'.trans hmode, hmodeSet'.trans hmodeSet, hvalue'.trans hvalue, hstd, hstdSet, ?_⟩
    -- the setting is the cached one already
    intro hzero
    by_contra hdisplay
    exact hnew ⟨hzero, hdisplay⟩

end Update

/-- **One pass is enough**: after an update every cache agrees with what it has read. -/
theorem settled_update (env : Datarefs) (s : Globals) : (update env s).1.Settled env where
  vs := by simp
  vsManaged := by simp
  altManaged := by simp
  hdgManaged := by simp
  spdManaged := by simp
  state k := by rw [update_state, Update.annunciator_fst]
  ndCpt := by rw [update_ndCpt, Update.ndMode_eq]
  ndFo := by rw [update_ndFo, Update.ndMode_eq]
  hdg := by
    rw [update_hdg]
    apply Update.hdgValue_settles
  spd := by
    rw [update_spd]
    apply Update.spdValue_settles
  alt := by
    rw [update_alt]
    apply Update.altValue_settles
  baroCpt := by
    rw [update_baroCpt]
    exact Update.baro_settles sendbufBaroLeft_for _ _
  baroFo := by
    rw [update_baroFo]
    exact Update.baro_settles sendBufBaroRight_for _ _

/-! ## Staying at rest -/

namespace Update

variable {env : Datarefs}

theorem vsValue_quiet {w : VsWindow} (h : w.vs = trunc env.gVsDataref) :
    Quiet (vsValue env) w := by
  simp [Quiet, vsValue, h]

theorem vsMode_quiet {w : VsWindow}
    (h : w.vsManaged = decide (trunc env.gVsManagedDataref = 0)) : Quiet (vsMode env) w := by
  simp only [Quiet, vsMode, h]
  split_ifs <;> simp_all

theorem altMode_quiet {w : AltWindow} (h : w.altManaged = decide (env.gAltManagedDataref = 1)) :
    Quiet (altMode env) w := by
  simp only [Quiet, altMode, h]
  split_ifs <;> simp_all

theorem annunciator_quiet {k : Annunciator} {n : ℤ} (h : n = threshold (env.annunciator k)) :
    Quiet (annunciator k env) n := by
  simp [Quiet, annunciator, h]

theorem hdgMode_quiet {w : HdgWindow}
    (h : w.hdgManaged = decide (trunc env.gHdgManagedDataref = 0)) : Quiet (hdgMode env) w := by
  simp only [Quiet, hdgMode, h]
  split_ifs <;> simp_all

theorem spdMode_quiet {w : SpdWindow} (h : w.spdManaged = decide (env.gSpdManagedDataref = 0)) :
    Quiet (spdMode env) w := by
  simp only [Quiet, spdMode, h]
  split_ifs <;> simp_all

theorem ndMode_quiet {left right : CommandRef} {sel : NdSelector}
    (h : sel.ndMode = sel.ndModeSet) : Quiet (ndMode left right) sel := by
  -- the loop has no step to take
  rw [Quiet, ndMode_eq, ← h, sub_self]
  exact congrArg (·, []) (congrArg (NdSelector.mk sel.ndMode) h)

theorem hdgValue_quiet {w : HdgWindow} (h : trunc w.hdgSet = trunc w.hdg) :
    Quiet hdgValue w := by
  simp [Quiet, hdgValue, h]

theorem spdValue_quiet {w : SpdWindow} (h : trunc w.spdSet = trunc w.spd) :
    Quiet spdValue w := by
  simp [Quiet, spdValue, h]

theorem altValue_quiet {w : AltWindow} (h : w.alt = w.altSet) : Quiet altValue w := by
  simp [Quiet, altValue, h]

theorem baroUnit_of_settled {d : BaroDatarefs} {b : Baro} (h : b.Settled d) :
    baroUnit d b = b := by
  cases b
  obtain ⟨rfl, rfl, rfl, -, -, -⟩ := h
  simp [baroUnit, baroMode, baroValue]

theorem baroStd_quiet {d : BaroDatarefs} {b : Baro} (h : b.Settled d) (bufs : BaroBuffers) :
    Quiet (baroStd bufs d) b := by
  cases b
  obtain ⟨-, -, -, rfl, rfl, -⟩ := h
  simp [Quiet, baroStd]

theorem baro_quiet {bufs : BaroBuffers} {w : Window} (hbufs : bufs.For w) {d : BaroDatarefs}
    {b : Baro} (h : b.Settled d) : Quiet (baro bufs d) b := by
  apply quiet_block
  have hunit : Quiet (fun b => (baroUnit d b, ([] : List Effect))) b := by
    rw [Quiet, baroUnit_of_settled h]
  have hsetting : Quiet (baroSetting bufs d) b := by
    rw [Quiet, baroSetting_for d b bufs hbufs, if_neg]
    -- outside STD the cached integer is that of the setting
    rintro ⟨hstd, hdisplay⟩
    exact hdisplay (h.display hstd)
  simp [hunit, baroStd_quiet h, hsetting]

end Update

/-- **Nothing to do**: in a settled state an update changes nothing and emits nothing. -/
theorem Globals.Settled.quiet {env : Datarefs} {s : Globals} (h : s.Settled env) :
    Quiet (update env) s := by
  have hstate : ∀ k, Quiet ((statePart k).zoom (Update.annunciator k env)) s := fun k =>
    Part.quiet_zoom (Update.annunciator_quiet (h.state k)) (by simp [statePart])
  apply quiet_block
  simp only [List.forall_mem_cons, List.not_mem_nil, false_imp_iff, implies_true, and_true, hstate,
    true_and]
  exact ⟨Part.quiet_zoom (Update.vsValue_quiet h.vs) rfl,
    Part.quiet_zoom (Update.vsMode_quiet h.vsManaged) rfl,
    Part.quiet_zoom (Update.altMode_quiet h.altManaged) rfl,
    Part.quiet_zoom (Update.hdgMode_quiet h.hdgManaged) rfl,
    Part.quiet_zoom (Update.spdMode_quiet h.spdManaged) rfl,
    Part.quiet_zoom (Update.ndMode_quiet h.ndCpt) rfl,
    Part.quiet_zoom (Update.ndMode_quiet h.ndFo) rfl,
    Part.quiet_zoom (Update.hdgValue_quiet h.hdg) rfl,
    Part.quiet_zoom (Update.spdValue_quiet h.spd) rfl,
    Part.quiet_zoom (Update.altValue_quiet h.alt) rfl,
    Part.quiet_zoom (Update.baro_quiet sendbufBaroLeft_for h.baroCpt) rfl,
    Part.quiet_zoom (Update.baro_quiet sendBufBaroRight_for h.baroFo) rfl⟩

/-- The readings agree, except for those of the target datarefs. -/
def Datarefs.Agree (env env' : Datarefs) : Prop :=
  ∃ alt spd hdg, env' = { env with gAltDataref := alt, gSpdDataref := spd, gHdgDataref := hdg }

theorem Datarefs.Agree.symm {env env' : Datarefs} (h : env.Agree env') : env'.Agree env := by
  obtain ⟨alt, spd, hdg, rfl⟩ := h
  exact ⟨env.gAltDataref, env.gSpdDataref, env.gHdgDataref, rfl⟩

/-- Being settled does not depend on the target datarefs. -/
theorem Globals.Settled.agree {env env' : Datarefs} {s : Globals} (h : s.Settled env)
    (henv : env.Agree env') : s.Settled env' := by
  obtain ⟨alt, spd, hdg, rfl⟩ := henv
  exact ⟨h.vs, h.vsManaged, h.altManaged, h.hdgManaged, h.spdManaged, h.state, h.ndCpt, h.ndFo,
    h.hdg, h.spd, h.alt, h.baroCpt, h.baroFo⟩

/-- **Quiescence**: a second update under the readings of the first emits nothing and changes
nothing, whatever the target datarefs read by then. -/
theorem update_quiescent (env : Datarefs) (s : Globals) (alt spd hdg : ℚ) :
    update { env with gAltDataref := alt, gSpdDataref := spd, gHdgDataref := hdg }
      (update env s).1 = ((update env s).1, []) := by
  -- the first update settles the state, under the readings it saw
  have hsettled := settled_update env s
  exact (hsettled.agree ⟨alt, spd, hdg, rfl⟩).quiet

end SkalarkiFcu
