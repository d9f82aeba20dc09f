import Mathlib.Tactic.IntervalCases
import SkalarkiFcu.Dispatch

/-!
# The speed, heading and vertical-speed windows

Each of the three windows shows dashes in managed mode and a number otherwise, and `Update`
refreshes it only when the mode or the number changes. `Displays` follows the text on a window
through the parts of `Update`; the text is always that of the cached mode and number, once a
window has been refreshed. `InitDatarefs` breaks this at the start: it sets the modes without
refreshing the windows, on which `Init` has put dashes.

## Architecture

- **One update**: `displays_spd`, `displays_hdg`, `displays_vs` say what an update makes of a
  displayed text
- **Dashes**: `DashLike`, the numbers whose digits are all dashes
- **Runs**: one comparison for each window, and `windowsRight_iff`
-/

namespace SkalarkiFcu

open LittleEndian Reactive Truncation

/-! ## One update -/

/-- The text on the speed window after an update. -/
def Update.spdText (env : Datarefs) (w : SpdWindow) (text : Bytes) : Bytes :=
  let w' := (Update.spdMode env w).1
  -- the value comes after the mode, so that its frame is the last one
  if trunc w'.spdSet ≠ trunc w'.spd then threeDigitsText w'.spdManaged (trunc w'.spdSet)
  else if w'.spdManaged ≠ w.spdManaged then threeDigitsText w'.spdManaged (trunc w'.spd)
  else text

/-- The text on the heading window after an update. -/
def Update.hdgText (env : Datarefs) (w : HdgWindow) (text : Bytes) : Bytes :=
  let w' := (Update.hdgMode env w).1
  if trunc w'.hdgSet ≠ trunc w'.hdg then
    threeDigitsText w'.hdgManaged (trunc (w'.hdgSet + 0.5))
  else if w'.hdgManaged ≠ w.hdgManaged then threeDigitsText w'.hdgManaged (trunc w'.hdg)
  else text

/-- The text on the vertical-speed window after an update. -/
def Update.vsText (env : Datarefs) (w : VsWindow) (text : Bytes) : Bytes :=
  let w' := (Update.vsValue env w).1
  let w'' := (Update.vsMode env w').1
  -- here the mode comes after the value
  if w''.vsManaged ≠ w.vsManaged then SkalarkiFcu.vsText w''.vsManaged w''.vs
  else if w'.vs ≠ w.vs ∧ w.vsManaged = false then SkalarkiFcu.vsText false w'.vs
  else text

theorem framesFor_spdMode_window (env : Datarefs) (w : SpdWindow) :
    framesFor (.window .spd) (Update.spdMode env w).2 =
      let w' := (Update.spdMode env w).1
      if w'.spdManaged ≠ w.spdManaged then
        [.push (Window.spd.frame (threeDigitsText w'.spdManaged (trunc w'.spd)))]
      else [] := by
  by_cases h : env.gSpdManagedDataref = 0 <;> cases hm : w.spdManaged <;>
    simp [Update.spdMode, framesFor, updateSpd_eq, h, hm]

theorem framesFor_spdValue_window (w : SpdWindow) :
    framesFor (.window .spd) (Update.spdValue w).2 =
      if trunc w.spdSet ≠ trunc w.spd then
        [.push (Window.spd.frame (threeDigitsText w.spdManaged (trunc w.spdSet)))]
      else [] := by
  by_cases h : trunc w.spdSet = trunc w.spd <;>
    simp [Update.spdValue, framesFor, updateSpd_eq, h]

theorem framesFor_hdgMode_window (env : Datarefs) (w : HdgWindow) :
    framesFor (.window .hdg) (Update.hdgMode env w).2 =
      let w' := (Update.hdgMode env w).1
      if w'.hdgManaged ≠ w.hdgManaged then
        [.push (Window.hdg.frame (threeDigitsText w'.hdgManaged (trunc w'.hdg)))]
      else [] := by
  by_cases h : trunc env.gHdgManagedDataref = 0 <;> cases hm : w.hdgManaged <;>
    simp [Update.hdgMode, framesFor, updateHdg_eq, h, hm]

theorem framesFor_hdgValue_window (w : HdgWindow) :
    framesFor (.window .hdg) (Update.hdgValue w).2 =
      if trunc w.hdgSet ≠ trunc w.hdg then
        [.push (Window.hdg.frame (threeDigitsText w.hdgManaged (trunc (w.hdgSet + 0.5))))]
      else [] := by
  by_cases h : trunc w.hdgSet = trunc w.hdg <;>
    simp [Update.hdgValue, framesFor, updateHdg_eq, h]

theorem framesFor_vsValue_window (env : Datarefs) (w : VsWindow) :
    framesFor (.window .vs) (Update.vsValue env w).2 =
      if (Update.vsValue env w).1.vs ≠ w.vs ∧ w.vsManaged = false then
        [.push (Window.vs.frame (vsText false (Update.vsValue env w).1.vs))]
      else [] := by
  by_cases h : trunc env.gVsDataref = w.vs <;> cases hm : w.vsManaged <;>
    simp [Update.vsValue, framesFor, updateVs_eq, h, hm]

theorem framesFor_vsMode_window (env : Datarefs) (w : VsWindow) :
    framesFor (.window .vs) (Update.vsMode env w).2 =
      let w' := (Update.vsMode env w).1
      if w'.vsManaged ≠ w.vsManaged then [.push (Window.vs.frame (vsText w'.vsManaged w'.vs))]
      else [] := by
  by_cases h : trunc env.gVsManagedDataref = 0 <;> cases hm : w.vsManaged <;>
    simp [Update.vsMode, framesFor, updateVs_eq, h, hm]

section OneUpdate

variable {es : List Effect} {text : Bytes} (env : Datarefs) (s : Globals)

theorem displays_spd (h : Displays .spd es text) :
    Displays .spd (es ++ (update env s).2) (Update.spdText env s.spd text) := by
  rw [displays_iff] at h ⊢
  rw [framesFor_append, framesFor_update_spd, framesFor_spdMode_window,
    framesFor_spdValue_window]
  unfold Update.spdText
  -- the last frame is that of the value, else that of the mode, else an old one
  by_cases hvalue : trunc (Update.spdMode env s.spd).1.spdSet =
      trunc (Update.spdMode env s.spd).1.spd <;>
    by_cases hmode : decide (env.gSpdManagedDataref = 0) = s.spd.spdManaged <;>
    simp [hvalue, hmode, h]

theorem displays_hdg (h : Displays .hdg es text) :
    Displays .hdg (es ++ (update env s).2) (Update.hdgText env s.hdg text) := by
  rw [displays_iff] at h ⊢
  rw [framesFor_append, framesFor_update_hdg, framesFor_hdgMode_window,
    framesFor_hdgValue_window]
  unfold Update.hdgText
  simp only [Update.hdgMode_hdg, Update.hdgMode_hdgSet]
  by_cases hvalue : trunc s.hdg.hdgSet = trunc s.hdg.hdg <;>
    by_cases hmode : decide (trunc env.gHdgManagedDataref = 0) = s.hdg.hdgManaged <;>
    simp [hvalue, hmode, h]

theorem displays_vs (h : Displays .vs es text) :
    Displays .vs (es ++ (update env s).2) (Update.vsText env s.vs text) := by
  rw [displays_iff] at h ⊢
  rw [framesFor_append, framesFor_update_vs, framesFor_vsMode_window,
    framesFor_vsValue_window]
  unfold Update.vsText
  simp only [Update.vsValue_vsManaged]
  split_ifs <;> simp [h]

end OneUpdate

/-! ## Dashes -/

/-- A number whose last three digits all print as dashes. -/
def DashLike (n : ℤ) : Prop := n.tmod 1000 = -333

instance : DecidablePred DashLike := fun n => inferInstanceAs (Decidable (n.tmod 1000 = -333))

theorem digitChar_eq_dash_iff {d : ℤ} (h : -10 < d) (h' : d < 10) :
    digitChar d = 0x2d ↔ d = -3 := by
  interval_cases d <;> decide

theorem digits_eq_dashes_iff (n : ℤ) :
    ((n.tdiv 100).tmod 10 = -3 ∧ (n.tdiv 10).tmod 10 = -3 ∧ n.tmod 10 = -3) ↔ DashLike n := by
  have hdiv : ∀ m b : ℕ, (-(m : ℤ)).tdiv b = -((m / b : ℕ) : ℤ) := by
    intro m b
    rw [Int.neg_tdiv, Int.ofNat_tdiv]
  have hmod : ∀ m b : ℕ, (-(m : ℤ)).tmod b = -((m % b : ℕ) : ℤ) := by
    intro m b
    rw [Int.neg_tmod, Int.ofNat_tmod]
  unfold DashLike
  rcases le_total 0 n with h | h
  · -- a nonnegative number has no negative digit
    have h1000 := Int.tmod_nonneg 1000 h
    have h10 := Int.tmod_nonneg 10 h
    omega
  · obtain ⟨m, rfl⟩ := Int.exists_eq_neg_ofNat h
    have hdiv100 := hdiv m 100
    have hdiv10 := hdiv m 10
    have hmod1000 := hmod m 1000
    have hmod10 := hmod m 10
    have hmod100' := hmod (m / 100) 10
    have hmod10' := hmod (m / 10) 10
    push_cast at *
    rw [hdiv100, hdiv10, hmod1000, hmod10, hmod100', hmod10']
    omega

/-- Three characters are all dashes in managed mode, and for the numbers that look so. -/
theorem threeDigitsText_dashes_iff (managed : Bool) (n : ℤ) :
    (∀ b ∈ threeDigitsText managed n, b = 0x2d) ↔ (managed = true ∨ DashLike n) := by
  have hbound : ∀ m : ℤ, -10 < m.tmod 10 ∧ m.tmod 10 < 10 := fun m =>
    ⟨Int.lt_tmod_of_pos m (by decide), Int.tmod_lt_of_pos m (by decide)⟩
  cases managed with
  | true => simp [threeDigitsText]
  | false =>
    simp only [threeDigitsText, Bool.false_eq_true, if_false, List.forall_mem_cons, false_or,
      digitChar_eq_dash_iff (hbound _).1 (hbound _).2, ← digits_eq_dashes_iff]
    simp

/-- The vertical-speed window shows dashes in managed mode only: its number ends in `oo`. -/
theorem vsText_dashes_iff (managed : Bool) (n : ℤ) :
    (∀ b ∈ vsText managed n, b = 0x2d) ↔ managed = true := by
  cases managed <;> simp [vsText]

/-! ## The speed window -/

section Spd

variable (hash : Bytes → UInt64) (env₀ : Datarefs)

/-- The speed window is right after the update: dashes if and only if the speed is managed, and
otherwise the selected-mode frame of the integer part of `Spd`. -/
def SpdRight (pre : List Event) (env : Datarefs) : Prop :=
  let c := session hash env₀ (pre ++ [.update env])
  (ShowsDashes .spd c.2 ↔ env.gSpdManagedDataref = 0) ∧
  (¬ ShowsDashes .spd c.2 → latest (Effect.aims (.window .spd)) c.2 =
    (updateSpd { c.1.spd with spdManaged := false } (trunc c.1.spd.spd)).getLast?)

/-- In selected mode, the speed to be shown does not look like dashes; and if the speed was
selected at `InitDatarefs` already, the first update has a new speed to show. -/
def SpdVisible (pre : List Event) (env : Datarefs) : Prop :=
  let w := (session hash env₀ pre).1.spd
  env.gSpdManagedDataref ≠ 0 →
    ¬ DashLike (if w.spdManaged then trunc env.gSpdDataref else trunc w.spdSet) ∧
    (BeforeUpdates pre → env₀.gSpdManagedDataref ≠ 0 → trunc w.spdSet ≠ 250)

/-- The text that belongs to the cached mode and speed. -/
def SpdWindow.text (w : SpdWindow) : Bytes := threeDigitsText w.spdManaged (trunc w.spd)

/-- The speed window after one update. -/
def Update.spd (env : Datarefs) (w : SpdWindow) : SpdWindow :=
  (Update.spdValue (Update.spdMode env w).1).1

theorem Update.spd_spdManaged (env : Datarefs) (w : SpdWindow) :
    (Update.spd env w).spdManaged = decide (env.gSpdManagedDataref = 0) := by
  simp [Update.spd]

/-- The speed that selected mode shows. -/
theorem Update.trunc_spd {env : Datarefs} (henv : env.gSpdManagedDataref ≠ 0) (w : SpdWindow) :
    trunc (Update.spd env w).spd =
      if w.spdManaged then trunc env.gSpdDataref else trunc w.spdSet := by
  cases hm : w.spdManaged with
  | true => simp [Update.spd, Update.spdMode, Update.spdValue, henv, hm]
  | false =>
    by_cases hvalue : trunc w.spdSet = trunc w.spd <;>
      simp [Update.spd, Update.spdMode, Update.spdValue, henv, hm, hvalue]

/-- A window that keeps its text although its speed is selected: no refresh is due. -/
theorem Update.spdText_of_stale {env : Datarefs} {w : SpdWindow} (text : Bytes)
    (henv : env.gSpdManagedDataref ≠ 0) (hm : w.spdManaged = false)
    (hvalue : trunc w.spdSet = trunc w.spd) : Update.spdText env w text = text := by
  simp [Update.spdText, Update.spdMode, henv, hm, hvalue]

/-- Otherwise the window shows the cached mode and speed afterwards, if it shows dashes or has
been refreshed before. -/
theorem Update.spdText_eq_text {env : Datarefs} {w : SpdWindow} {text : Bytes}
    (hdashes : w.spdManaged = true → text = threeDigitsText true 250)
    (h : env.gSpdManagedDataref ≠ 0 → w.spdManaged = false → trunc w.spdSet = trunc w.spd →
      text = w.text) : Update.spdText env w text = (Update.spd env w).text := by
  -- the mode that is read, by the mode that is cached: only selected to selected may push nothing
  by_cases henv : env.gSpdManagedDataref = 0
  · cases hm : w.spdManaged with
    | true =>
      have htext := hdashes hm
      by_cases hvalue : trunc w.spdSet = trunc w.spd <;>
        simp [Update.spdText, Update.spd, Update.spdMode, Update.spdValue, SpdWindow.text,
          threeDigitsText, henv, hm, hvalue, htext]
    | false =>
      by_cases hvalue : trunc w.spdSet = trunc w.spd <;>
        simp [Update.spdText, Update.spd, Update.spdMode, Update.spdValue, SpdWindow.text,
          threeDigitsText, henv, hm, hvalue]
  · cases hm : w.spdManaged with
    | true =>
      simp [Update.spdText, Update.spd, Update.spdMode, Update.spdValue, SpdWindow.text, henv, hm]
    | false =>
      by_cases hvalue : trunc w.spdSet = trunc w.spd
      · have htext := h henv hm hvalue
        simp [Update.spdText, Update.spd, Update.spdMode, Update.spdValue, SpdWindow.text, henv,
          hm, hvalue, htext]
      · simp [Update.spdText, Update.spd, Update.spdMode, Update.spdValue, SpdWindow.text, henv,
          hm, hvalue]

/-- What the speed window shows after some events: in managed mode dashes; the cached mode and
speed, once an update has run; and the dashes of `Init` before. -/
structure SpdShown (pre : List Event) (text : Bytes) : Prop where
  displays : Displays .spd (session hash env₀ pre).2 text
  length : text.length = 3
  dashes : (session hash env₀ pre).1.spd.spdManaged = true → text = threeDigitsText true 250
  start : BeforeUpdates pre → text = threeDigitsText true 250 ∧
    (session hash env₀ pre).1.spd.spd = 250 ∧
    (session hash env₀ pre).1.spd.spdManaged = decide (env₀.gSpdManagedDataref = 0)
  later : ¬ BeforeUpdates pre → text = (session hash env₀ pre).1.spd.text

theorem spdShown_start : SpdShown hash env₀ [] (threeDigitsText true 250) where
  displays := displays_session_nil hash env₀ (framesFor_init _)
  length := by simp
  dashes _ := rfl
  start _ := by
    rw [session_nil, started_fst]
    exact ⟨rfl, rfl, rfl⟩
  later h := absurd beforeUpdates_nil h

theorem SpdShown.packet {pre : List Event} {text : Bytes} (h : SpdShown hash env₀ pre text)
    (env : Datarefs) (recvbuf : Bytes) :
    SpdShown hash env₀ (pre ++ [.packet env recvbuf]) text := by
  obtain ⟨_, _, _, _, _, _, hs⟩ := session_packet_dialled hash env₀ pre env recvbuf
  refine ⟨h.displays.packet env recvbuf, h.length, ?_, ?_, ?_⟩
  · rw [hs]
    exact h.dashes
  · rw [beforeUpdates_packet, hs]
    exact h.start
  · rw [beforeUpdates_packet, hs]
    exact h.later

variable {hash env₀} {pre : List Event} {text : Bytes}

/-- A refreshed window shows the cached mode and speed. -/
theorem SpdShown.refresh (h : SpdShown hash env₀ pre text) (env : Datarefs)
    (hfresh : let w := (session hash env₀ pre).1.spd
      env.gSpdManagedDataref ≠ 0 → w.spdManaged = false → trunc w.spdSet = trunc w.spd →
        text = w.text) :
    SpdShown hash env₀ (pre ++ [.update env])
      (Update.spd env (session hash env₀ pre).1.spd).text := by
  have hstate : (session hash env₀ (pre ++ [.update env])).1.spd =
      Update.spd env (session hash env₀ pre).1.spd := by
    rw [session_update, exec_fst, update_spd, Update.spd]
  refine ⟨?_, by simp [SpdWindow.text], ?_, ?_, ?_⟩
  · rw [session_update, exec_snd, ← Update.spdText_eq_text h.dashes hfresh]
    exact displays_spd env _ h.displays
  · -- dashes belong to the managed mode
    intro hm
    rw [hstate] at hm
    rw [SpdWindow.text, hm]
    rfl
  · exact fun hfirst => absurd hfirst (not_beforeUpdates_update pre env)
  · intro _
    rw [hstate]

/-- The window keeps the dashes of `Init` although the speed is selected. -/
theorem SpdShown.stale (h : SpdShown hash env₀ pre text) {env : Datarefs}
    (hfirst : BeforeUpdates pre) (henv : env.gSpdManagedDataref ≠ 0)
    (hm : (session hash env₀ pre).1.spd.spdManaged = false)
    (hvalue : trunc (session hash env₀ pre).1.spd.spdSet =
      trunc (session hash env₀ pre).1.spd.spd) :
    ¬ SpdRight hash env₀ pre env ∧ ¬ SpdVisible hash env₀ pre env := by
  obtain ⟨htext, h250, hm₀⟩ := h.start hfirst
  refine ⟨fun hright => ?_, fun hvisible => ?_⟩
  · have hdisplays : Displays .spd (session hash env₀ (pre ++ [.update env])).2 text := by
      rw [session_update, exec_snd, ← Update.spdText_of_stale text henv hm hvalue]
      exact displays_spd env _ h.displays
    have hdashes : ShowsDashes .spd (session hash env₀ (pre ++ [.update env])).2 := by
      rw [hdisplays.showsDashes_iff (by rw [h.length]; decide), htext, threeDigitsText_dashes_iff]
      exact .inl rfl
    exact henv (hright.1.mp hdashes)
  -- the flag is as `InitDatarefs` left it, so the start was in selected mode
  · have henv₀ : env₀.gSpdManagedDataref ≠ 0 := by
      rw [hm] at hm₀
      exact of_decide_eq_false hm₀.symm
    have htrunc : trunc (250 : ℚ) = 250 := trunc_intCast 250
    exact (hvisible henv).2 hfirst henv₀ (by rw [hvalue, h250, htrunc])

/-- A window that shows the cached mode and speed shows dashes for two reasons. -/
theorem SpdShown.showsDashes_iff {env : Datarefs} {w : SpdWindow}
    (h : SpdShown hash env₀ pre (Update.spd env w).text) :
    ShowsDashes .spd (session hash env₀ pre).2 ↔
      env.gSpdManagedDataref = 0 ∨ DashLike (trunc (Update.spd env w).spd) := by
  rw [h.displays.showsDashes_iff (by rw [h.length]; decide), SpdWindow.text,
    threeDigitsText_dashes_iff, Update.spd_spdManaged, decide_eq_true_eq]

/-- In selected mode its last frame is that of the cached speed. -/
theorem SpdShown.latest_of_selected {env : Datarefs} {w : SpdWindow}
    (h : SpdShown hash env₀ pre (Update.spd env w).text) (henv : env.gSpdManagedDataref ≠ 0) :
    latest (Effect.aims (.window .spd)) (session hash env₀ pre).2 =
      (updateSpd { Update.spd env w with spdManaged := false }
        (trunc (Update.spd env w).spd)).getLast? := by
  have hdisplays := h.displays
  rw [SpdWindow.text, Update.spd_spdManaged, decide_eq_false henv] at hdisplays
  rw [updateSpd_eq]
  exact hdisplays

/-- One update of the speed window. -/
theorem SpdShown.step (h : SpdShown hash env₀ pre text) (env : Datarefs) :
    (SpdRight hash env₀ pre env ↔ SpdVisible hash env₀ pre env) ∧
    (SpdRight hash env₀ pre env → ∃ text', SpdShown hash env₀ (pre ++ [.update env]) text') := by
  set w := (session hash env₀ pre).1.spd with hw
  -- the dashes of `Init` stay in one case only; in all others the text follows the cache
  by_cases hstale : BeforeUpdates pre ∧ env.gSpdManagedDataref ≠ 0 ∧ w.spdManaged = false ∧
      trunc w.spdSet = trunc w.spd
  · obtain ⟨hfirst, henv, hm, hvalue⟩ := hstale
    obtain ⟨hright, hvisible⟩ := h.stale hfirst henv hm hvalue
    exact ⟨iff_of_false hright hvisible, fun hr => absurd hr hright⟩
  · have hnext := h.refresh env fun henv hm hvalue =>
      h.later fun hfirst => hstale ⟨hfirst, henv, hm, hvalue⟩
    refine ⟨?_, fun _ => ⟨_, hnext⟩⟩
    have hstate : (session hash env₀ (pre ++ [.update env])).1.spd = Update.spd env w := by
      rw [session_update, exec_fst, update_spd, Update.spd]
    rw [SpdRight, hnext.showsDashes_iff, hstate]
    by_cases henv : env.gSpdManagedDataref = 0
    · simp [SpdVisible, henv]
    · -- a window that is not stale cannot have been selected from the start at 250
      have hnew : BeforeUpdates pre → env₀.gSpdManagedDataref ≠ 0 → trunc w.spdSet ≠ 250 := by
        intro hfirst henv₀ hvalue
        obtain ⟨_, h250, hm₀⟩ := h.start hfirst
        have htrunc : trunc (250 : ℚ) = 250 := trunc_intCast 250
        refine hstale ⟨hfirst, henv, ?_, ?_⟩
        · rw [hm₀, decide_eq_false_iff_not]
          exact henv₀
        · rw [hvalue, h250, htrunc]
      have hnumber := Update.trunc_spd henv w
      have hframe := hnext.latest_of_selected henv
      simp only [SpdVisible, ← hw, ← hnumber, henv, false_or, iff_false, ne_eq,
        not_false_eq_true, true_implies]
      exact ⟨fun hr => ⟨hr.1, hnew⟩, fun hv => ⟨hv.1, fun _ => hframe⟩⟩

/-- The speed window over a run. -/
theorem spdRight_iff (hash : Bytes → UInt64) (env₀ : Datarefs) (events : List Event) :
    AtUpdates (SpdRight hash env₀) events ↔ AtUpdates (SpdVisible hash env₀) events := by
  apply atUpdates_iff (I := fun pre => ∃ text, SpdShown hash env₀ pre text)
  · exact ⟨_, spdShown_start hash env₀⟩
  · rintro pre env recvbuf ⟨text, h⟩
    exact ⟨text, h.packet hash env₀ env recvbuf⟩
  · rintro pre env - ⟨text, h⟩
    exact (h.step env).1
  · rintro pre env - ⟨text, h⟩ hright
    exact (h.step env).2 hright

end Spd

/-! ## The heading window -/

section Hdg

variable (hash : Bytes → UInt64) (env₀ : Datarefs)

/-- The heading window is right after the update: dashes if and only if the heading is
managed. -/
def HdgRight (pre : List Event) (env : Datarefs) : Prop :=
  ShowsDashes .hdg (session hash env₀ (pre ++ [.update env])).2 ↔
    trunc env.gHdgManagedDataref = 0

/-- In selected mode, a heading to be pushed does not look like dashes; and if the heading was
selected at `InitDatarefs` already, the first update has a new heading to show. -/
def HdgVisible (pre : List Event) (env : Datarefs) : Prop :=
  let w := (session hash env₀ pre).1.hdg
  trunc env.gHdgManagedDataref ≠ 0 →
    (if trunc w.hdgSet ≠ trunc w.hdg then ¬ DashLike (trunc (w.hdgSet + 0.5))
      else w.hdgManaged = true → ¬ DashLike (trunc w.hdg)) ∧
    (BeforeUpdates pre → trunc env₀.gHdgManagedDataref ≠ 0 → trunc w.hdgSet ≠ 0)

/-- In managed mode the text becomes, or stays, dashes. -/
theorem Update.hdgText_of_managed {env : Datarefs} {w : HdgWindow} {text : Bytes}
    (hdashes : w.hdgManaged = true → text = threeDigitsText true 0)
    (henv : trunc env.gHdgManagedDataref = 0) :
    Update.hdgText env w text = threeDigitsText true 0 := by
  cases hm : w.hdgManaged with
  | true =>
    have htext := hdashes hm
    -- a new heading is shown as dashes too
    by_cases hvalue : trunc w.hdgSet = trunc w.hdg <;>
      simp [Update.hdgText, Update.hdgMode, threeDigitsText, henv, hm, hvalue, htext]
  | false =>
    by_cases hvalue : trunc w.hdgSet = trunc w.hdg <;>
      simp [Update.hdgText, Update.hdgMode, threeDigitsText, henv, hm, hvalue]

/-- In selected mode a new heading is shown rounded, and leaving managed mode shows the cached
heading truncated. -/
theorem Update.hdgText_of_selected {env : Datarefs} (w : HdgWindow) (text : Bytes)
    (henv : trunc env.gHdgManagedDataref ≠ 0) : Update.hdgText env w text =
      if trunc w.hdgSet ≠ trunc w.hdg then threeDigitsText false (trunc (w.hdgSet + 0.5))
      else if w.hdgManaged = true then threeDigitsText false (trunc w.hdg)
      else text := by
  cases hm : w.hdgManaged <;> simp [Update.hdgText, Update.hdgMode, henv, hm]

/-- What the heading window shows after some events: in managed mode dashes; in selected mode
something else, once an update has run; and the dashes of `Init` before. -/
structure HdgShown (pre : List Event) (text : Bytes) : Prop where
  displays : Displays .hdg (session hash env₀ pre).2 text
  length : text.length = 3
  dashes : (session hash env₀ pre).1.hdg.hdgManaged = true → text = threeDigitsText true 0
  start : BeforeUpdates pre → text = threeDigitsText true 0 ∧
    (session hash env₀ pre).1.hdg.hdg = 0 ∧
    (session hash env₀ pre).1.hdg.hdgManaged = decide (trunc env₀.gHdgManagedDataref = 0)
  later : ¬ BeforeUpdates pre → (session hash env₀ pre).1.hdg.hdgManaged = false →
    ¬ ∀ b ∈ text, b = 0x2d

theorem hdgShown_start : HdgShown hash env₀ [] (threeDigitsText true 0) where
  displays := displays_session_nil hash env₀ (framesFor_init _)
  length := by simp
  dashes _ := rfl
  start _ := by
    rw [session_nil, started_fst]
    exact ⟨rfl, rfl, rfl⟩
  later h := absurd beforeUpdates_nil h

variable {hash env₀} {pre : List Event} {text : Bytes}

theorem HdgShown.packet (h : HdgShown hash env₀ pre text) (env : Datarefs) (recvbuf : Bytes) :
    HdgShown hash env₀ (pre ++ [.packet env recvbuf]) text := by
  obtain ⟨_, _, _, _, _, _, hs⟩ := session_packet_dialled hash env₀ pre env recvbuf
  refine ⟨h.displays.packet env recvbuf, h.length, ?_, ?_, ?_⟩
  · rw [hs]
    exact h.dashes
  · rw [beforeUpdates_packet, hs]
    exact h.start
  · rw [beforeUpdates_packet, hs]
    exact h.later

/-- What the heading window shows after one update. -/
theorem HdgShown.displays_update (h : HdgShown hash env₀ pre text) (env : Datarefs) :
    let text' := Update.hdgText env (session hash env₀ pre).1.hdg text
    Displays .hdg (session hash env₀ (pre ++ [.update env])).2 text' ∧ text'.length = 3 := by
  constructor
  · rw [session_update, exec_snd]
    exact displays_hdg env _ h.displays
  · simp only [Update.hdgText]
    split_ifs
    · apply length_threeDigitsText
    · apply length_threeDigitsText
    · exact h.length

theorem HdgShown.right_iff (h : HdgShown hash env₀ pre text) (env : Datarefs) :
    HdgRight hash env₀ pre env ↔
      ((∀ b ∈ Update.hdgText env (session hash env₀ pre).1.hdg text, b = 0x2d) ↔
        trunc env.gHdgManagedDataref = 0) := by
  obtain ⟨hdisplays, hlength⟩ := h.displays_update env
  rw [HdgRight, hdisplays.showsDashes_iff (by rw [hlength]; decide)]

/-- A heading window that is selected before any update shows the dashes of `Init`. -/
theorem HdgShown.selected_from_start (h : HdgShown hash env₀ pre text)
    (hfirst : BeforeUpdates pre) (hm : (session hash env₀ pre).1.hdg.hdgManaged = false) :
    trunc env₀.gHdgManagedDataref ≠ 0 ∧ ∀ b ∈ text, b = 0x2d := by
  obtain ⟨htext, _, hm₀⟩ := h.start hfirst
  constructor
  · rw [hm] at hm₀
    exact of_decide_eq_false hm₀.symm
  · rw [htext, threeDigitsText_dashes_iff]
    exact .inl rfl

/-- The heading window is right after an update exactly if the heading is visible there. -/
theorem HdgShown.right_iff_visible (h : HdgShown hash env₀ pre text) (env : Datarefs) :
    HdgRight hash env₀ pre env ↔ HdgVisible hash env₀ pre env := by
  rw [h.right_iff env]
  set w := (session hash env₀ pre).1.hdg with hw
  -- managed mode is always right; in selected mode the text is a number, or left as it was
  by_cases henv : trunc env.gHdgManagedDataref = 0
  · rw [Update.hdgText_of_managed h.dashes henv, threeDigitsText_dashes_iff]
    simp [HdgVisible, henv]
  · rw [Update.hdgText_of_selected w text henv]
    simp only [HdgVisible, ← hw, henv, iff_false, ne_eq, not_false_eq_true, true_implies]
    by_cases hvalue : trunc w.hdgSet = trunc w.hdg
    · simp only [hvalue, not_true_eq_false, if_false]
      cases hm : w.hdgManaged with
      | true =>
        -- leaving managed mode
        have hselected : BeforeUpdates pre → ¬ trunc env₀.gHdgManagedDataref = 0 →
            ¬ trunc w.hdg = 0 := by
          intro hfirst henv₀
          have hm₀ := (h.start hfirst).2.2
          rw [← hw, hm, decide_eq_false henv₀] at hm₀
          cases hm₀
        simp only [if_true, threeDigitsText_dashes_iff, Bool.false_eq_true, false_or,
          true_implies]
        exact ⟨fun hn => ⟨hn, hselected⟩, fun hn => hn.1⟩
      | false =>
        -- nothing is pushed: right unless the dashes of the start are still there
        simp only [Bool.false_eq_true, if_false, false_implies, true_and]
        by_cases hfirst : BeforeUpdates pre
        · obtain ⟨henv₀, hall⟩ := h.selected_from_start hfirst hm
          refine iff_of_false (fun hn => hn hall) fun hn => hn hfirst henv₀ ?_
          rw [hw, (h.start hfirst).2.1, trunc_zero]
        · exact iff_of_true (h.later hfirst hm) fun hf => absurd hf hfirst
    · -- a new heading differs from the cached one, which is 0 at the start
      have hnew : BeforeUpdates pre → ¬ trunc env₀.gHdgManagedDataref = 0 →
          ¬ trunc w.hdgSet = 0 := by
        intro hfirst _ hzero
        apply hvalue
        rw [hzero, hw, (h.start hfirst).2.1, trunc_zero]
      simp only [hvalue, not_false_eq_true, if_true, threeDigitsText_dashes_iff,
        Bool.false_eq_true, false_or]
      exact ⟨fun hn => ⟨hn, hnew⟩, fun hn => hn.1⟩

/-- A right heading window shows in selected mode something else than dashes, from then on. -/
theorem HdgShown.update (h : HdgShown hash env₀ pre text) {env : Datarefs}
    (hright : HdgRight hash env₀ pre env) : HdgShown hash env₀ (pre ++ [.update env])
      (Update.hdgText env (session hash env₀ pre).1.hdg text) := by
  obtain ⟨hdisplays, hlength⟩ := h.displays_update env
  have hmode : (session hash env₀ (pre ++ [.update env])).1.hdg.hdgManaged =
      decide (trunc env.gHdgManagedDataref = 0) := by
    rw [session_update, exec_fst, update_hdg]
    simp
  refine ⟨hdisplays, hlength, ?_, ?_, ?_⟩
  · intro hm
    rw [hmode, decide_eq_true_eq] at hm
    exact Update.hdgText_of_managed h.dashes hm
  · exact fun hfirst => absurd hfirst (not_beforeUpdates_update pre env)
  · -- dashes in selected mode would not be right
    intro _ hm hall
    rw [hmode, decide_eq_false_iff_not] at hm
    exact hm (((h.right_iff env).mp hright).mp hall)

/-- The heading window over a run. -/
theorem hdgRight_iff (hash : Bytes → UInt64) (env₀ : Datarefs) (events : List Event) :
    AtUpdates (HdgRight hash env₀) events ↔ AtUpdates (HdgVisible hash env₀) events := by
  apply atUpdates_iff (I := fun pre => ∃ text, HdgShown hash env₀ pre text)
  · exact ⟨_, hdgShown_start hash env₀⟩
  · rintro pre env recvbuf ⟨text, h⟩
    exact ⟨text, h.packet env recvbuf⟩
  · rintro pre env - ⟨text, h⟩
    exact h.right_iff_visible env
  · rintro pre env - ⟨text, h⟩ hright
    exact ⟨_, h.update hright⟩

end Hdg

/-! ## The vertical-speed window -/

section Vs

variable (hash : Bytes → UInt64) (env₀ : Datarefs)

/-- The vertical-speed window is right after the update: dashes if and only if the vertical
speed is managed, and otherwise the selected-mode frame of the truncated dataref. -/
def VsRight (pre : List Event) (env : Datarefs) : Prop :=
  let c := session hash env₀ (pre ++ [.update env])
  (ShowsDashes .vs c.2 ↔ trunc env.gVsManagedDataref = 0) ∧
  (¬ ShowsDashes .vs c.2 → latest (Effect.aims (.window .vs)) c.2 =
    (updateVs { c.1.vs with vsManaged := false } (trunc env.gVsDataref)).getLast?)

/-- If the vertical speed was selected at `InitDatarefs` already, the first update has a new
vertical speed to show in selected mode. -/
def VsVisible (pre : List Event) (env : Datarefs) : Prop :=
  BeforeUpdates pre → trunc env₀.gVsManagedDataref ≠ 0 → trunc env.gVsManagedDataref ≠ 0 →
    trunc env.gVsDataref ≠ 0

/-- The text that belongs to the cached mode and vertical speed. -/
def VsWindow.text (w : VsWindow) : Bytes := vsText w.vsManaged w.vs

/-- The vertical-speed window after one update. -/
def Update.vs (env : Datarefs) (w : VsWindow) : VsWindow :=
  (Update.vsMode env (Update.vsValue env w).1).1

theorem Update.vs_text (env : Datarefs) (w : VsWindow) : (Update.vs env w).text =
    SkalarkiFcu.vsText (decide (trunc env.gVsManagedDataref = 0)) (trunc env.gVsDataref) := by
  simp [Update.vs, VsWindow.text]

/-- The window shows the cached mode and vertical speed after an update, unless it stays in
selected mode, has nothing new to show and was wrong before. -/
theorem Update.vsText_eq_text {env : Datarefs} {w : VsWindow} {text : Bytes}
    (hdashes : w.vsManaged = true → text = SkalarkiFcu.vsText true 0)
    (h : trunc env.gVsManagedDataref ≠ 0 → w.vsManaged = false → trunc env.gVsDataref = w.vs →
      text = w.text) : Update.vsText env w text = (Update.vs env w).text := by
  rw [Update.vs_text]
  unfold Update.vsText
  simp only [vsMode_vsManaged, vsMode_vs, vsValue_vs]
  by_cases henv : trunc env.gVsManagedDataref = 0
  · cases hm : w.vsManaged with
    | true => simp [henv, hdashes hm, SkalarkiFcu.vsText]
    | false => simp [henv]
  · cases hm : w.vsManaged with
    | true => simp [henv]
    | false =>
      -- selected before and now: only a new value is pushed
      by_cases hvalue : trunc env.gVsDataref = w.vs
      · simp [henv, hvalue, h henv hm hvalue, VsWindow.text, hm]
      · simp [henv, hvalue]

/-- What the vertical-speed window shows after some events. -/
structure VsShown (pre : List Event) (text : Bytes) : Prop where
  displays : Displays .vs (session hash env₀ pre).2 text
  length : text.length = 5
  dashes : (session hash env₀ pre).1.vs.vsManaged = true → text = vsText true 0
  start : BeforeUpdates pre → text = vsText true 0 ∧ (session hash env₀ pre).1.vs.vs = 0 ∧
    (session hash env₀ pre).1.vs.vsManaged = decide (trunc env₀.gVsManagedDataref = 0)
  later : ¬ BeforeUpdates pre → text = (session hash env₀ pre).1.vs.text

theorem vsShown_start : VsShown hash env₀ [] (vsText true 0) where
  displays := displays_session_nil hash env₀ (framesFor_init _)
  length := by simp
  dashes _ := rfl
  start _ := by
    rw [session_nil, started_fst]
    exact ⟨rfl, rfl, rfl⟩
  later h := absurd beforeUpdates_nil h

variable {hash env₀} {pre : List Event} {text : Bytes}

theorem VsShown.packet (h : VsShown hash env₀ pre text) (env : Datarefs) (recvbuf : Bytes) :
    VsShown hash env₀ (pre ++ [.packet env recvbuf]) text := by
  obtain ⟨_, _, _, _, _, _, hs⟩ := session_packet_dialled hash env₀ pre env recvbuf
  refine ⟨h.displays.packet env recvbuf, h.length, ?_, ?_, ?_⟩
  · rw [hs]
    exact h.dashes
  · rw [beforeUpdates_packet, hs]
    exact h.start
  · rw [beforeUpdates_packet, hs]
    exact h.later

/-- The window keeps the dashes of `Init` although the vertical speed is selected. -/
theorem VsShown.stale (h : VsShown hash env₀ pre text) {env : Datarefs}
    (hfirst : BeforeUpdates pre) (henv : trunc env.gVsManagedDataref ≠ 0)
    (hm : (session hash env₀ pre).1.vs.vsManaged = false)
    (hvalue : trunc env.gVsDataref = (session hash env₀ pre).1.vs.vs) :
    ¬ VsRight hash env₀ pre env ∧ ¬ VsVisible env₀ pre env := by
  obtain ⟨htext, hzero, hm₀⟩ := h.start hfirst
  refine ⟨fun hright => ?_, fun hvisible => ?_⟩
  · -- no part of the update has something to push
    have hkeep : Update.vsText env (session hash env₀ pre).1.vs text = text := by
      simp [Update.vsText, henv, hm, hvalue]
    have hdisplays : Displays .vs (session hash env₀ (pre ++ [.update env])).2 text := by
      rw [session_update, exec_snd, ← hkeep]
      exact displays_vs env _ h.displays
    have hdashes : ShowsDashes .vs (session hash env₀ (pre ++ [.update env])).2 := by
      rw [hdisplays.showsDashes_iff (by rw [h.length]; decide), htext, vsText_dashes_iff]
    exact henv (hright.1.mp hdashes)
  · -- the flag is as `InitDatarefs` left it, so the start was in selected mode
    have henv₀ : trunc env₀.gVsManagedDataref ≠ 0 := by
      rw [hm] at hm₀
      exact of_decide_eq_false hm₀.symm
    exact hvisible hfirst henv₀ henv (hvalue.trans hzero)

/-- A refreshed window shows the cached mode and vertical speed. -/
theorem VsShown.refresh (h : VsShown hash env₀ pre text) (env : Datarefs)
    (hfresh : let w := (session hash env₀ pre).1.vs
      trunc env.gVsManagedDataref ≠ 0 → w.vsManaged = false → trunc env.gVsDataref = w.vs →
        text = w.text) :
    VsShown hash env₀ (pre ++ [.update env])
      (Update.vs env (session hash env₀ pre).1.vs).text := by
  have hstate : (session hash env₀ (pre ++ [.update env])).1.vs =
      Update.vs env (session hash env₀ pre).1.vs := by
    rw [session_update, exec_fst, update_vs, Update.vs]
  refine ⟨?_, by simp [VsWindow.text], ?_, ?_, ?_⟩
  · rw [session_update, exec_snd, ← Update.vsText_eq_text h.dashes hfresh]
    exact displays_vs env _ h.displays
  · intro hm
    rw [hstate] at hm
    rw [VsWindow.text, hm]
    rfl
  · exact fun hfirst => absurd hfirst (not_beforeUpdates_update pre env)
  · intro _
    rw [hstate]

/-- A window that shows what an update has cached is right. -/
theorem VsShown.right {env : Datarefs} {w : VsWindow}
    (h : VsShown hash env₀ (pre ++ [.update env]) (Update.vs env w).text) :
    VsRight hash env₀ pre env := by
  have hmode : (Update.vs env w).vsManaged = decide (trunc env.gVsManagedDataref = 0) := by
    simp [Update.vs]
  have hdashes : ShowsDashes .vs (session hash env₀ (pre ++ [.update env])).2 ↔
      trunc env.gVsManagedDataref = 0 := by
    -- the text has dashes only if the cached mode is managed
    rw [h.displays.showsDashes_iff (by rw [h.length]; decide), VsWindow.text,
      vsText_dashes_iff, hmode, decide_eq_true_eq]
  refine ⟨hdashes, fun hn => ?_⟩
  have hdisplays := h.displays
  rw [Update.vs_text, decide_eq_false (hdashes.not.mp hn)] at hdisplays
  rw [updateVs_eq]
  exact hdisplays

/-- One update of the vertical-speed window. -/
theorem VsShown.step (h : VsShown hash env₀ pre text) (env : Datarefs) :
    (VsRight hash env₀ pre env ↔ VsVisible env₀ pre env) ∧
    (VsRight hash env₀ pre env → ∃ text', VsShown hash env₀ (pre ++ [.update env]) text') := by
  set w := (session hash env₀ pre).1.vs with hw
  -- the dashes of `Init` stay in one case only; in all others the text follows the cache
  by_cases hstale : BeforeUpdates pre ∧ trunc env.gVsManagedDataref ≠ 0 ∧
      w.vsManaged = false ∧ trunc env.gVsDataref = w.vs
  · obtain ⟨hfirst, henv, hm, hvalue⟩ := hstale
    obtain ⟨hright, hvisible⟩ := h.stale hfirst henv hm hvalue
    exact ⟨iff_of_false hright hvisible, fun hr => absurd hr hright⟩
  · have hnext := h.refresh env fun henv hm hvalue =>
      h.later fun hfirst => hstale ⟨hfirst, henv, hm, hvalue⟩
    refine ⟨iff_of_true hnext.right ?_, fun _ => ⟨_, hnext⟩⟩
    intro hfirst henv₀ henv hzero
    obtain ⟨_, hvs, hm₀⟩ := h.start hfirst
    rw [decide_eq_false henv₀] at hm₀
    exact hstale ⟨hfirst, henv, hm₀, hzero.trans hvs.symm⟩

/-- The vertical-speed window over a run. -/
theorem vsRight_iff (hash : Bytes → UInt64) (env₀ : Datarefs) (events : List Event) :
    AtUpdates (VsRight hash env₀) events ↔ AtUpdates (VsVisible env₀) events := by
  apply atUpdates_iff (I := fun pre => ∃ text, VsShown hash env₀ pre text)
  · exact ⟨_, vsShown_start hash env₀⟩
  · rintro pre env recvbuf ⟨text, h⟩
    exact ⟨text, h.packet env recvbuf⟩
  · rintro pre env - ⟨text, h⟩
    exact (h.step env).1
  · rintro pre env - ⟨text, h⟩ hright
    exact (h.step env).2 hright

end Vs

/-! ## All three windows -/

theorem atUpdates_and (Q R : List Event → Datarefs → Prop) (events : List Event) :
    AtUpdates (fun pre env => Q pre env ∧ R pre env) events ↔
      AtUpdates Q events ∧ AtUpdates R events := by
  constructor
  · intro h
    exact ⟨fun pre env he => (h pre env he).1, fun pre env he => (h pre env he).2⟩
  · rintro ⟨hQ, hR⟩ pre env he
    exact ⟨hQ pre env he, hR pre env he⟩

/-- The three windows are right after the update. -/
def WindowsRight (hash : Bytes → UInt64) (env₀ : Datarefs) (pre : List Event)
    (env : Datarefs) : Prop :=
  SpdRight hash env₀ pre env ∧ HdgRight hash env₀ pre env ∧ VsRight hash env₀ pre env

/-- What the three windows need to be right after an update. -/
def WindowsVisible (hash : Bytes → UInt64) (env₀ : Datarefs) (pre : List Event)
    (env : Datarefs) : Prop :=
  SpdVisible hash env₀ pre env ∧ HdgVisible hash env₀ pre env ∧ VsVisible env₀ pre env

/-- **The windows over a run**: they are right after every update if and only if every number
to be shown is visible, and a window that was selected from the start has a new number to show
at the first update. -/
theorem windowsRight_iff (hash : Bytes → UInt64) (env₀ : Datarefs) (events : List Event) :
    AtUpdates (WindowsRight hash env₀) events ↔ AtUpdates (WindowsVisible hash env₀) events := by
  unfold WindowsRight WindowsVisible
  rw [atUpdates_and, atUpdates_and, atUpdates_and, atUpdates_and, spdRight_iff, hdgRight_iff,
    vsRight_iff]

/-- Vertical speed 0, selected from the start: the window keeps the dashes of `Init`. -/
theorem windowsRight_selected_vs :
    ¬ ∀ (hash : Bytes → UInt64) (env₀ : Datarefs) (events : List Event),
      AtUpdates (WindowsRight hash env₀) events := by
  intro h
  have hselected : trunc (1 : ℚ) ≠ 0 := by decide +kernel
  have hright := h fnv1a { Datarefs.zero with gVsManagedDataref := 1 }
    [.update { Datarefs.zero with gVsManagedDataref := 1 }] []
    { Datarefs.zero with gVsManagedDataref := 1 } List.prefix_rfl
  obtain ⟨_, _, hm₀⟩ := (vsShown_start fnv1a
    { Datarefs.zero with gVsManagedDataref := 1 }).start beforeUpdates_nil
  refine ((vsShown_start fnv1a _).stale beforeUpdates_nil hselected ?_ ?_).1 hright.2.2
  · -- selected at `InitDatarefs`
    rw [hm₀]
    exact decide_eq_false hselected
  · -- and 0 as in `Init`
    rw [((vsShown_start fnv1a _).start beforeUpdates_nil).2.1]
    exact trunc_zero

end SkalarkiFcu
