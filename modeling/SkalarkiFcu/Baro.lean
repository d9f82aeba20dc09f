import SkalarkiFcu.Dispatch

/-!
# The barometer windows

The two barometers run the same code on their own globals, datarefs and buffers. `baroText` is
what a window should say about a reading, in terms of rounding and decimal digits. A window
shows it after every update, because the display cache holds 0 whenever the unit or STD has
changed, and no displayed setting is 0. The start is different: `BaroCptStd` is 1 before
anything has been shown, so that an aircraft that starts in STD keeps the setting of `Init` on
its window.

## Architecture

- **Specification**: `baroText`, and the digits of the encoders for nonnegative numbers
- **The parts of the update**: what `baroUnit`, `baroStd` and `baroSetting` do
- **Runs**: `BaroShown` and `baroRight_iff`
-/

namespace SkalarkiFcu

open LittleEndian Reactive Truncation

/-! ## Specification -/

/-- The ASCII character of the last decimal digit. -/
def decimalDigit (n : ℕ) : UInt8 := UInt8.ofNat (0x30 + n % 10)

/-- The last four decimal digits. -/
def fourDigits (n : ℕ) : Bytes :=
  [decimalDigit (n / 1000), decimalDigit (n / 100), decimalDigit (n / 10), decimalDigit n]

/-- The last four decimal digits, with a point in the middle. -/
def twoDecimals (n : ℕ) : Bytes :=
  [decimalDigit (n / 1000), decimalDigit (n / 100), 0x2e, decimalDigit (n / 10), decimalDigit n]

/-- The integer that a barometer displays: hundredths of inHg, or hPa. -/
def BaroDatarefs.displayed (d : BaroDatarefs) : ℤ :=
  if d.mode = 0 then round (d.setting * 100) else round (d.setting * 33.863889532610884)

/-- What the window of a barometer should say. -/
def baroText (d : BaroDatarefs) : Bytes :=
  if d.std = 1 then stdText
  else if d.mode = 0 then twoDecimals d.displayed.toNat
  else fourDigits d.displayed.toNat

/-- The readings of a barometer: two switches, and a positive pressure that does not display as
0. -/
structure BaroDatarefs.Valid (d : BaroDatarefs) : Prop where
  std : d.std = 0 ∨ d.std = 1
  mode : d.mode = 0 ∨ d.mode = 1
  setting : 0 < d.setting
  displayed : d.displayed ≠ 0

theorem digitChar_eq_decimalDigit (n : ℕ) : digitChar ((n : ℤ).tmod 10) = decimalDigit n := by
  have hmod : (n : ℤ).tmod 10 = ((n % 10 : ℕ) : ℤ) := (Int.ofNat_tmod n 10).symm
  rw [digitChar, hmod, UInt8.ofInt, decimalDigit]
  congr 1
  omega

theorem hPaText_natCast (n : ℕ) : hPaText n = fourDigits n := by
  have hdiv : ∀ m : ℕ, (n : ℤ).tdiv m = ((n / m : ℕ) : ℤ) := fun m => (Int.ofNat_tdiv n m).symm
  have h1000 := hdiv 1000
  have h100 := hdiv 100
  have h10 := hdiv 10
  push_cast at h1000 h100 h10
  simp only [hPaText, h1000, h100, h10, fourDigits, ← digitChar_eq_decimalDigit]
  norm_cast

theorem inHgText_natCast (n : ℕ) : inHgText n = twoDecimals n := by
  have h := hPaText_natCast n
  simp only [hPaText, fourDigits, List.cons.injEq, and_true] at h
  obtain ⟨h1000, h100, h10, h1⟩ := h
  simp only [inHgText, twoDecimals, h1000, h100, h10, h1]

/-- The text of the encoders for the displayed integer. -/
def displayText (mode n : ℤ) : Bytes := if mode = 0 then inHgText n else hPaText n

theorem length_displayText (mode n : ℤ) : (displayText mode n).length < 256 := by
  unfold displayText
  split <;> simp

namespace BaroDatarefs.Valid

variable {d : BaroDatarefs} (h : d.Valid)

include h

theorem trunc_std : trunc d.std = if d.std = 1 then 1 else 0 := by
  have hone : trunc (1 : ℚ) = 1 := trunc_intCast 1
  rcases h.std with hs | hs <;> simp [hs, hone]

theorem trunc_mode : trunc d.mode = 0 ↔ d.mode = 0 := by
  have hone : trunc (1 : ℚ) = 1 := trunc_intCast 1
  rcases h.mode with hm | hm <;> simp [hm, hone]

theorem displayed_nonneg : 0 ≤ d.displayed := by
  have hsetting := h.setting
  unfold BaroDatarefs.displayed
  split <;> rw [round_eq] <;> positivity

/-- The text of the encoders is the one that the window should say. -/
theorem displayText_eq (hstd : d.std ≠ 1) :
    displayText (trunc d.mode) d.displayed = baroText d := by
  -- on nonnegative numbers the truncating division of the encoders is that of the digits
  obtain ⟨n, hn⟩ := Int.eq_ofNat_of_zero_le h.displayed_nonneg
  rw [displayText, baroText, if_neg hstd, hn, hPaText_natCast, inHgText_natCast]
  simp [h.trunc_mode]

end BaroDatarefs.Valid

/-! ## The parts of the update -/

namespace Update

variable (d : BaroDatarefs) (b : Baro)

@[simp] theorem baroUnit_baroMode : (baroUnit d b).baroMode = trunc d.mode := by
  by_cases h : b.baroMode = trunc d.mode <;> cases hv : b.updateBaroValue <;>
    simp [baroUnit, baroValue, baroMode, h, hv]

@[simp] theorem baroUnit_baroStd : (baroUnit d b).baroStd = b.baroStd := by
  by_cases h : b.baroMode = trunc d.mode <;> cases hv : b.updateBaroValue <;>
    simp [baroUnit, baroValue, baroMode, h, hv]

/-- A turn of the unit knob empties the display cache. -/
@[simp] theorem baroUnit_baroDisplay :
    (baroUnit d b).baroDisplay = if b.baroMode = trunc d.mode then b.baroDisplay else 0 := by
  by_cases h : b.baroMode = trunc d.mode <;> cases hv : b.updateBaroValue <;>
    simp [baroUnit, baroValue, baroMode, h, hv]

variable (bufs : BaroBuffers)

/-- In STD the window is told once, and the setting is left alone. -/
theorem baro_of_std (h : trunc d.std = 1) :
    (baro bufs d b).1.baroStd = 1 ∧
    (baro bufs d b).2 = if b.baroStd = 1 then [] else setBaroStd bufs := by
  by_cases hb : b.baroStd = 1 <;> simp [baro, baroStd, baroSetting, h, hb]

/-- The integer that the setting part compares with the cached one. -/
def baroDisplayNew (mode : ℤ) : ℤ :=
  if mode = 0 then trunc ((d.setting + 0.005) * 100) else trunc (d.setting * inHgToHpa + 0.5)

/-- Outside STD the setting is refreshed when its integer differs from the cached one. -/
theorem baroSetting_for {w : Window} (hbufs : bufs.For w) :
    baroSetting bufs d b =
      if b.baroStd = 0 ∧ b.baroDisplay ≠ baroDisplayNew d b.baroMode then
        ({ b with baroDisplay := baroDisplayNew d b.baroMode },
          [.push (w.frame (displayText b.baroMode (baroDisplayNew d b.baroMode)))])
      else (b, []) := by
  by_cases hstd : b.baroStd = 0
  · by_cases hm : b.baroMode = 0
    · -- in inHg the cached integer goes through a division and a product by 100
      have hundredths : ∀ n : ℤ, trunc ((n : ℚ) / 100 * 100) = n := by
        intro n
        rw [div_mul_cancel₀ _ (by norm_num), trunc_intCast]
      have hpush := fun n : ℤ => hbufs.inHg { b with baroDisplay := n } (n / 100) hm
      simp only [hundredths] at hpush
      rw [baroSetting, if_pos hstd, if_pos hm]
      simp only [baroDisplayNew, displayText, if_pos hm, and_iff_right hstd, hpush]
    · -- in hPa the integer is shown as it is
      have hpush := fun n : ℤ => hbufs.hPa { b with baroDisplay := n } n hm
      simp only [trunc_intCast] at hpush
      rw [baroSetting, if_pos hstd, if_neg hm]
      simp only [baroDisplayNew, displayText, if_neg hm, and_iff_right hstd, hpush]
  · simp [baroSetting, hstd]

variable {d}

/-- The integer of a valid reading is the one that should be displayed. -/
theorem baroDisplayNew_of_valid (hd : d.Valid) :
    baroDisplayNew d (trunc d.mode) = d.displayed := by
  have hsetting := hd.setting.le
  by_cases h0 : d.mode = 0
  · -- adding a half before truncating rounds, since the setting is positive
    rw [baroDisplayNew, if_pos (hd.trunc_mode.mpr h0), BaroDatarefs.displayed, if_pos h0,
      ← trunc_add_half (by positivity)]
    congr 1
    ring
  · rw [baroDisplayNew, if_neg (hd.trunc_mode.not.mpr h0), BaroDatarefs.displayed, if_neg h0,
      ← trunc_add_half (by positivity)]
    congr 1
    norm_num [inHgToHpa]

/-- The setting is refreshed when the displayed integer differs from the cached one. -/
theorem baroSetting_of_setting (hd : d.Valid) {w : Window} (hbufs : bufs.For w)
    (hstd : b.baroStd = 0) (hmode : b.baroMode = trunc d.mode) :
    baroSetting bufs d b = if b.baroDisplay = d.displayed then (b, []) else
      ({ b with baroDisplay := d.displayed },
        [.push (w.frame (displayText b.baroMode d.displayed))]) := by
  have hnew : baroDisplayNew d b.baroMode = d.displayed := by
    rw [hmode, baroDisplayNew_of_valid hd]
  simp only [baroSetting_for d b bufs hbufs, hnew, hstd, true_and, ne_eq, ite_not]

/-- Outside STD the display cache holds the displayed integer afterwards, and a frame is pushed
unless it was there before, in the same unit and outside STD. -/
theorem baro_of_setting (hd : d.Valid) (h : trunc d.std = 0) {w : Window} (hbufs : bufs.For w) :
    (baro bufs d b).1.baroStd = 0 ∧ (baro bufs d b).1.baroMode = trunc d.mode ∧
    (baro bufs d b).1.baroDisplay = d.displayed ∧
    (baro bufs d b).2 =
      if b.baroStd = 0 ∧ b.baroMode = trunc d.mode ∧ b.baroDisplay = d.displayed then []
      else [.push (w.frame (displayText (trunc d.mode) d.displayed))] := by
  -- after the STD knob: outside STD, with an empty cache if anything has changed
  obtain ⟨b', hstep, hstd, hmode, hdisplay⟩ : ∃ b', baroStd bufs d (baroUnit d b) = (b', []) ∧
      b'.baroStd = 0 ∧ b'.baroMode = trunc d.mode ∧
      b'.baroDisplay = if b.baroStd = 0 ∧ b.baroMode = trunc d.mode then b.baroDisplay else 0 := by
    by_cases hb : b.baroStd = 0 <;> by_cases hm : b.baroMode = trunc d.mode <;>
      simp [baroStd, h, hb, hm]
  have hbaro : baro bufs d b = baroSetting bufs d b' := by
    simp [baro, hstep, Action.seq]
  rw [hbaro, baroSetting_of_setting b' bufs hd hbufs hstd hmode]
  have hcached : b'.baroDisplay = d.displayed ↔
      b.baroStd = 0 ∧ b.baroMode = trunc d.mode ∧ b.baroDisplay = d.displayed := by
    rw [hdisplay]
    by_cases hsame : b.baroStd = 0 ∧ b.baroMode = trunc d.mode
    · simp [hsame]
    · rw [if_neg hsame]
      exact iff_of_false (Ne.symm hd.displayed) fun hall => hsame ⟨hall.1, hall.2.1⟩
  by_cases hc : b'.baroDisplay = d.displayed
  · simp [hc, hstd, hmode, hcached.mp hc]
  · rw [if_neg hc, if_neg (hcached.not.mp hc)]
    exact ⟨hstd, hmode, rfl, by rw [hmode]⟩

end Update

/-! ## Runs -/

/-- The two barometers. -/
inductive Side where
  | cpt | fo
  deriving DecidableEq, Repr

namespace Side

def window : Side → Window
  | .cpt => .baroCpt
  | .fo => .baroFo

def buffers : Side → BaroBuffers
  | .cpt => sendbufBaroLeft
  | .fo => sendBufBaroRight

def datarefs : Side → Datarefs → BaroDatarefs
  | .cpt => Datarefs.baroCpt
  | .fo => Datarefs.baroFo

def baro : Side → Globals → Baro
  | .cpt => Globals.baroCpt
  | .fo => Globals.baroFo

theorem buffers_for (side : Side) : side.buffers.For side.window := by
  cases side with
  | cpt => exact sendbufBaroLeft_for
  | fo => exact sendBufBaroRight_for

theorem baro_update (side : Side) (env : Datarefs) (s : Globals) :
    side.baro (update env s).1 =
      (Update.baro side.buffers (side.datarefs env) (side.baro s)).1 := by
  cases side with
  | cpt => exact update_baroCpt env s
  | fo => exact update_baroFo env s

theorem framesFor_update (side : Side) (env : Datarefs) (s : Globals) :
    framesFor (.window side.window) (update env s).2 =
      framesFor (.window side.window)
        (Update.baro side.buffers (side.datarefs env) (side.baro s)).2 := by
  cases side with
  | cpt => exact framesFor_update_baroCpt env s
  | fo => exact framesFor_update_baroFo env s

end Side

section Runs

variable (hash : Bytes → UInt64) (env₀ : Datarefs)

/-- What a barometer window shows after some events: the text of the cached mode and setting,
once an update has run, and the setting of `Init` before. -/
structure BaroShown (side : Side) (pre : List Event) (text : Bytes) : Prop where
  displays : Displays side.window (session hash env₀ pre).2 text
  start : BeforeUpdates pre → text = inHgText (trunc ((29.92 : ℚ) * 100)) ∧
    (side.baro (session hash env₀ pre).1).baroStd = 1
  later : ¬ BeforeUpdates pre →
    ((side.baro (session hash env₀ pre).1).baroStd = 1 ∧ text = stdText) ∨
    ((side.baro (session hash env₀ pre).1).baroStd = 0 ∧
      text = displayText (side.baro (session hash env₀ pre).1).baroMode
        (side.baro (session hash env₀ pre).1).baroDisplay)

variable {hash env₀} {side : Side} {pre : List Event} {text : Bytes}

theorem BaroShown.packet (h : BaroShown hash env₀ side pre text) (env : Datarefs)
    (recvbuf : Bytes) : BaroShown hash env₀ side (pre ++ [.packet env recvbuf]) text := by
  obtain ⟨_, _, _, _, _, _, hs⟩ := session_packet_dialled hash env₀ pre env recvbuf
  have hbaro : side.baro (session hash env₀ (pre ++ [.packet env recvbuf])).1 =
      side.baro (session hash env₀ pre).1 := by
    -- no handler has to do with the barometers
    rw [hs]
    cases side <;> rfl
  refine ⟨h.displays.packet env recvbuf, ?_, ?_⟩
  · rw [beforeUpdates_packet, hbaro]
    exact h.start
  · rw [beforeUpdates_packet, hbaro]
    exact h.later

theorem baro_session_update (side : Side) (pre : List Event) (env : Datarefs) :
    side.baro (session hash env₀ (pre ++ [.update env])).1 =
      (Update.baro side.buffers (side.datarefs env) (side.baro (session hash env₀ pre).1)).1 := by
  rw [session_update, exec_fst, side.baro_update]

theorem framesFor_baro_session_update (side : Side) (pre : List Event) (env : Datarefs) :
    framesFor (.window side.window) (session hash env₀ (pre ++ [.update env])).2 =
      framesFor (.window side.window) (session hash env₀ pre).2 ++
        framesFor (.window side.window)
          (Update.baro side.buffers (side.datarefs env) (side.baro (session hash env₀ pre).1)).2 := by
  rw [framesFor_session_update, side.framesFor_update]

/-- Outside STD, the text is that of the cache: the start is in STD. -/
theorem BaroShown.text_of_setting (h : BaroShown hash env₀ side pre text)
    (hstd : (side.baro (session hash env₀ pre).1).baroStd = 0) :
    text = displayText (side.baro (session hash env₀ pre).1).baroMode
      (side.baro (session hash env₀ pre).1).baroDisplay := by
  have hne : (side.baro (session hash env₀ pre).1).baroStd ≠ 1 := by
    rw [hstd]
    exact zero_ne_one
  have hlater : ¬ BeforeUpdates pre := fun hfirst => hne (h.start hfirst).2
  rcases h.later hlater with ⟨hone, _⟩ | ⟨_, htext⟩
  · exact absurd hone hne
  · exact htext

/-- An update in STD, but not the first one, leaves ` Std` on the window. -/
theorem BaroShown.step_std (h : BaroShown hash env₀ side pre text) {env : Datarefs}
    (hd : (side.datarefs env).Valid) (hstd : (side.datarefs env).std = 1)
    (hlater : ¬ BeforeUpdates pre) :
    BaroShown hash env₀ side (pre ++ [.update env]) (baroText (side.datarefs env)) := by
  have htrunc : trunc (side.datarefs env).std = 1 := by rw [hd.trunc_std, if_pos hstd]
  obtain ⟨hstd', hpush⟩ := Update.baro_of_std (side.datarefs env)
    (side.baro (session hash env₀ pre).1) side.buffers htrunc
  have htext : baroText (side.datarefs env) = stdText := if_pos hstd
  refine ⟨?_, fun hfirst => absurd hfirst (not_beforeUpdates_update pre env), fun _ => .inl ?_⟩
  · have hdisplays := h.displays
    rw [displays_iff] at hdisplays ⊢
    rw [framesFor_baro_session_update, hpush, htext]
    -- a frame is needed only if the cache was not in STD
    rcases h.later hlater with ⟨hone, hold⟩ | ⟨hzero, _⟩
    · rw [if_pos hone, ← hold]
      simpa [framesFor] using hdisplays
    · rw [if_neg (by rw [hzero]; exact zero_ne_one), side.buffers_for.std]
      simp [framesFor]
  · rw [baro_session_update, hstd']
    exact ⟨rfl, htext⟩

/-- An update outside STD leaves the setting on the window. -/
theorem BaroShown.step_setting (h : BaroShown hash env₀ side pre text) {env : Datarefs}
    (hd : (side.datarefs env).Valid) (hstd : (side.datarefs env).std ≠ 1) :
    BaroShown hash env₀ side (pre ++ [.update env]) (baroText (side.datarefs env)) := by
  set b := side.baro (session hash env₀ pre).1 with hb
  set d := side.datarefs env with hdef
  have htrunc : trunc d.std = 0 := by rw [hd.trunc_std, if_neg hstd]
  obtain ⟨hstd', hmode', hdisplay', hpush⟩ :=
    Update.baro_of_setting b side.buffers hd htrunc side.buffers_for
  have htext := hd.displayText_eq hstd
  refine ⟨?_, fun hfirst => absurd hfirst (not_beforeUpdates_update pre env), fun _ => .inr ?_⟩
  · have hdisplays := h.displays
    have hlen := length_displayText (trunc d.mode) d.displayed
    rw [displays_iff] at hdisplays ⊢
    rw [framesFor_baro_session_update, ← hb, ← hdef, hpush, ← htext]
    -- a frame is needed only if the cache differs
    by_cases hsame : b.baroStd = 0 ∧ b.baroMode = trunc d.mode ∧ b.baroDisplay = d.displayed
    · rw [if_pos hsame, ← hsame.2.1, ← hsame.2.2, hb, ← h.text_of_setting hsame.1]
      simpa [framesFor] using hdisplays
    · rw [if_neg hsame]
      simp [framesFor, hlen]
  · rw [baro_session_update, ← hb, ← hdef, hstd', hmode', hdisplay', htext]
    exact ⟨rfl, rfl⟩

/-- One update of a barometer window: unless the first one finds STD, the window says what it
should. -/
theorem BaroShown.step (h : BaroShown hash env₀ side pre text) {env : Datarefs}
    (hd : (side.datarefs env).Valid)
    (hstart : BeforeUpdates pre → (side.datarefs env).std ≠ 1) :
    BaroShown hash env₀ side (pre ++ [.update env]) (baroText (side.datarefs env)) := by
  by_cases hstd : (side.datarefs env).std = 1
  · exact h.step_std hd hstd fun hfirst => hstart hfirst hstd
  · exact h.step_setting hd hstd

/-- A window that finds STD at the first update keeps the setting of `Init`. -/
theorem BaroShown.stale (h : BaroShown hash env₀ side pre text) {env : Datarefs}
    (hfirst : BeforeUpdates pre) (hstd : (side.datarefs env).std = 1) :
    shownText side.window (session hash env₀ (pre ++ [.update env])).2 ≠
      some (baroText (side.datarefs env)) := by
  obtain ⟨htext, hone⟩ := h.start hfirst
  have htrunc : trunc (side.datarefs env).std = 1 := by
    rw [hstd]
    exact trunc_intCast 1
  have hpush := (Update.baro_of_std _ (side.baro (session hash env₀ pre).1) side.buffers htrunc).2
  -- `baroStd` is 1 from the start, so the knob looks unchanged and nothing is pushed
  rw [if_pos hone] at hpush
  have hdisplays : Displays side.window (session hash env₀ (pre ++ [.update env])).2 text := by
    have hold := h.displays
    rw [displays_iff] at hold ⊢
    rw [framesFor_session_update, side.framesFor_update, hpush]
    simpa [framesFor] using hold
  rw [shownText, hdisplays, Option.bind_some, text_frame _ (by rw [htext]; simp), htext, baroText,
    if_pos hstd]
  -- the text of `Init` has five characters, that of STD four
  intro heq
  have := congrArg (Option.map List.length) heq
  simp at this

end Runs

/-! ### The standard atmosphere -/

end SkalarkiFcu
