import SkalarkiFcu.Encoders

/-!
# Where frames go

Every frame that the plugin pushes aims at one target at most: a display frame at its window,
an annunciator or dot frame at its lamp, and the backlight frames at none of them. With these
lemmas the filters `Effect.aims` compute, and the bytes are not needed any more.
-/

namespace SkalarkiFcu

open LittleEndian Reactive

/-! ## Display frames -/

theorem Window.ids_lt (w : Window) : ∀ i ∈ w.ids, i < 2 ^ 32 := by
  cases w <;> decide

theorem Window.length_ids (w : Window) : w.ids.length < 256 := by
  cases w <;> decide

theorem Window.length_name (w : Window) : w.name.length < 256 := by
  cases w <;> decide

theorem Window.device_lt (w : Window) : w.device < 2 ^ 32 := by
  cases w <;> decide

theorem Window.display_fits (w : Window) {text : Bytes} (h : text.length < 256) :
    (w.display text).Fits :=
  ⟨w.ids_lt, w.length_ids, w.length_name, w.device_lt, h⟩

theorem Window.frame_message (w : Window) (text : Bytes) :
    (w.frame text).message = (w.display text).bytes := Frame.message_eq_literal rfl

theorem Window.readDisplayFrame_frame (w : Window) {text : Bytes} (h : text.length < 256) :
    readDisplayFrame (w.frame text).message = some (w.display text) := by
  rw [w.frame_message, readDisplayFrame_bytes (w.display_fits h)]

/-- Two windows differ in name or device. -/
theorem Window.owns_display (w w' : Window) (text : Bytes) :
    w.owns (w'.display text) = decide (w = w') := by
  cases w <;> cases w' <;> rfl

@[simp] theorem aims_frame (t : Target) (w : Window) {text : Bytes} (h : text.length < 256) :
    Effect.aims t (.push (w.frame text)) = decide (t = .window w) := by
  cases t with
  | window w' =>
    simp only [Effect.aims, w.readDisplayFrame_frame h, Option.any_some, Window.owns_display,
      Target.window.injEq]
  | lamp l =>
    simp [Effect.aims, w.frame_message, readLampFrame_bytes (w.display_fits h)]

theorem text_frame (w : Window) {text : Bytes} (h : text.length < 256) :
    Effect.text (.push (w.frame text)) = some text := by
  rw [Effect.text, w.readDisplayFrame_frame h]
  rfl

/-- A display frame declares its own length. -/
theorem Window.wellFramed_frame (w : Window) {text : Bytes} (h : text.length < 256) :
    WellFramed (w.frame text).message := by
  have hfits := w.display_fits h
  have hcount := hfits.count
  have hname := hfits.name
  have htext := hfits.text
  -- both lengths are sums over the parts, and they differ by the overhead
  rw [WellFramed, declaredLength, w.frame_message, DisplayFrame.length_bytes,
    DisplayFrame.bytes, readWord_le32 (by omega), Option.map_some]
  congr 1
  omega

/-! ## Lamp frames -/

theorem Lamp.owns_address (l l' : Lamp) (on : UInt8) :
    l.owns ⟨on, l'.address.2, l'.address.1⟩ = decide (l = l') := by
  rcases l with k | d <;> rcases l' with k' | d'
  · cases k <;> cases k' <;> rfl
  · cases k <;> cases d' <;> rfl
  · cases d <;> cases k' <;> rfl
  · cases d <;> cases d' <;> rfl

/-- A frame for one lamp: it reads as a lamp frame with the address of the lamp, and not as a
display frame. -/
structure Lamp.Switches (l : Lamp) (on : UInt8) (f : Frame) : Prop where
  lamp : readLampFrame f.message = some ⟨on, l.address.2, l.address.1⟩
  display : readDisplayFrame f.message = none

theorem Annunciator.onFrame_switches (k : Annunciator) :
    (Lamp.annunciator k).Switches 1 k.onFrame := by
  cases k <;> exact ⟨by decide, by decide⟩

theorem Annunciator.offFrame_switches (k : Annunciator) :
    (Lamp.annunciator k).Switches 0 k.offFrame := by
  cases k <;> exact ⟨by decide, by decide⟩

theorem Dot.onFrame_switches (d : Dot) : (Lamp.dot d).Switches 1 d.onFrame := by
  cases d <;> exact ⟨by decide, by decide⟩

theorem Dot.offFrame_switches (d : Dot) : (Lamp.dot d).Switches 0 d.offFrame := by
  cases d <;> exact ⟨by decide, by decide⟩

theorem Lamp.Switches.aims {l : Lamp} {on : UInt8} {f : Frame} (h : l.Switches on f)
    (t : Target) : Effect.aims t (.push f) = decide (t = .lamp l) := by
  cases t with
  | window w => simp [Effect.aims, h.display]
  | lamp l' =>
    simp only [Effect.aims, h.lamp, Option.any_some, Lamp.owns_address, Target.lamp.injEq]

@[simp] theorem aims_annunciator_on (t : Target) (k : Annunciator) :
    Effect.aims t (.push k.onFrame) = decide (t = .lamp (.annunciator k)) :=
  k.onFrame_switches.aims t

@[simp] theorem aims_annunciator_off (t : Target) (k : Annunciator) :
    Effect.aims t (.push k.offFrame) = decide (t = .lamp (.annunciator k)) :=
  k.offFrame_switches.aims t

@[simp] theorem aims_dot_on (t : Target) (d : Dot) :
    Effect.aims t (.push d.onFrame) = decide (t = .lamp (.dot d)) :=
  d.onFrame_switches.aims t

@[simp] theorem aims_dot_off (t : Target) (d : Dot) :
    Effect.aims t (.push d.offFrame) = decide (t = .lamp (.dot d)) :=
  d.offFrame_switches.aims t

/-! ## Other effects -/

/-- An effect that pushes no frame aims at nothing. -/
theorem aims_of_frame?_eq_none (t : Target) {e : Effect} (h : e.frame? = none) :
    Effect.aims t e = false := by
  cases e with
  | push f => simp [Effect.frame?] at h
  | _ => cases t <;> rfl

@[simp] theorem aims_setDataf (t : Target) (d : DatafRef) (v : ℚ) :
    Effect.aims t (.setDataf d v) = false := aims_of_frame?_eq_none t rfl

theorem framesFor_append (t : Target) (es fs : List Effect) :
    framesFor t (es ++ fs) = framesFor t es ++ framesFor t fs := List.filter_append es fs

/-- A trace without pushes has no frames for any target. -/
theorem framesFor_of_pushes_eq_nil (t : Target) {es : List Effect} (h : pushes es = []) :
    framesFor t es = [] := by
  rw [framesFor, List.filter_eq_nil_iff]
  intro e he
  have hnone : e.frame? = none := List.filterMap_eq_nil_iff.mp h e he
  rw [aims_of_frame?_eq_none t hnone]
  exact Bool.false_ne_true

/-! ## Pushing the frames

No frame of the source is refused by the length check. -/

/-- The length check lets the frame through. -/
def Frame.Accepted (f : Frame) : Prop := f.len ≤ skalarkiMessageMaxLength ∧ f.len ≠ 0

instance (f : Frame) : Decidable f.Accepted := inferInstanceAs (Decidable (_ ∧ _))

theorem pushMessage_of_accepted {f : Frame} (h : f.Accepted) : pushMessage f = [.push f] := by
  rw [pushMessage, if_neg h.1.not_gt, if_neg h.2]

@[simp] theorem accepted_annunciator_on (k : Annunciator) : k.onFrame.Accepted := by
  cases k <;> decide

@[simp] theorem accepted_annunciator_off (k : Annunciator) : k.offFrame.Accepted := by
  cases k <;> decide

@[simp] theorem accepted_dot_on (d : Dot) : d.onFrame.Accepted := by
  cases d <;> decide

@[simp] theorem accepted_dot_off (d : Dot) : d.offFrame.Accepted := by
  cases d <;> decide

/-- No window has a text of more than five characters. -/
@[simp] theorem accepted_frame (w : Window) {text : Bytes} (h : text.length ≤ 5) :
    (w.frame text).Accepted := by
  have hids : w.ids.length ≤ 5 := by cases w <;> decide
  have hname : w.name.length ≤ 11 := by cases w <;> decide
  simp only [Frame.Accepted, Window.frame, DisplayFrame.length_bytes, Window.display,
    skalarkiMessageMaxLength]
  omega

@[simp] theorem pushMessage_annunciator_on (k : Annunciator) :
    pushMessage k.onFrame = [.push k.onFrame] := pushMessage_of_accepted (by simp)

@[simp] theorem pushMessage_annunciator_off (k : Annunciator) :
    pushMessage k.offFrame = [.push k.offFrame] := pushMessage_of_accepted (by simp)

@[simp] theorem pushMessage_dot_on (d : Dot) : pushMessage d.onFrame = [.push d.onFrame] :=
  pushMessage_of_accepted (by simp)

@[simp] theorem pushMessage_dot_off (d : Dot) : pushMessage d.offFrame = [.push d.offFrame] :=
  pushMessage_of_accepted (by simp)

@[simp] theorem length_altText (n : ℤ) : (altText n).length = 5 := by
  simp [altText]

@[simp] theorem length_threeDigitsText (managed : Bool) (n : ℤ) :
    (threeDigitsText managed n).length = 3 := by
  cases managed <;> rfl

@[simp] theorem length_vsText (managed : Bool) (n : ℤ) : (vsText managed n).length = 5 := by
  cases managed <;> rfl

@[simp] theorem length_inHgText (n : ℤ) : (inHgText n).length = 5 := by
  simp [inHgText]

@[simp] theorem length_hPaText (n : ℤ) : (hPaText n).length = 4 := by
  simp [hPaText]

@[simp] theorem length_stdText : stdText.length = 4 := by
  simp [stdText]

/-! ## What serves a target -/

/-- The frames that the plugin has for a target. -/
def Target.Takes (f : Frame) : Target → Prop
  | .window w => ∃ text : Bytes, text.length < 256 ∧ f = w.frame text
  | .lamp (.annunciator k) => f = k.onFrame ∨ f = k.offFrame
  | .lamp (.dot d) => f = d.onFrame ∨ f = d.offFrame

/-- Every frame that a trace pushes is for one of the targets. -/
def Serves (ts : List Target) (es : List Effect) : Prop :=
  ∀ f ∈ pushes es, ∃ t ∈ ts, t.Takes f

theorem Target.Takes.aims {t : Target} {f : Frame} (h : t.Takes f) (t' : Target) :
    Effect.aims t' (.push f) = decide (t' = t) := by
  match t, h with
  | .window w, h =>
    obtain ⟨text, hlen, rfl⟩ := h
    exact aims_frame t' w hlen
  | .lamp (.annunciator k), h =>
    rcases h with rfl | rfl
    · exact aims_annunciator_on t' k
    · exact aims_annunciator_off t' k
  | .lamp (.dot d), h =>
    rcases h with rfl | rfl
    · exact aims_dot_on t' d
    · exact aims_dot_off t' d

/-- A trace that serves other targets has no frame for this one. -/
theorem Serves.framesFor_eq_nil {ts : List Target} {es : List Effect} (h : Serves ts es)
    {t : Target} (ht : t ∉ ts) : framesFor t es = [] := by
  rw [framesFor, List.filter_eq_nil_iff]
  intro e he haims
  -- only a push can aim at a target, and this one aims at another
  cases hf : e.frame? with
  | none => exact absurd haims (by simp [aims_of_frame?_eq_none t hf])
  | some f =>
    obtain ⟨t', ht', htakes⟩ := h f (List.mem_filterMap.mpr ⟨e, he, hf⟩)
    have he' : e = .push f := by
      cases e with
      | push g => exact congrArg Effect.push (Option.some.inj hf)
      | _ => cases hf
    rw [he', htakes.aims t, decide_eq_true_eq] at haims
    exact ht (haims ▸ ht')

theorem serves_nil (ts : List Target) : Serves ts [] := by
  intro f hf
  cases hf

theorem serves_push {t : Target} {f : Frame} (h : t.Takes f) : Serves [t] [.push f] := by
  intro g hg
  obtain rfl : g = f := List.mem_singleton.mp hg
  exact ⟨t, List.mem_singleton_self t, h⟩

theorem serves_of_pushes_eq_nil {es : List Effect} (h : pushes es = []) : Serves [] es := by
  intro f hf
  rw [h] at hf
  cases hf

theorem Serves.append {ts us : List Target} {es fs : List Effect} (h : Serves ts es)
    (h' : Serves us fs) : Serves (ts ++ us) (es ++ fs) := by
  intro f hf
  rw [pushes_append, List.mem_append] at hf
  rcases hf with hf | hf
  · obtain ⟨t, ht, htakes⟩ := h f hf
    exact ⟨t, List.mem_append_left _ ht, htakes⟩
  · obtain ⟨t, ht, htakes⟩ := h' f hf
    exact ⟨t, List.mem_append_right _ ht, htakes⟩

/-! ### The encoders -/

theorem serves_updateAlt (n : ℤ) : Serves [.window .alt] (updateAlt n) := by
  rw [updateAlt_eq]
  apply serves_push
  exact ⟨altText n, by simp, rfl⟩

theorem serves_updateSpd (w : SpdWindow) (n : ℤ) : Serves [.window .spd] (updateSpd w n) := by
  rw [updateSpd_eq]
  apply serves_push
  exact ⟨threeDigitsText w.spdManaged n, by simp, rfl⟩

theorem serves_updateHdg (w : HdgWindow) (n : ℤ) : Serves [.window .hdg] (updateHdg w n) := by
  rw [updateHdg_eq]
  apply serves_push
  exact ⟨threeDigitsText w.hdgManaged n, by simp, rfl⟩

theorem serves_updateVs (w : VsWindow) (n : ℤ) : Serves [.window .vs] (updateVs w n) := by
  rw [updateVs_eq]
  apply serves_push
  exact ⟨vsText w.vsManaged n, by simp, rfl⟩

theorem BaroBuffers.For.serves_setBaroStd {bufs : BaroBuffers} {w : Window} (h : bufs.For w) :
    Serves [.window w] (setBaroStd bufs) := by
  rw [h.std]
  apply serves_push
  exact ⟨stdText, by simp, rfl⟩

theorem BaroBuffers.For.serves_updateBaro {bufs : BaroBuffers} {w : Window} (h : bufs.For w)
    (b : Baro) (x : ℚ) : Serves [.window w] (updateBaro bufs b x) := by
  by_cases hmode : b.baroMode = 0
  · rw [h.inHg b x hmode]
    apply serves_push
    exact ⟨inHgText _, by simp, rfl⟩
  · rw [h.hPa b x hmode]
    apply serves_push
    exact ⟨hPaText _, by simp, rfl⟩

/-! ## Displayed texts -/

/-- The last frame for the window carries the text. -/
def Displays (w : Window) (es : List Effect) (text : Bytes) : Prop :=
  latest (Effect.aims (.window w)) es = some (.push (w.frame text))

theorem displays_iff {w : Window} {es : List Effect} {text : Bytes} :
    Displays w es text ↔
      (framesFor (.window w) es).getLast? = some (.push (w.frame text)) := Iff.rfl

theorem Displays.showsDashes_iff {w : Window} {es : List Effect} {text : Bytes}
    (h : Displays w es text) (hlen : text.length < 256) :
    ShowsDashes w es ↔ ∀ b ∈ text, b = 0x2d := by
  have htext : shownText w es = some text := by
    rw [shownText, h, Option.bind_some, text_frame w hlen]
  rw [ShowsDashes, htext]
  simp

end SkalarkiFcu
