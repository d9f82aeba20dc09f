import SkalarkiFcu.Library.CyclicDial
import SkalarkiFcu.Windows
import SkalarkiFcu.RoundTrip

/-!
# Headings

The heading knob is a cyclic dial of the period 360 that keeps both names of north: `HdgLeft`
arrives at 0 and `HdgRight` at 360. And the heading window has two ways to a number: `Update`
truncates the heading when the window goes back to selected mode, and rounds it when the heading
has changed.

## Architecture

- **The knob**: `hdgSetAfter_eq`, the packets of the knob as clicks of a `CyclicDial`
- **The window**: `Update.hdgFrames`, the frames of an update with their causes, and
  `oneRendering_iff`
-/

namespace SkalarkiFcu

open LittleEndian Reactive Truncation CyclicDial

/-! ## The knob -/

/-- The command of a click. -/
def hdgClick : Direction → Command
  | .left => .hdgLeft
  | .right => .hdgRight

/-- The packets of some clicks, each under its own readings. -/
def hdgPackets (clicks : List (Datarefs × Direction)) : List Event :=
  clicks.map fun p => .packet p.1 (hdgClick p.2).literal

/-- The net rotation of some clicks, to the right. -/
def hdgNet (clicks : List (Datarefs × Direction)) : ℤ := net (clicks.map Prod.snd)

/-- The dialled heading after the packets of some clicks. -/
def hdgSetAfter (hash : Bytes → UInt64) (s : Globals) (clicks : List (Datarefs × Direction)) : ℚ :=
  (run (Event.step hash) (s, []) (hdgPackets clicks)).1.hdg.hdgSet

/-- A click of the knob on a whole heading. -/
theorem hdgSet_handler (env : Datarefs) (d : Direction) {s : Globals} {x : ℤ}
    (hs : s.hdg.hdgSet = x) :
    ((hdgClick d).handler env s).1.hdg.hdgSet = (turn 360 d x : ℤ) := by
  cases d with
  | left =>
    show (if s.hdg.hdgSet - 1 < 0 then s.hdg.hdgSet - 1 + 360 else s.hdg.hdgSet - 1) = _
    rw [hs, turn]
    split_ifs with h <;> norm_cast at h ⊢
  | right =>
    show (if 360 < s.hdg.hdgSet + 1 then s.hdg.hdgSet + 1 - 360 else s.hdg.hdgSet + 1) = _
    rw [hs, turn]
    split_ifs with h <;> norm_cast at h ⊢

/-- **The heading knob is a cyclic dial** of the period 360. -/
theorem hdgSetAfter_eq {hash : Bytes → UInt64} (hhash : SeparatesLiterals hash) {s : Globals}
    {x : ℤ} (hs : s.hdg.hdgSet = x) (clicks : List (Datarefs × Direction)) :
    hdgSetAfter hash s clicks = (turns 360 x (clicks.map Prod.snd) : ℤ) := by
  induction clicks using List.reverseRecOn with
  | nil => exact hs
  | append_singleton clicks p ih =>
    have hpackets : hdgPackets (clicks ++ [p]) =
        hdgPackets clicks ++ [.packet p.1 (hdgClick p.2).literal] := by
      simp [hdgPackets]
    -- the last packet is dispatched to the handler of its click
    rw [hdgSetAfter, hpackets, run_concat, exec_fst, Event.step,
      processPacket_of_some (hhash.dispatch_literal _), List.map_append, List.map_singleton,
      turns_concat]
    exact hdgSet_handler p.1 p.2 ih

/-- **Heading clicks**: two sequences of clicks with the same net rotation dial the same heading
if and only if they lead to another direction than north, or arrive there from the same side. -/
theorem hdgSetAfter_eq_iff {hash : Bytes → UInt64} (hhash : SeparatesLiterals hash) {s : Globals}
    {x : ℤ} (hs : s.hdg.hdgSet = x) (hx : x ∈ Set.Icc 0 360)
    {clicks clicks' : List (Datarefs × Direction)}
    (hnet : hdgNet clicks ≡ hdgNet clicks' [ZMOD 360]) :
    hdgSetAfter hash s clicks = hdgSetAfter hash s clicks' ↔
      (x + hdgNet clicks) % 360 ≠ 0 ∨
        arrival 360 x (clicks.map Prod.snd) = arrival 360 x (clicks'.map Prod.snd) := by
  rw [hdgSetAfter_eq hhash hs, hdgSetAfter_eq hhash hs, Int.cast_inj]
  exact turns_eq_turns_iff hx (by norm_num) hnet

/-- One click to the right, or one to the left and two to the right, from north. -/
theorem hdgSetAfter_eq_one :
    hdgSetAfter fnv1a .initial [(.zero, .right)] =
        hdgSetAfter fnv1a .initial [(.zero, .left), (.zero, .right), (.zero, .right)] ↔
      (0 + hdgNet [(.zero, .right)]) % 360 ≠ 0 ∨
        arrival 360 0 [.right] = arrival 360 0 [.left, .right, .right] :=
  hdgSetAfter_eq_iff separatesLiterals_fnv1a (x := 0) rfl (by simp) rfl

/-- From north, one click to the left and one to the right do not lead back to 0. -/
theorem hdgSetAfter_back : ¬ ∀ (hash : Bytes → UInt64) (s : Globals) (x : ℤ)
    (clicks clicks' : List (Datarefs × Direction)), SeparatesLiterals hash → s.hdg.hdgSet = x →
      x ∈ Set.Icc 0 360 → hdgNet clicks ≡ hdgNet clicks' [ZMOD 360] →
      hdgSetAfter hash s clicks = hdgSetAfter hash s clicks' := by
  intro h
  have hstart : Globals.initial.hdg.hdgSet = ((0 : ℤ) : ℚ) := rfl
  have heq := h fnv1a .initial 0 [(.zero, .left), (.zero, .right)] [] separatesLiterals_fnv1a
    hstart (by simp) rfl
  rw [hdgSetAfter_eq separatesLiterals_fnv1a hstart, hdgSetAfter_eq separatesLiterals_fnv1a hstart,
    Int.cast_inj] at heq
  -- 359 and then 360
  cases heq

/-! ## The window -/

/-- Why `Update` refreshes the heading window. -/
inductive HdgCause where
  /-- The window has changed its mode. -/
  | mode
  /-- The heading has changed. -/
  | value
  deriving DecidableEq, Repr

/-- The part of an update with a cause: the globals when it pushes, and its frames for the
heading window. -/
def Update.hdgFrames (env : Datarefs) (w : HdgWindow) : HdgCause → HdgWindow × List Effect
  | .mode => ((hdgMode env w).1, framesFor (.window .hdg) (hdgMode env w).2)
  | .value =>
    let w' := (hdgMode env w).1
    ((hdgValue w').1, framesFor (.window .hdg) (hdgValue w').2)

/-- The two causes account for all frames of the heading window. -/
theorem framesFor_update_hdgFrames (env : Datarefs) (s : Globals) :
    framesFor (.window .hdg) (update env s).2 =
      (Update.hdgFrames env s.hdg .mode).2 ++ (Update.hdgFrames env s.hdg .value).2 :=
  framesFor_update_hdg env s

/-- The integer that the window shows for a heading. -/
def HdgCause.shown (x : ℚ) : HdgCause → ℤ
  | .mode => trunc x
  | .value => trunc (x + 0.5)

/-- The update reads the window as selected, and finds it managed with the heading `x`, or a new
heading `x` dialled. -/
def HdgCause.Due (env : Datarefs) (w : HdgWindow) (x : ℚ) : HdgCause → Prop
  | .mode => trunc env.gHdgManagedDataref ≠ 0 ∧ w.hdgManaged = true ∧ w.hdg = x
  | .value => trunc env.gHdgManagedDataref ≠ 0 ∧ trunc w.hdgSet ≠ trunc w.hdg ∧ w.hdgSet = x

section Runs

variable (hash : Bytes → UInt64) (env₀ : Datarefs) (events : List Event)

/-- Some update of the run has pushed the frame `e` for the heading window, with this cause,
while `HdgManaged` was false and `Hdg` was `x`. -/
def HdgPushed (c : HdgCause) (x : ℚ) (e : Effect) : Prop :=
  ∃ pre env, pre ++ [.update env] <+: events ∧
    let r := Update.hdgFrames env (session hash env₀ pre).1.hdg c
    e ∈ r.2 ∧ r.1.hdgManaged = false ∧ r.1.hdg = x

/-- Any two frames for the same heading carry the same digits. -/
def OneRendering : Prop :=
  ∀ x, 0 ≤ x → ∀ c c' e e', HdgPushed hash env₀ events c x e → HdgPushed hash env₀ events c' x e' →
    e.text = e'.text

/-- Some update of the run is due to refresh the window in selected mode, with this cause, for
the heading `x`. -/
def HdgDue (c : HdgCause) (x : ℚ) : Prop :=
  ∃ pre env, pre ++ [.update env] <+: events ∧ c.Due env (session hash env₀ pre).1.hdg x

variable {hash env₀ events}

/-- The frames of an update in selected mode, in terms of the state before it. -/
theorem HdgCause.mem_hdgFrames_iff (c : HdgCause) (env : Datarefs) (w : HdgWindow) (x : ℚ)
    (e : Effect) :
    (e ∈ (Update.hdgFrames env w c).2 ∧ (Update.hdgFrames env w c).1.hdgManaged = false ∧
      (Update.hdgFrames env w c).1.hdg = x) ↔
      c.Due env w x ∧ e = .push (Window.hdg.frame (threeDigitsText false (c.shown x))) := by
  by_cases hsel : trunc env.gHdgManagedDataref = 0
  · -- a window that is read as managed is managed when its frames are pushed
    cases c <;> simp [Update.hdgFrames, HdgCause.Due, hsel]
  · cases c with
    | mode =>
      simp only [Update.hdgFrames, framesFor_hdgMode_window, HdgCause.Due, HdgCause.shown,
        Update.hdgMode_hdgManaged, Update.hdgMode_hdg, hsel, decide_false]
      cases w.hdgManaged with
      | false => simp
      | true =>
        simp only [ne_eq, hsel, Bool.false_eq_true, not_false_eq_true, if_true, List.mem_singleton,
          true_and]
        constructor
        · rintro ⟨he, rfl⟩
          exact ⟨rfl, he⟩
        · rintro ⟨rfl, he⟩
          exact ⟨he, rfl⟩
    | value =>
      simp only [Update.hdgFrames, framesFor_hdgValue_window, HdgCause.Due, HdgCause.shown,
        Update.hdgValue_hdgManaged, Update.hdgMode_hdgManaged, Update.hdgMode_hdg,
        Update.hdgMode_hdgSet, hsel, decide_false]
      by_cases hnew : trunc w.hdgSet = trunc w.hdg
      · simp [hnew]
      · have hhdg : (Update.hdgValue (Update.hdgMode env w).1).1.hdg = w.hdgSet := by
          simp [Update.hdgValue, hnew]
        simp only [ne_eq, hsel, hnew, not_false_eq_true, if_true, List.mem_singleton, true_and, hhdg]
        constructor
        · rintro ⟨he, rfl⟩
          exact ⟨rfl, he⟩
        · rintro ⟨rfl, he⟩
          exact ⟨he, rfl⟩

theorem hdgPushed_iff {c : HdgCause} {x : ℚ} {e : Effect} :
    HdgPushed hash env₀ events c x e ↔
      HdgDue hash env₀ events c x ∧
        e = .push (Window.hdg.frame (threeDigitsText false (c.shown x))) := by
  constructor
  · rintro ⟨pre, env, hpre, h⟩
    obtain ⟨hdue, he⟩ := (c.mem_hdgFrames_iff env _ x e).mp h
    exact ⟨⟨pre, env, hpre, hdue⟩, he⟩
  · rintro ⟨⟨pre, env, hpre, hdue⟩, he⟩
    exact ⟨pre, env, hpre, (c.mem_hdgFrames_iff env _ x e).mpr ⟨hdue, he⟩⟩

end Runs

/-- The last digit tells a number from the next one. -/
theorem threeDigitsText_succ_ne (n : ℕ) :
    threeDigitsText false (n + 1 : ℕ) ≠ threeDigitsText false n := by
  intro h
  have hlast := congrArg List.getLast? h
  simp only [threeDigitsText, Bool.false_eq_true, if_false, digitChar_eq_decimalDigit,
    List.getLast?_cons_cons, List.getLast?_singleton, Option.some.injEq] at hlast
  have hval := congrArg UInt8.toNat hlast
  simp only [decimalDigit, UInt8.toNat_ofNat'] at hval
  omega

/-- The two renderings of a heading agree if and only if its fraction is less than one half. -/
theorem text_shown_eq_iff {x : ℚ} (hx : 0 ≤ x) :
    threeDigitsText false (HdgCause.mode.shown x) = threeDigitsText false (HdgCause.value.shown x) ↔
      Int.fract x < 1 / 2 := by
  obtain ⟨n, hn⟩ := Int.eq_ofNat_of_zero_le (Int.floor_nonneg.mpr hx)
  have htrunc : HdgCause.mode.shown x = n := by
    rw [HdgCause.shown, trunc_of_nonneg hx, hn]
  have hround : HdgCause.value.shown x = round x := by
    rw [HdgCause.shown, ← trunc_add_half hx]
    norm_num
  rw [htrunc, hround, round]
  split_ifs with hhalf
  · rw [hn]
    exact iff_of_true rfl (by linarith)
  · -- rounded up, to the next number
    have hceil : ⌈x⌉ = ((n + 1 : ℕ) : ℤ) := by
      rw [Int.ceil_eq_iff]
      have hfract := Int.self_sub_floor x
      have hlt := Int.fract_lt_one x
      rw [hn] at hfract
      push_cast at hfract ⊢
      constructor <;> linarith
    rw [hceil]
    exact iff_of_false (threeDigitsText_succ_ne n).symm (by linarith)

/-- **One rendering**: any two frames for the same heading carry the same digits if and only if
no heading whose fraction is one half or more is shown for both causes. -/
theorem oneRendering_iff (hash : Bytes → UInt64) (env₀ : Datarefs) (events : List Event) :
    OneRendering hash env₀ events ↔
      ∀ x, 0 ≤ x → HdgDue hash env₀ events .mode x → HdgDue hash env₀ events .value x →
        Int.fract x < 1 / 2 := by
  have htext : ∀ (c : HdgCause) (x : ℚ),
      Effect.text (.push (Window.hdg.frame (threeDigitsText false (c.shown x)))) =
        some (threeDigitsText false (c.shown x)) := fun c x => text_frame _ (by simp)
  constructor
  · intro h x hx hmode hvalue
    have heq := h x hx .mode .value _ _ (hdgPushed_iff.mpr ⟨hmode, rfl⟩)
      (hdgPushed_iff.mpr ⟨hvalue, rfl⟩)
    rw [htext, htext, Option.some.injEq] at heq
    exact (text_shown_eq_iff hx).mp heq
  · intro h x hx c c' e e' he he'
    obtain ⟨hdue, rfl⟩ := hdgPushed_iff.mp he
    obtain ⟨hdue', rfl⟩ := hdgPushed_iff.mp he'
    rw [htext, htext, Option.some.injEq]
    -- the same cause gives the same text anyway
    cases c with
    | mode =>
      cases c' with
      | mode => rfl
      | value => exact (text_shown_eq_iff hx).mpr (h x hx hdue hdue')
    | value =>
      cases c' with
      | mode => exact ((text_shown_eq_iff hx).mpr (h x hx hdue' hdue)).symm
      | value => rfl

/-- The heading 10.5 is shown as 011 when it is taken over, and as 010 after a managed phase. -/
theorem oneRendering_half : ¬ ∀ (hash : Bytes → UInt64) (env₀ : Datarefs) (events : List Event),
    OneRendering hash env₀ events := by
  intro h
  let selected : Datarefs := { Datarefs.zero with gHdgDataref := 21 / 2, gHdgManagedDataref := 1 }
  let managed : Datarefs := { selected with gHdgManagedDataref := 0 }
  let events : List Event := [] ++ [.update selected] ++ [.update managed] ++ [.update selected]
  have hone : trunc (1 : ℚ) = 1 := trunc_intCast 1
  have hten : trunc (21 / 2 : ℚ) = 10 := by
    rw [trunc_of_nonneg (by norm_num), Int.floor_eq_iff]
    norm_num
  -- the heading is taken over in the first update, and kept while it is managed
  have h₀ : (session fnv1a selected []).1.hdg = ⟨0, 21 / 2, false, true⟩ := by
    rw [session_nil, started_fst]
    simp [selected, hone]
  have h₁ : (session fnv1a selected ([] ++ [.update selected])).1.hdg =
      ⟨21 / 2, 21 / 2, false, true⟩ := by
    rw [session_update, exec_fst, update_hdg, h₀]
    simp [Update.hdgMode, Update.hdgValue, selected, hone, hten]
  have h₂ : (session fnv1a selected ([] ++ [.update selected] ++ [.update managed])).1.hdg =
      ⟨21 / 2, 21 / 2, true, true⟩ := by
    rw [session_update, exec_fst, update_hdg, h₁]
    simp [Update.hdgMode, Update.hdgValue, managed]
  have hvalue : HdgDue fnv1a selected events .value (21 / 2) := by
    refine ⟨[], selected, ⟨[.update managed, .update selected], rfl⟩, ?_⟩
    rw [h₀]
    simp [HdgCause.Due, selected, hone, hten]
  have hmode : HdgDue fnv1a selected events .mode (21 / 2) := by
    refine ⟨[] ++ [.update selected] ++ [.update managed], selected, List.prefix_rfl, ?_⟩
    rw [h₂]
    simp [HdgCause.Due, selected, hone]
  have htext := h fnv1a selected events (21 / 2) (by norm_num) .mode .value _ _
    (hdgPushed_iff.mpr ⟨hmode, rfl⟩) (hdgPushed_iff.mpr ⟨hvalue, rfl⟩)
  rw [text_frame _ (by simp), text_frame _ (by simp), Option.some.injEq,
    text_shown_eq_iff (by norm_num)] at htext
  norm_num [Int.fract] at htext

end SkalarkiFcu
