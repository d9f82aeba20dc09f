import SkalarkiFcu.Altitude
import SkalarkiFcu.RoundTrip
import SkalarkiFcu.Windows

/-!
# The dialled targets

The knobs and the readings of the simulator together decide which targets there can be. A target
within the range of its window is shown as it is written to the simulator; outside of it, the
encoders would show other digits. Every handler keeps its range, by a clamp or by going around,
except for `AltRight`: it has no upper bound.

## Architecture

- **Packets**: `Command.turnSpd`, `Command.turnHdg`, `Command.turnAlt`, what each handler does to
  the targets
- **Ranges**: `Globals.TargetsInRange`, and the invariant `Globals.DialInv`
- **Digits**: `DigitsRight`, from the round trip of the texts
- **Runs**: `displayable_iff`
-/

namespace SkalarkiFcu

open LittleEndian Reactive History Truncation

/-! ## Packets -/

/-- What a handler does to the speed. -/
def Command.turnSpd : Command → SpdWindow → SpdWindow
  | .spdLeft => SkalarkiFcu.spdLeft
  | .spdRight => SkalarkiFcu.spdRight
  | _ => id

/-- What a handler does to the heading. -/
def Command.turnHdg : Command → HdgWindow → HdgWindow
  | .hdgLeft => SkalarkiFcu.hdgLeft
  | .hdgRight => SkalarkiFcu.hdgRight
  | _ => id

/-- What a handler does to the altitude. -/
def Command.turnAlt (env : Datarefs) : Command → AltWindow → AltWindow
  | .altLeft => SkalarkiFcu.altLeft env
  | .altRight => SkalarkiFcu.altRight env
  | _ => id

section Packets

variable (hash : Bytes → UInt64) (env : Datarefs) (recvbuf : Bytes) (s : Globals)

theorem processPacket_spd : (processPacket hash env recvbuf s).1.spd =
    (dispatch hash recvbuf).elim s.spd fun c => c.turnSpd s.spd := by
  cases h : dispatch hash recvbuf with
  | none =>
    rw [processPacket_of_none h]
    rfl
  | some c =>
    rw [processPacket_of_some h]
    cases c <;> rfl

theorem processPacket_hdg : (processPacket hash env recvbuf s).1.hdg =
    (dispatch hash recvbuf).elim s.hdg fun c => c.turnHdg s.hdg := by
  cases h : dispatch hash recvbuf with
  | none =>
    rw [processPacket_of_none h]
    rfl
  | some c =>
    rw [processPacket_of_some h]
    cases c <;> rfl

theorem processPacket_alt : (processPacket hash env recvbuf s).1.alt =
    (dispatch hash recvbuf).elim s.alt fun c => c.turnAlt env s.alt := by
  cases h : dispatch hash recvbuf with
  | none =>
    rw [processPacket_of_none h]
    rfl
  | some c =>
    rw [processPacket_of_some h]
    cases c <;> rfl

end Packets

/-! ## Ranges -/

/-- Every dialled target is within the range of its window. -/
structure Globals.TargetsInRange (s : Globals) : Prop where
  alt : s.alt.altSet ∈ Set.Icc 0 99999
  spd : s.spd.spdSet ∈ Set.Icc 125 999
  hdg : s.hdg.hdgSet ∈ Set.Icc 0 360

theorem turnSpd_mem {w : SpdWindow} (h : w.spdSet ∈ Set.Icc 125 999) (c : Command) :
    (c.turnSpd w).spdSet ∈ Set.Icc 125 999 := by
  obtain ⟨hlow, hhigh⟩ := h
  unfold Command.turnSpd
  split
  · have hleft : (spdLeft w).spdSet = if w.spdSet - 1 < 125 then 125 else w.spdSet - 1 := rfl
    rw [hleft]
    split_ifs <;> constructor <;> linarith
  · simp only [spdRight, Set.mem_Icc]
    split_ifs <;> constructor <;> linarith
  · exact ⟨hlow, hhigh⟩

theorem turnHdg_mem {w : HdgWindow} (h : w.hdgSet ∈ Set.Icc 0 360) (c : Command) :
    (c.turnHdg w).hdgSet ∈ Set.Icc 0 360 := by
  obtain ⟨hlow, hhigh⟩ := h
  unfold Command.turnHdg
  split
  · simp only [hdgLeft, Set.mem_Icc]
    split_ifs <;> constructor <;> linarith
  · simp only [hdgRight, Set.mem_Icc]
    split_ifs <;> constructor <;> linarith
  · exact ⟨hlow, hhigh⟩

/-- The altitude handlers compute from `Alt`; only `AltRight` needs room. -/
theorem turnAlt_mem {env : Datarefs} {w : AltWindow} (h : w.altSet ∈ Set.Icc 0 99999)
    (hshown : w.alt ∈ Set.Icc 0 99999) (c : Command)
    (hroom : c = .altRight → w.alt + altStep env ≤ 99999) :
    (c.turnAlt env w).altSet ∈ Set.Icc 0 99999 := by
  have hstep := altStep_pos env
  obtain ⟨hlow, hhigh⟩ := hshown
  unfold Command.turnAlt
  split
  · rw [altLeft_eq_turn]
    -- `AltLeft` is clamped at 0
    exact ⟨le_max_left _ _, max_le (by norm_num) (by linarith)⟩
  · rw [altRight_eq_turn]
    -- `AltRight` is clamped nowhere
    exact ⟨by simp only [Click.turn]; linarith, hroom rfl⟩
  · exact h

theorem turnAlt_alt (env : Datarefs) (w : AltWindow) (c : Command) :
    (c.turnAlt env w).alt = w.alt := by
  unfold Command.turnAlt
  split <;> rfl

/-- The targets and the altitude that the handlers compute from are in range. -/
structure Globals.DialInv (s : Globals) : Prop extends s.TargetsInRange where
  shownAlt : s.alt.alt ∈ Set.Icc 0 99999

theorem Globals.DialInv.packet {s : Globals} (h : s.DialInv) {hash : Bytes → UInt64}
    {env : Datarefs} {recvbuf : Bytes}
    (hroom : dispatch hash recvbuf = some .altRight → s.alt.alt + altStep env ≤ 99999) :
    (processPacket hash env recvbuf s).1.DialInv := by
  have hspd := processPacket_spd hash env recvbuf s
  have hhdg := processPacket_hdg hash env recvbuf s
  have halt := processPacket_alt hash env recvbuf s
  cases hd : dispatch hash recvbuf with
  | none =>
    -- an unknown packet dials nothing
    rw [hd] at hspd hhdg halt
    exact ⟨⟨by rw [halt]; exact h.alt, by rw [hspd]; exact h.spd, by rw [hhdg]; exact h.hdg⟩,
      by rw [halt]; exact h.shownAlt⟩
  | some c =>
    rw [hd] at hspd hhdg halt hroom
    refine ⟨⟨?_, ?_, ?_⟩, ?_⟩
    · rw [halt]
      exact turnAlt_mem h.alt h.shownAlt c fun hc => hroom (congrArg some hc)
    · rw [hspd]
      exact turnSpd_mem h.spd c
    · rw [hhdg]
      exact turnHdg_mem h.hdg c
    · rw [halt, Option.elim_some, turnAlt_alt]
      exact h.shownAlt

/-- The dialled speed after an update: read from the simulator when the window goes back to
selected mode. -/
theorem update_spdSet (env : Datarefs) (s : Globals) :
    (update env s).1.spd.spdSet =
      if env.gSpdManagedDataref ≠ 0 ∧ s.spd.spdManaged = true then env.gSpdDataref
      else s.spd.spdSet := by
  have hvalue : ∀ w, (Update.spdValue w).1.spdSet = w.spdSet := by
    intro w
    simp only [Update.spdValue]
    split_ifs <;> rfl
  rw [update_spd, hvalue]
  by_cases henv : env.gSpdManagedDataref = 0 <;> cases hm : s.spd.spdManaged <;>
    simp [Update.spdMode, henv, hm]

theorem update_hdgSet (env : Datarefs) (s : Globals) :
    (update env s).1.hdg.hdgSet = s.hdg.hdgSet := by
  rw [update_hdg]
  simp only [Update.hdgValue, Update.hdgMode]
  split_ifs <;> rfl

theorem Globals.DialInv.update {s : Globals} (h : s.DialInv) {env : Datarefs}
    (hread : s.spd.spdManaged = true → env.gSpdManagedDataref ≠ 0 →
      env.gSpdDataref ∈ Set.Icc 125 999) :
    (update env s).1.DialInv := by
  obtain ⟨halt, haltSet⟩ := update_alt_alt env s
  refine ⟨⟨?_, ?_, ?_⟩, ?_⟩
  · rw [haltSet]
    exact h.alt
  · rw [update_spdSet]
    split_ifs with hleave
    · -- the speed is read again
      exact hread hleave.2 hleave.1
    · exact h.spd
  · rw [update_hdgSet]
    exact h.hdg
  · rw [halt]
    -- `Alt` takes over the dialled altitude
    exact h.alt

/-! ## Digits -/

/-- The text consists of the digits of the integer part of `v`. -/
def Denotes (text : Option Bytes) (v : ℚ) : Prop :=
  ∃ n : ℕ, text.bind readNumber = some n ∧ trunc v = n

theorem exists_trunc_of_mem {v lo hi : ℚ} (h : v ∈ Set.Icc lo hi) (hlo : 0 ≤ lo) {k : ℕ}
    (hhi : hi < k) : ∃ n : ℕ, n < k ∧ trunc v = n := by
  obtain ⟨hlow, hhigh⟩ := h
  have hv : 0 ≤ v := hlo.trans hlow
  obtain ⟨n, hn⟩ := Int.eq_ofNat_of_zero_le (Int.floor_nonneg.mpr hv)
  refine ⟨n, ?_, by rw [trunc_of_nonneg hv, hn]⟩
  have hlt : ⌊v⌋ < (k : ℤ) := by
    rw [Int.floor_lt]
    push_cast
    linarith
  omega

section Digits

variable (hash : Bytes → UInt64) (env₀ : Datarefs)

/-- The digits that an update pushes for the altitude, and in selected mode for the speed, denote
the integer part of what it writes. -/
def DigitsRight (pre : List Event) (env : Datarefs) : Prop :=
  let r := update env (session hash env₀ pre).1
  (∀ v, (.gAltDataref, v) ∈ written r.2 → Denotes (shownText .alt r.2) v) ∧
  (∀ v, (.gSpdDataref, v) ∈ written r.2 → r.1.spd.spdManaged = false →
    Denotes (shownText .spd r.2) v)

end Digits

section OneUpdate

variable {env : Datarefs} {s : Globals}

theorem shownText_of_getLast? {w : Window} {es : List Effect} {text : Bytes}
    (h : (framesFor (.window w) es).getLast? = some (.push (w.frame text)))
    (hlen : text.length < 256) : shownText w es = some text := by
  have hlatest : latest (Effect.aims (.window w)) es = some (.push (w.frame text)) := h
  rw [shownText, hlatest, Option.bind_some, text_frame w hlen]

theorem denotes_alt (h : s.TargetsInRange) {v : ℚ}
    (hv : (.gAltDataref, v) ∈ written (update env s).2) :
    Denotes (shownText .alt (update env s).2) v := by
  -- the altitude is written with its own frame, and from the same value
  have hnew : s.alt.alt ≠ s.alt.altSet ∧ v = s.alt.altSet := by
    rw [written_update, Update.written_hdgValue, Update.written_spdValue, Update.written_altValue,
      Update.altMode_alt, Update.altMode_altSet] at hv
    split_ifs at hv <;> simp_all
  obtain ⟨hne, rfl⟩ := hnew
  have hframe : framesFor (.window .alt) (update env s).2 =
      [.push (Window.alt.frame (altText (trunc s.alt.altSet)))] := by
    rw [framesFor_update_alt]
    simp [Update.altValue, hne, updateAlt_eq, framesFor]
  have hlast : (framesFor (.window .alt) (update env s).2).getLast? =
      some (.push (Window.alt.frame (altText (trunc s.alt.altSet)))) := by
    rw [hframe]
    rfl
  obtain ⟨n, hn, htrunc⟩ := exists_trunc_of_mem (k := 10 ^ 5) h.alt le_rfl (by norm_num)
  refine ⟨n, ?_, htrunc⟩
  rw [shownText_of_getLast? hlast (by simp), Option.bind_some, htrunc, altText_natCast,
    readNumber_write hn]

theorem denotes_spd (h : (update env s).1.TargetsInRange) {v : ℚ}
    (hv : (.gSpdDataref, v) ∈ written (update env s).2)
    (hsel : (update env s).1.spd.spdManaged = false) :
    Denotes (shownText .spd (update env s).2) v := by
  set w := (Update.spdMode env s.spd).1 with hw
  have hnew : trunc w.spdSet ≠ trunc w.spd ∧ v = w.spdSet := by
    rw [written_update, Update.written_hdgValue, Update.written_spdValue, Update.written_altValue,
      ← hw] at hv
    split_ifs at hv <;> simp_all
  obtain ⟨hne, rfl⟩ := hnew
  have hm : w.spdManaged = false := by
    rwa [update_spd, Update.spdValue_spdManaged] at hsel
  -- its frame comes last, behind that of a change of the mode
  have hlast : (framesFor (.window .spd) (update env s).2).getLast? =
      some (.push (Window.spd.frame (threeDigitsText false (trunc w.spdSet)))) := by
    rw [framesFor_update_spd, framesFor_spdValue_window, ← hw, if_pos hne, hm,
      List.getLast?_append, List.getLast?_singleton, Option.some_or]
  have hrange : w.spdSet ∈ Set.Icc 125 999 := by
    have hspd := h.spd
    rw [update_spd, ← hw] at hspd
    simpa only [Update.spdValue, if_pos hne] using hspd
  obtain ⟨n, hn, htrunc⟩ := exists_trunc_of_mem (k := 10 ^ 3) hrange (by norm_num) (by norm_num)
  refine ⟨n, ?_, htrunc⟩
  rw [shownText_of_getLast? hlast (by simp), Option.bind_some, htrunc, threeDigitsText_natCast,
    readNumber_write hn]

end OneUpdate

/-! ## Runs -/

section Runs

variable (hash : Bytes → UInt64) (env₀ : Datarefs)

/-- The datarefs that become targets are in range: those of the start, and the airspeed where an
update goes back to selected mode. -/
structure ReadsInRange (events : List Event) : Prop where
  alt : env₀.gAltDataref ∈ Set.Icc 0 99999
  spd : env₀.gSpdDataref ∈ Set.Icc 125 999
  hdg : env₀.gHdgDataref ∈ Set.Icc 0 360
  reread : AtUpdates (fun pre env => (session hash env₀ pre).1.spd.spdManaged = true →
    env.gSpdManagedDataref ≠ 0 → env.gSpdDataref ∈ Set.Icc 125 999) events

/-- The targets are displayable in every state of a run, and shown as they are written. -/
structure Displayable (events : List Event) : Prop where
  range : ∀ pre, pre <+: events → (session hash env₀ pre).1.TargetsInRange
  digits : AtUpdates (DigitsRight hash env₀) events

/-- A click of the altitude knob to the right has room for its step above `Alt`. -/
def AltRightHasRoom (pre : List Event) : Event → Prop
  | .packet env recvbuf => dispatch hash recvbuf = some .altRight →
      (session hash env₀ pre).1.alt.alt + altStep env ≤ 99999
  | .update _ => True

variable {hash env₀} {events : List Event}

theorem dialInv_started (h : ReadsInRange hash env₀ events) : (started env₀).1.DialInv := by
  rw [started_fst]
  exact ⟨⟨h.alt, h.spd, h.hdg⟩, by norm_num⟩

/-- With room for the clicks to the right, the invariant holds in every state of a run. -/
theorem dialInv_session (h : ReadsInRange hash env₀ events)
    (hroom : Along (AltRightHasRoom hash env₀) events) {pre : List Event} (hpre : pre <+: events) :
    (session hash env₀ pre).1.DialInv := by
  induction pre using history_induction with
  | nil => exact dialInv_started h
  | packet pre env recvbuf ih =>
    rw [session_packet, exec_fst]
    exact (ih ((List.prefix_append _ _).trans hpre)).packet (hroom pre (.packet env recvbuf) hpre)
  | update pre env ih =>
    rw [session_update, exec_fst]
    exact (ih ((List.prefix_append _ _).trans hpre)).update (h.reread pre env hpre)

/-- **Dialled targets**: they stay displayable and are shown as they are written, if and only if
every click of the altitude knob to the right has room for its step. -/
theorem displayable_iff (h : ReadsInRange hash env₀ events) :
    Displayable hash env₀ events ↔ Along (AltRightHasRoom hash env₀) events := by
  constructor
  · intro hdisplay pre e hpre
    cases e with
    | update env => trivial
    | packet env recvbuf =>
      intro hright
      -- the click has computed `AltSet` from `Alt`, and the range holds for the result
      have halt := (hdisplay.range _ hpre).alt
      rw [session_packet, exec_fst, processPacket_alt, hright, Option.elim_some] at halt
      have hset : ((Command.altRight.turnAlt env (session hash env₀ pre).1.alt).altSet) =
          (session hash env₀ pre).1.alt.alt + altStep env := by
        rw [Command.turnAlt, altRight_eq_turn, Click.turn]
      rw [hset] at halt
      exact halt.2
  · intro hroom
    have hinv := fun pre (hpre : pre <+: events) => dialInv_session h hroom hpre
    refine ⟨fun pre hpre => (hinv pre hpre).toTargetsInRange, fun pre env hpre => ?_⟩
    have hbefore := hinv pre ((List.prefix_append _ _).trans hpre)
    have hafter := hinv _ hpre
    rw [session_update, exec_fst] at hafter
    exact ⟨fun v hv => denotes_alt hbefore.toTargetsInRange hv,
      fun v hv hsel => denotes_spd hafter.toTargetsInRange hv hsel⟩

end Runs

/-- A start within the ranges, in managed mode. -/
def startAt (alt : ℚ) : Datarefs := { Datarefs.zero with gAltDataref := alt, gSpdDataref := 250 }

theorem readsInRange_startAt {alt : ℚ} (h : alt ∈ Set.Icc 0 99999) (hash : Bytes → UInt64)
    {events : List Event} (hevents : ∀ env, .update env ∈ events → env.gSpdManagedDataref = 0) :
    ReadsInRange hash (startAt alt) events where
  alt := h
  spd := by norm_num [startAt]
  hdg := by norm_num [startAt, Datarefs.zero]
  reread pre env hpre _ henv := absurd (hevents env (hpre.subset (by simp))) henv

/-- One click to the right, from 5000 ft, and the update that shows it. -/
theorem displayable_one_click : Displayable fnv1a (startAt 5000)
    ([] ++ [.update .zero] ++ [.packet .zero Command.altRight.literal] ++ [.update .zero]) := by
  refine (displayable_iff (readsInRange_startAt (by norm_num) _ ?_)).mpr ?_
  · simp [Datarefs.zero]
  · rw [along_concat, along_concat, along_concat]
    refine ⟨⟨⟨along_nil _, trivial⟩, fun _ => ?_⟩, trivial⟩
    rw [session_update, exec_fst, (update_alt_alt _ _).1, session_nil, started_fst]
    norm_num [startAt, altStep, Datarefs.zero]

/-- One click to the right, from 99999 ft: the target becomes 100099, and its digits 00099. -/
theorem displayable_above : ¬ ∀ (hash : Bytes → UInt64) (env₀ : Datarefs) (events : List Event),
    ReadsInRange hash env₀ events → Displayable hash env₀ events := by
  intro h
  have hreads : ReadsInRange fnv1a (startAt 99999)
      ([] ++ [.update .zero] ++ [.packet .zero Command.altRight.literal]) := by
    apply readsInRange_startAt (by norm_num)
    simp [Datarefs.zero]
  have halt := ((h _ _ _ hreads).range _ List.prefix_rfl).alt
  rw [session_packet, exec_fst, processPacket_alt, separatesLiterals_fnv1a.dispatch_literal,
    Option.elim_some, Command.turnAlt, altRight_eq_turn, session_update, exec_fst,
    (update_alt_alt _ _).1, session_nil, started_fst] at halt
  norm_num [startAt, Click.turn, altStep, Datarefs.zero] at halt

end SkalarkiFcu
