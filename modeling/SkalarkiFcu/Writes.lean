import SkalarkiFcu.Library.Sampling
import SkalarkiFcu.BaroSides
import SkalarkiFcu.Handover

/-!
# What is written to the simulator

The three targets are sampled registers: packets dial them, and an update takes over what has
been dialled, shows it and writes it, unless it repeats the last value. A repetition is the same
altitude, but any speed or heading with the same integer part. What a run writes are then the
values that its updates find, without repetitions.

## Architecture

- **Registers**: `altRegister`, `spdRegister`, `hdgRegister`
- **Altitude**: `altitude_written`, with the frames of the window
- **Heading**: `heading_written`, however the clicks are batched
- **Speed**: `speed_written`, between two handovers
-/

namespace SkalarkiFcu

open LittleEndian Reactive Truncation

/-! ## Values -/

/-- The value that an effect writes to a dataref. -/
def Effect.write (d : DatafRef) : Effect → Option ℚ
  | .setDataf d' v => if d' = d then some v else none
  | _ => none

/-- The values that a trace writes to a dataref, in order. -/
def values (d : DatafRef) (es : List Effect) : List ℚ := es.filterMap (Effect.write d)

theorem values_eq (d : DatafRef) (es : List Effect) :
    values d es = ((written es).filter fun w => w.1 = d).map Prod.snd := by
  induction es with
  | nil => rfl
  | cons e es ih =>
    cases e with
    | setDataf d' v =>
      by_cases h : d' = d <;>
        simp_all [values, written, Effect.write, Effect.dataf?]
    | _ => exact ih

/-- What a target holds after a trace is the last value that the trace writes to it. -/
theorem targetAfter_eq (d : DatafRef) (v : ℚ) (es : List Effect) :
    targetAfter d v es = (values d es).getLast?.getD v := by
  rw [targetAfter, lastWritten, ← List.getLast?_map, ← values_eq]

section Update

variable (env : Datarefs) (s : Globals)

theorem values_update_alt : values .gAltDataref (update env s).2 =
    if s.alt.alt ≠ s.alt.altSet then [s.alt.altSet] else [] := by
  rw [values_eq, written_update, Update.written_hdgValue, Update.written_spdValue,
    Update.written_altValue, Update.altMode_alt, Update.altMode_altSet]
  split_ifs <;> simp

theorem values_update_hdg : values .gHdgDataref (update env s).2 =
    if trunc s.hdg.hdgSet ≠ trunc s.hdg.hdg then [s.hdg.hdgSet] else [] := by
  rw [values_eq, written_update, Update.written_hdgValue, Update.written_spdValue,
    Update.written_altValue, Update.hdgMode_hdg, Update.hdgMode_hdgSet]
  split_ifs <;> simp

theorem values_update_spd {w : SpdWindow} (hw : (Update.spdMode env s.spd).1 = w) :
    values .gSpdDataref (update env s).2 =
      if trunc w.spdSet ≠ trunc w.spd then [w.spdSet] else [] := by
  rw [values_eq, written_update, Update.written_hdgValue, Update.written_spdValue,
    Update.written_altValue, hw]
  split_ifs <;> simp

end Update

/-- No packet writes a target. -/
theorem filterMap_write_packet (d : DatafRef) (hash : Bytes → UInt64) (env : Datarefs)
    (recvbuf : Bytes) (s : Globals) :
    ((Event.packet env recvbuf).step hash s).2.filterMap (Effect.write d) = [] := by
  rw [Event.step_packet, List.filterMap_eq_nil_iff]
  cases h : dispatch hash recvbuf with
  | none =>
    rw [processPacket_of_none h]
    simp [Effect.write]
  | some c =>
    rw [processPacket_of_some h]
    intro e he
    rw [List.mem_cons] at he
    rcases he with rfl | he
    · rfl
    · rcases c.handler_effects env _ e he with ⟨r, rfl⟩ | ⟨d', v, rfl⟩ <;> rfl

theorem values_started (d : DatafRef) (env₀ : Datarefs) : values d (started env₀).2 = [] := by
  rw [values, List.filterMap_eq_nil_iff]
  intro e he
  rw [started_snd] at he
  obtain ⟨f, -, rfl⟩ := List.mem_map.mp he
  rfl

/-! ## Registers -/

/-- Two values with different integer parts. -/
abbrev TruncDiffers (x y : ℚ) : Prop := trunc y ≠ trunc x

variable (hash : Bytes → UInt64)

/-- No packet touches what the updates have taken over. -/
theorem step_packet_taken (env : Datarefs) (recvbuf : Bytes) (s : Globals) :
    ((Event.packet env recvbuf).step hash s).1.alt.alt = s.alt.alt ∧
      ((Event.packet env recvbuf).step hash s).1.spd.spd = s.spd.spd ∧
      ((Event.packet env recvbuf).step hash s).1.hdg.hdg = s.hdg.hdg := by
  obtain ⟨_, _, _, _, _, _, h⟩ := processPacket_dialled hash env recvbuf s
  rw [Event.step_packet, h]
  exact ⟨rfl, rfl, rfl⟩

/-- `AltSet` and `Alt`: any other altitude is new. -/
def altRegister : SampledRegister (Event.step hash) ℚ where
  dialled s := s.alt.altSet
  taken s := s.alt.alt
  write := Effect.write .gAltDataref
  tick := Event.isUpdate
  differs x y := x ≠ y
  decDiffers _ _ := inferInstance
  regular _ _ := True
  keep i s htick := by
    cases i with
    | packet env recvbuf =>
      exact ⟨(step_packet_taken hash env recvbuf s).1,
        filterMap_write_packet _ hash env recvbuf s⟩
    | update env => cases htick
  take i s htick _ hdiffers := by
    cases i with
    | packet env recvbuf => cases htick
    | update env =>
      refine ⟨(update_alt_alt env s).1, (values_update_alt env s).trans ?_⟩
      exact if_pos hdiffers
  rest i s htick _ hdiffers := by
    cases i with
    | packet env recvbuf => cases htick
    | update env =>
      have hsame := not_not.mp hdiffers
      refine ⟨(update_alt_alt env s).1.trans hsame.symm, ?_⟩
      exact (values_update_alt env s).trans (if_neg (not_not.mpr hsame))

/-- `HdgSet` and `Hdg`: a heading is new if its integer part is. -/
def hdgRegister : SampledRegister (Event.step hash) ℚ where
  dialled s := s.hdg.hdgSet
  taken s := s.hdg.hdg
  write := Effect.write .gHdgDataref
  tick := Event.isUpdate
  differs := TruncDiffers
  decDiffers _ _ := inferInstance
  regular _ _ := True
  keep i s htick := by
    cases i with
    | packet env recvbuf =>
      exact ⟨(step_packet_taken hash env recvbuf s).2.2,
        filterMap_write_packet _ hash env recvbuf s⟩
    | update env => cases htick
  take i s htick _ hdiffers := by
    cases i with
    | packet env recvbuf => cases htick
    | update env =>
      -- the integer parts differ: the dialled heading is shown and written
      exact ⟨(update_hdg_hdg env s).trans (if_neg hdiffers),
        (values_update_hdg env s).trans (if_pos hdiffers)⟩
  rest i s htick _ hdiffers := by
    cases i with
    | packet env recvbuf => cases htick
    | update env =>
      have hsame := not_not.mp hdiffers
      exact ⟨(update_hdg_hdg env s).trans (if_pos hsame),
        (values_update_hdg env s).trans (if_neg (not_not.mpr hsame))⟩

/-- Unless it hands the speed over, an update leaves both speeds to the value part. -/
theorem Update.spdMode_of_not_released {env : Datarefs} {s : Globals} (h : ¬ SpdReleased env s) :
    (spdMode env s.spd).1.spd = s.spd.spd ∧ (spdMode env s.spd).1.spdSet = s.spd.spdSet := by
  cases hm : s.spd.spdManaged with
  | false => exact Update.spdMode_of_selected env hm
  | true =>
    have henv : env.gSpdManagedDataref = 0 := by
      by_contra hne
      exact h ⟨hm, hne⟩
    simp [spdMode, henv, hm]

/-- `SpdSet` and `Spd`, as long as the speed is not handed over. -/
def spdRegister : SampledRegister (Event.step hash) ℚ where
  dialled s := s.spd.spdSet
  taken s := s.spd.spd
  write := Effect.write .gSpdDataref
  tick := Event.isUpdate
  differs := TruncDiffers
  decDiffers _ _ := inferInstance
  regular i s := ∀ env, i = .update env → ¬ SpdReleased env s
  keep i s htick := by
    cases i with
    | packet env recvbuf =>
      exact ⟨(step_packet_taken hash env recvbuf s).2.1,
        filterMap_write_packet _ hash env recvbuf s⟩
    | update env => cases htick
  take i s htick hregular hdiffers := by
    cases i with
    | packet env recvbuf => cases htick
    | update env =>
      -- without a hand-over the value part finds the speeds as they were before
      obtain ⟨hspd, hspdSet⟩ := Update.spdMode_of_not_released (hregular env rfl)
      refine ⟨?_, (values_update_spd env s rfl).trans ?_⟩
      · change (update env s).1.spd.spd = s.spd.spdSet
        rw [update_spd, Update.spdValue, hspd, hspdSet, if_pos hdiffers]
      · rw [hspd, hspdSet]
        exact if_pos hdiffers
  rest i s htick hregular hdiffers := by
    cases i with
    | packet env recvbuf => cases htick
    | update env =>
      -- a click within one integer part is neither shown nor written
      obtain ⟨hspd, hspdSet⟩ := Update.spdMode_of_not_released (hregular env rfl)
      refine ⟨?_, (values_update_spd env s rfl).trans ?_⟩
      · change (update env s).1.spd.spd = s.spd.spd
        rw [update_spd, Update.spdValue, hspd, hspdSet, if_neg hdiffers]
        exact hspd
      · rw [hspd, hspdSet]
        exact if_neg hdiffers

/-! ## Altitude -/

/-- The altitude window shows a frame for each written altitude, after the zero of `Init`. -/
theorem framesFor_alt_eq (env₀ : Datarefs) (events : List Event) :
    framesFor (.window .alt) (session hash env₀ events).2 =
      (0 :: values .gAltDataref (session hash env₀ events).2).map fun v =>
        .push (Window.alt.frame (altText (trunc v))) := by
  induction events using history_induction with
  | nil =>
    rw [session_nil, values_started, framesFor_started env₀ (by simp), framesFor_init]
    rfl
  | packet pre env recvbuf ih =>
    have hvalues : values .gAltDataref (session hash env₀ (pre ++ [.packet env recvbuf])).2 =
        values .gAltDataref (session hash env₀ pre).2 := by
      have hnone := filterMap_write_packet .gAltDataref hash env recvbuf
        (session hash env₀ pre).1
      rw [Event.step_packet] at hnone
      rw [session_packet, exec_snd, values, List.filterMap_append, hnone, List.append_nil, values]
    rw [framesFor_session_packet, hvalues, ih]
  | update pre env ih =>
    have hvalues : values .gAltDataref (session hash env₀ (pre ++ [.update env])).2 =
        values .gAltDataref (session hash env₀ pre).2 ++
          values .gAltDataref (update env (session hash env₀ pre).1).2 := by
      rw [session_update, exec_snd, values, List.filterMap_append, values, values]
    rw [framesFor_session_update, ih, hvalues, ← List.cons_append, List.map_append,
      values_update_alt, framesFor_update_alt]
    by_cases hne : (session hash env₀ pre).1.alt.alt = (session hash env₀ pre).1.alt.altSet
    · simp [Update.altValue, hne, framesFor]
    · simp [Update.altValue, hne, framesFor, updateAlt_eq]

/-- **Altitude**: a run writes the altitudes that its updates find, without repetitions, and the
window shows a frame for each of them, after the zero of `Init`. The zero that `Alt` holds at the
start counts as the first altitude: where the updates find 0 first, it is not written. -/
theorem altitude_written (env₀ : Datarefs) (events : List Event) :
    values .gAltDataref (session hash env₀ events).2 =
      (((altRegister hash).sampled (started env₀).1 events).destutter' (· ≠ ·) 0).tail ∧
    framesFor (.window .alt) (session hash env₀ events).2 =
      (0 :: values .gAltDataref (session hash env₀ events).2).map fun v =>
        .push (Window.alt.frame (altText (trunc v))) := by
  refine ⟨?_, framesFor_alt_eq hash env₀ events⟩
  have hwrite := (altRegister hash).write_run (c := started env₀)
    (fun _ _ _ => trivial : (altRegister hash).Regularly (started env₀) events)
  have hstart : (started env₀).1.alt.alt = 0 := by rw [started_fst]
  change values _ _ = values .gAltDataref (started env₀).2 ++ (List.destutter' _
    (started env₀).1.alt.alt _).tail at hwrite
  rwa [values_started, List.nil_append, hstart] at hwrite

/-! ## Heading -/

/-- A click of the heading knob. -/
def Command.turnHeading : Command → ℚ → ℚ
  | .hdgLeft => fun x => if x - 1 < 0 then x - 1 + 360 else x - 1
  | .hdgRight => fun x => if 360 < x + 1 then x + 1 - 360 else x + 1
  | _ => id

/-- What an event does to the dialled heading. -/
def Event.turnHeading : Event → ℚ → ℚ
  | .packet _ recvbuf => fun x => (dispatch hash recvbuf).elim x fun c => c.turnHeading x
  | .update _ => id

theorem hdgRegister_dialled (i : Event) (s : Globals) :
    (hdgRegister hash).dialled (i.step hash s).1 =
      i.turnHeading hash ((hdgRegister hash).dialled s) := by
  change (i.step hash s).1.hdg.hdgSet = i.turnHeading hash s.hdg.hdgSet
  cases i with
  | packet env recvbuf =>
    rw [Event.step_packet, processPacket_hdg, Event.turnHeading]
    cases dispatch hash recvbuf with
    | none => rfl
    | some c => cases c <;> rfl
  | update env => exact update_hdgSet env s

section Heading

variable (env₀ : Datarefs) (events : List Event)

theorem hdgRegister_regularly : (hdgRegister hash).Regularly (started env₀) events :=
  fun _ _ _ => trivial

theorem hdgRegister_started : (hdgRegister hash).taken (started env₀).1 = 0 ∧
    (hdgRegister hash).dialled (started env₀).1 = env₀.gHdgDataref := by
  change (started env₀).1.hdg.hdg = 0 ∧ (started env₀).1.hdg.hdgSet = env₀.gHdgDataref
  rw [started_fst]
  exact ⟨rfl, rfl⟩

/-- The knob starts at the heading that `InitDatarefs` has read, and every packet turns it. -/
theorem hdgSet_eq_foldl : (session hash env₀ events).1.hdg.hdgSet =
    events.foldl (fun x i => i.turnHeading hash x) env₀.gHdgDataref := by
  have hdialled := (hdgRegister hash).dialled_run (fun i s _ => hdgRegister_dialled hash i s)
    (hdgRegister_regularly hash env₀ events)
  rw [(hdgRegister_started hash env₀).2] at hdialled
  exact hdialled

/-- The headings that the updates of a run find. -/
def foundHeadings : List ℚ :=
  SampledRegister.dials Event.isUpdate (Event.turnHeading hash) env₀.gHdgDataref events

theorem sampled_hdgRegister :
    (hdgRegister hash).sampled (started env₀).1 events = foundHeadings hash env₀ events := by
  rw [(hdgRegister hash).sampled_eq_dials (fun i s _ => hdgRegister_dialled hash i s)
    (hdgRegister_regularly hash env₀ events), (hdgRegister_started hash env₀).2]
  rfl

theorem values_hdg : values .gHdgDataref (session hash env₀ events).2 =
    ((foundHeadings hash env₀ events).destutter' TruncDiffers 0).tail := by
  have hwrite := (hdgRegister hash).write_run (hdgRegister_regularly hash env₀ events)
  rw [sampled_hdgRegister, (hdgRegister_started hash env₀).1] at hwrite
  change values _ _ = values .gHdgDataref (started env₀).2 ++ _ at hwrite
  rwa [values_started, List.nil_append] at hwrite

/-- The plugin holds the heading that it has written last, or 0 as long as there was none. -/
theorem hdg_eq_targetAfter : (session hash env₀ events).1.hdg.hdg =
    targetAfter .gHdgDataref 0 (session hash env₀ events).2 := by
  have htaken := (hdgRegister hash).taken_run (hdgRegister_regularly hash env₀ events)
  rw [sampled_hdgRegister, (hdgRegister_started hash env₀).1] at htaken
  rw [targetAfter_eq, values_hdg]
  exact htaken

end Heading

/-- **Heading**: a run writes the headings to which the clicks before each update have turned
the knob, without repetitions. The zero that is held before counts as the first one: a heading
with the integer part 0 is not written as long as nothing else has been. The simulator's own
heading is never read again. The clicks turn the exact rational. -/
theorem heading_written (env₀ : Datarefs) (events : List Event) :
    (session hash env₀ events).1.hdg.hdgSet =
      events.foldl (fun x i => i.turnHeading hash x) env₀.gHdgDataref ∧
    values .gHdgDataref (session hash env₀ events).2 =
      ((SampledRegister.dials Event.isUpdate (Event.turnHeading hash) env₀.gHdgDataref
        events).destutter' TruncDiffers 0).tail :=
  ⟨hdgSet_eq_foldl hash env₀ events, values_hdg hash env₀ events⟩

/-- **Hand-over of the heading**, in terms of what goes into the run: it is right exactly if the
clicks have turned the heading of `InitDatarefs` to that of the simulator, and the last heading
written is that one too or has another integer part. -/
theorem hdgHandover_session_iff (hhash : SeparatesLiterals hash) (env₀ : Datarefs)
    (pre : List Event) (env : Datarefs) :
    HdgHandover hash env (session hash env₀ pre).1 ↔
      let v := env.gHdgDataref
      let shown := ((foundHeadings hash env₀ pre).destutter' TruncDiffers 0).tail.getLast?.getD 0
      pre.foldl (fun x i => i.turnHeading hash x) env₀.gHdgDataref = v ∧
        (shown = v ∨ trunc shown ≠ trunc v) ∧ ¬ (-1 < v ∧ v < 0) := by
  rw [hdgHandover_iff hhash, HdgCurrent, hdgSet_eq_foldl, hdg_eq_targetAfter, targetAfter_eq,
    values_hdg]

/-- When the simulator has the dialled heading, once an update has taken it over: it had the
integer part 0 all along, or some update has found another one and has written it. -/
theorem trunc_targetAfter_iff (env₀ : Datarefs) (events : List Event)
    (h : trunc (session hash env₀ events).1.hdg.hdg =
      trunc (session hash env₀ events).1.hdg.hdgSet) :
    trunc (targetAfter .gHdgDataref env₀.gHdgDataref (session hash env₀ events).2) =
        trunc (session hash env₀ events).1.hdg.hdgSet ↔
      trunc env₀.gHdgDataref = 0 ∨ ∃ x ∈ foundHeadings hash env₀ events, trunc x ≠ 0 := by
  have htrunc : trunc (0 : ℚ) = 0 := trunc_intCast 0
  have hnone : values .gHdgDataref (session hash env₀ events).2 = [] ↔
      ¬ ∃ x ∈ foundHeadings hash env₀ events, trunc x ≠ 0 := by
    rw [values_hdg, SampledRegister.tail_destutter'_eq_nil_iff]
    simp [htrunc]
  have hheld := hdg_eq_targetAfter hash env₀ events
  rw [← h, targetAfter_eq, hheld, targetAfter_eq]
  cases hlast : (values .gHdgDataref (session hash env₀ events).2).getLast? with
  | none =>
    -- nothing was written, and the simulator has the heading of the start
    have hempty := hnone.mp (List.getLast?_eq_none_iff.mp hlast)
    rw [Option.getD_none, Option.getD_none, htrunc, or_iff_left hempty]
  | some x =>
    have hsome : values .gHdgDataref (session hash env₀ events).2 ≠ [] := by
      intro heq
      rw [heq] at hlast
      cases hlast
    exact iff_of_true rfl (.inr (not_not.mp (hnone.not.mp hsome)))

/-! ## Speed -/

/-- A click of the speed knob, which stops at its bounds. -/
def Command.turnSpeed : Command → ℚ → ℚ
  | .spdLeft => fun x => max minSpeed (x - 1)
  | .spdRight => fun x => min 999 (x + 1)
  | _ => id

/-- What an event does to the dialled speed, as long as the speed is not handed over. -/
def Event.turnSpeed : Event → ℚ → ℚ
  | .packet _ recvbuf => fun x => (dispatch hash recvbuf).elim x fun c => c.turnSpeed x
  | .update _ => id

theorem spdRegister_dialled (i : Event) (s : Globals) (h : (spdRegister hash).regular i s) :
    (spdRegister hash).dialled (i.step hash s).1 =
      i.turnSpeed hash ((spdRegister hash).dialled s) := by
  change (i.step hash s).1.spd.spdSet = i.turnSpeed hash s.spd.spdSet
  cases i with
  | packet env recvbuf =>
    rw [Event.step_packet, processPacket_spd, Event.turnSpeed]
    cases dispatch hash recvbuf with
    | none => rfl
    | some c =>
      cases c with
      | spdLeft => exact ite_lt_eq_max _ _
      | spdRight => exact ite_lt_eq_min _ _
      | _ => rfl
  | update env =>
    -- the speed is not handed over, so that no reading becomes the dialled value
    have hkept : ¬ (env.gSpdManagedDataref ≠ 0 ∧ s.spd.spdManaged = true) :=
      fun hreleased => h env rfl hreleased.symm
    change (update env s).1.spd.spdSet = s.spd.spdSet
    rw [update_spdSet, if_neg hkept]

/-- **Speed**: as long as no update hands the speed over, a run turns the knob from where it is,
within its bounds, and writes the speeds that its updates find, without repetitions. What `Spd`
holds before counts as the first speed: one with the same integer part is not written. -/
theorem speed_written (env₀ : Datarefs) (pre events : List Event)
    (h : ∀ mid env, mid ++ [.update env] <+: events →
      ¬ SpdReleased env (session hash env₀ (pre ++ mid)).1) :
    let s := (session hash env₀ pre).1
    (session hash env₀ (pre ++ events)).1.spd.spdSet =
      events.foldl (fun x i => i.turnSpeed hash x) s.spd.spdSet ∧
    values .gSpdDataref (session hash env₀ (pre ++ events)).2 =
      values .gSpdDataref (session hash env₀ pre).2 ++
        ((SampledRegister.dials Event.isUpdate (Event.turnSpeed hash) s.spd.spdSet
          events).destutter' TruncDiffers s.spd.spd).tail := by
  intro s
  have hrun : ∀ is, session hash env₀ (pre ++ is) =
      run (Event.step hash) (session hash env₀ pre) is := fun is => run_append _ _ _ _
  have hregular : (spdRegister hash).Regularly (session hash env₀ pre) events := by
    -- the states of the run are those of the register
    rintro mid i hmid env rfl
    rw [← hrun]
    exact h mid env hmid
  have hturn := spdRegister_dialled hash
  rw [hrun]
  constructor
  · exact (spdRegister hash).dialled_run hturn hregular
  · have hwrite := (spdRegister hash).write_run hregular
    rwa [(spdRegister hash).sampled_eq_dials hturn hregular] at hwrite

/-- One click at 250 kt, in selected mode. -/
theorem speed_written_click : ∃ env : Datarefs,
    values .gSpdDataref (session fnv1a env
      ([] ++ [.packet env Command.spdRight.literal, .update env])).2 = [251] := by
  let env : Datarefs := { Datarefs.zero with gSpdDataref := 250, gSpdManagedDataref := 1 }
  have hstart : (started env).1.spd.spd = 250 ∧ (started env).1.spd.spdSet = 250 ∧
      (started env).1.spd.spdManaged = false := by
    rw [started_fst]
    simp [env]
  have hclick : ∀ x, Event.turnSpeed fnv1a (.packet env Command.spdRight.literal) x =
      min 999 (x + 1) := by
    intro x
    rw [Event.turnSpeed, separatesLiterals_fnv1a.dispatch_literal]
    rfl
  -- the window is selected all the time
  have hkept : ∀ mid env', mid ++ [.update env'] <+:
      [.packet env Command.spdRight.literal, .update env] →
        ¬ SpdReleased env' (session fnv1a env ([] ++ mid)).1 := by
    rintro mid env' hmid ⟨hmanaged, -⟩
    rcases mid with _ | ⟨i, _ | ⟨j, mid⟩⟩
    · simp at hmid
    · obtain ⟨rfl, -⟩ := List.cons_prefix_cons.mp hmid
      obtain ⟨_, _, _, _, _, _, h⟩ := session_packet_dialled fnv1a env [] env
        Command.spdRight.literal
      rw [h, session_nil, hstart.2.2] at hmanaged
      cases hmanaged
    · have hlength := hmid.length_le
      simp at hlength
  obtain ⟨-, hvalues⟩ := speed_written fnv1a env [] _ hkept
  refine ⟨env, hvalues.trans ?_⟩
  rw [session_nil, values_started, hstart.1, hstart.2.1]
  have htrunc : trunc (251 : ℚ) = 251 ∧ trunc (250 : ℚ) = 250 :=
    ⟨trunc_intCast 251, trunc_intCast 250⟩
  norm_num [SampledRegister.dials, Event.isUpdate, hclick, htrunc]

end SkalarkiFcu
