import SkalarkiFcu.Library.History
import SkalarkiFcu.Update

/-!
# Runs of the plugin

A run starts with `Init` and `InitDatarefs` and continues with the packets and updates of the
flight loop in any order, each under its own readings of the datarefs.
-/

namespace SkalarkiFcu

open LittleEndian Reactive History Truncation

/-! ## Runs -/

/-- What the flight loop does next. -/
inductive Event where
  | packet (env : Datarefs) (recvbuf : Bytes)
  | update (env : Datarefs)

/-- `ProcessPacket` or `Update`. -/
def Event.step (hash : Bytes → UInt64) : Event → Action Globals Effect
  | .packet env recvbuf => processPacket hash env recvbuf
  | .update env => SkalarkiFcu.update env

@[simp] theorem Event.step_update (hash : Bytes → UInt64) (env : Datarefs) :
    (Event.update env).step hash = SkalarkiFcu.update env := rfl

/-- The plugin after `Init`, and after `InitDatarefs` under the readings `env₀`. -/
def started (env₀ : Datarefs) : Config Globals Effect :=
  exec (initDatarefs env₀) (exec init (Globals.initial, []))

/-- A run: the globals it ends in and everything that was emitted since the start. -/
def session (hash : Bytes → UInt64) (env₀ : Datarefs) (events : List Event) :
    Config Globals Effect :=
  run (Event.step hash) (started env₀) events

section Session

variable (hash : Bytes → UInt64) (env₀ : Datarefs) (pre : List Event)

@[simp] theorem session_nil : session hash env₀ [] = started env₀ := rfl

theorem session_packet (env : Datarefs) (recvbuf : Bytes) :
    session hash env₀ (pre ++ [.packet env recvbuf]) =
      exec (processPacket hash env recvbuf) (session hash env₀ pre) := run_concat ..

theorem session_packet_dialled (env : Datarefs) (recvbuf : Bytes) :
    (session hash env₀ pre).1.Dialled (session hash env₀ (pre ++ [.packet env recvbuf])).1 := by
  rw [session_packet, exec_fst]
  exact processPacket_dialled hash env recvbuf _

theorem session_update (env : Datarefs) :
    session hash env₀ (pre ++ [.update env]) =
      exec (SkalarkiFcu.update env) (session hash env₀ pre) := run_concat ..

end Session

/-- Induction on a history, by its last event. -/
@[elab_as_elim]
theorem history_induction {motive : List Event → Prop} (nil : motive [])
    (packet : ∀ pre env recvbuf, motive pre → motive (pre ++ [.packet env recvbuf]))
    (update : ∀ pre env, motive pre → motive (pre ++ [.update env])) (events : List Event) :
    motive events := by
  induction events using List.reverseRecOn with
  | nil => exact nil
  | append_singleton pre e ih =>
    cases e with
    | packet env recvbuf => exact packet pre env recvbuf ih
    | update env => exact update pre env ih

/-- What a run pushes is pushed by its start and its updates. -/
theorem forall_pushes_session {P : Frame → Prop} {env₀ : Datarefs}
    (hstart : ∀ f ∈ pushes (started env₀).2, P f)
    (hupdate : ∀ env s, ∀ f ∈ pushes (update env s).2, P f) (hash : Bytes → UInt64)
    (events : List Event) : ∀ f ∈ pushes (session hash env₀ events).2, P f := by
  induction events using history_induction with
  | nil => exact hstart
  | packet pre env recvbuf ih =>
    rw [session_packet, exec_snd, pushes_append, pushes_processPacket, List.append_nil]
    exact ih
  | update pre env ih =>
    rw [session_update, exec_snd, pushes_append, List.forall_mem_append]
    exact ⟨ih, hupdate env _⟩

/-! ## The packets of a run -/

/-- The bytes of a packet. -/
def Event.recvbuf? : Event → Option Bytes
  | .packet _ recvbuf => some recvbuf
  | .update _ => none

theorem Event.step_packet (hash : Bytes → UInt64) (env : Datarefs) (recvbuf : Bytes) :
    (Event.packet env recvbuf).step hash = processPacket hash env recvbuf := rfl

/-- The packets of a history, in order. -/
def packets (events : List Event) : List Bytes := events.filterMap Event.recvbuf?

theorem packets_packet (pre : List Event) (env : Datarefs) (recvbuf : Bytes) :
    packets (pre ++ [.packet env recvbuf]) = packets pre ++ [recvbuf] := by
  simp [packets, Event.recvbuf?]

theorem packets_update (pre : List Event) (env : Datarefs) :
    packets (pre ++ [.update env]) = packets pre := by
  simp [packets, Event.recvbuf?]

/-! ## Properties at every update -/

/-- `Q` holds at every update of a run, given the events before it. -/
def AtUpdates (Q : List Event → Datarefs → Prop) (events : List Event) : Prop :=
  ∀ pre env, pre ++ [.update env] <+: events → Q pre env

/-- No update has run yet. -/
def BeforeUpdates (pre : List Event) : Prop := ∀ env, Event.update env ∉ pre

/-- `Q` as a property along the history. -/
def Event.lift (Q : List Event → Datarefs → Prop) (pre : List Event) : Event → Prop
  | .packet _ _ => True
  | .update env => Q pre env

theorem atUpdates_iff_along (Q : List Event → Datarefs → Prop) (events : List Event) :
    AtUpdates Q events ↔ Along (Event.lift Q) events := by
  constructor
  · intro h pre e he
    cases e with
    | packet => trivial
    | update env => exact h pre env he
  · intro h pre env he
    exact h pre (.update env) he

/-- **Comparison at the updates** of a run, under an invariant of the packets and of the
updates at which the property holds. -/
theorem atUpdates_iff {Q R : List Event → Datarefs → Prop} {I : List Event → Prop}
    {events : List Event} (hnil : I [])
    (hpacket : ∀ pre env recvbuf, I pre → I (pre ++ [.packet env recvbuf]))
    (hiff : ∀ pre env, .update env ∈ events → I pre → (Q pre env ↔ R pre env))
    (hupdate : ∀ pre env, .update env ∈ events → I pre → Q pre env →
      I (pre ++ [.update env])) :
    AtUpdates Q events ↔ AtUpdates R events := by
  have hmem : ∀ {pre : List Event} {e : Event}, pre ++ [e] <+: events → e ∈ events :=
    fun h => h.subset (by simp)
  rw [atUpdates_iff_along, atUpdates_iff_along]
  apply along_iff hnil
  · intro pre e he hI
    cases e with
    -- both sides speak of updates only
    | packet => exact Iff.rfl
    | update env => exact hiff pre env (hmem he) hI
  · intro pre e he hI hQ
    cases e with
    | packet env recvbuf => exact hpacket pre env recvbuf hI
    | update env => exact hupdate pre env (hmem he) hI hQ

theorem beforeUpdates_nil : BeforeUpdates [] := fun _ => List.not_mem_nil

@[simp] theorem beforeUpdates_packet (pre : List Event) (env : Datarefs) (recvbuf : Bytes) :
    BeforeUpdates (pre ++ [.packet env recvbuf]) ↔ BeforeUpdates pre := by
  simp [BeforeUpdates]

theorem not_beforeUpdates_update (pre : List Event) (env : Datarefs) :
    ¬ BeforeUpdates (pre ++ [.update env]) := fun h => h env (by simp)

/-! ## The start -/

section Start

variable (env₀ : Datarefs)

theorem started_fst : (started env₀).1 = { Globals.initial with
    alt := ⟨0, env₀.gAltDataref, decide (env₀.gAltManagedDataref = 1), env₀.gAltModeDataref, true⟩
    hdg := ⟨0, env₀.gHdgDataref, decide (trunc env₀.gHdgManagedDataref = 0), true⟩
    spd := ⟨250, env₀.gSpdDataref, decide (env₀.gSpdManagedDataref = 0), true⟩
    vs := ⟨0, decide (trunc env₀.gVsManagedDataref = 0), true⟩
    baroCpt := InitDatarefs.baro env₀.baroCpt .initial
    baroFo := InitDatarefs.baro env₀.baroFo .initial } := by
  have hspd : (InitDatarefs.spd env₀ Globals.initial.spd).1 =
      ⟨250, env₀.gSpdDataref, decide (env₀.gSpdManagedDataref = 0), true⟩ := by
    -- the mode decides whether the dot is pushed, and not what is stored
    by_cases h : env₀.gSpdManagedDataref = 0 <;>
      simp [InitDatarefs.spd, Globals.initial, h]
  simp only [started, exec_fst, init_fst, initDatarefs_fst, hspd]
  simp [InitDatarefs.alt, InitDatarefs.hdg, InitDatarefs.vs, Globals.initial]

end Start

/-- The lights that `Init` switches on. -/
def backlights : List Frame :=
  [⟨sendbufBacklightOn, sendbufLenBacklightOn⟩, ⟨altLvlChngOn, altLvlChngOnLen⟩,
    ⟨hdgVsOn, hdgVsOnLen⟩, ⟨spdOn, spdOnLen⟩, ⟨latOn, latOnLen⟩]

theorem aims_backlight (t : Target) {f : Frame} (hf : f ∈ backlights) :
    Effect.aims t (.push f) = false := by
  have hdisplay : ∀ f ∈ backlights, readDisplayFrame f.message = none := by decide
  have hlamp : ∀ f ∈ backlights, ∀ l : Lamp, (readLampFrame f.message).any l.owns = false := by
    intro f hf l
    simp only [backlights, List.mem_cons, List.not_mem_nil, or_false] at hf
    rcases l with k | d
    · cases k <;> rcases hf with rfl | rfl | rfl | rfl | rfl <;> decide
    · cases d <;> rcases hf with rfl | rfl | rfl | rfl | rfl <;> decide
  -- no frame of the lights has the header of a window or the code of a lamp
  cases t with
  | window w => simp [Effect.aims, hdisplay f hf]
  | lamp l => exact hlamp f hf l

/-- The windows as `Init` shows them. -/
def openings : List Frame :=
  [Window.hdg.frame (threeDigitsText true 0), Window.alt.frame (altText 0),
    Window.spd.frame (threeDigitsText true 250), Window.vs.frame (vsText true 0),
    Window.baroCpt.frame (inHgText (trunc ((29.92 : ℚ) * 100))),
    Window.baroFo.frame (inHgText (trunc ((29.92 : ℚ) * 100)))]

theorem init_snd : (init Globals.initial).2 = (backlights ++ openings).map .push := by
  have h250 : trunc (250 : ℚ) = 250 := trunc_intCast 250
  have hcpt : updateBaroCpt Baro.initial 29.92 = _ := sendbufBaroLeft_for.inHg _ _ rfl
  have hfo : updateBaroFo Baro.initial 29.92 = _ := sendBufBaroRight_for.inHg _ _ rfl
  have hbaro : Baro.initial.baro = 29.92 := rfl
  have hlights : pushMessage ⟨sendbufBacklightOn, sendbufLenBacklightOn⟩ ++
      pushMessage ⟨altLvlChngOn, altLvlChngOnLen⟩ ++ pushMessage ⟨hdgVsOn, hdgVsOnLen⟩ ++
      pushMessage ⟨spdOn, spdOnLen⟩ ++ pushMessage ⟨latOn, latOnLen⟩ =
        backlights.map Effect.push := rfl
  -- every window in managed mode, the altitude and the barometers with their initial values
  rw [init, hlights, updateHdg_eq, updateAlt_eq, updateSpd_eq, updateVs_eq]
  simp only [Globals.initial, hbaro, hcpt, hfo, h250, trunc_zero, List.map_append,
    List.append_assoc]
  rfl

/-- `Init` shows every window once and addresses no lamp that follows the simulator. -/
theorem framesFor_init (t : Target) : framesFor t (init Globals.initial).2 = match t with
    | .window .spd => [.push (Window.spd.frame (threeDigitsText true 250))]
    | .window .hdg => [.push (Window.hdg.frame (threeDigitsText true 0))]
    | .window .alt => [.push (Window.alt.frame (altText 0))]
    | .window .vs => [.push (Window.vs.frame (vsText true 0))]
    | .window .baroCpt => [.push (Window.baroCpt.frame (inHgText (trunc ((29.92 : ℚ) * 100))))]
    | .window .baroFo => [.push (Window.baroFo.frame (inHgText (trunc ((29.92 : ℚ) * 100))))]
    | .lamp _ => [] := by
  have hlights : framesFor t (backlights.map Effect.push) = [] := by
    rw [framesFor, List.filter_eq_nil_iff]
    intro e he
    obtain ⟨f, hf, rfl⟩ := List.mem_map.mp he
    rw [aims_backlight t hf]
    exact Bool.false_ne_true
  -- the lights aim at nothing, and every window has one opening
  rw [init_snd, List.map_append, framesFor_append, hlights, List.nil_append, openings]
  cases t with
  | window w => cases w <;> simp [framesFor]
  | lamp l => simp [framesFor]

/-- The frames of the start, in order: the lights, the windows, and the speed dot. -/
theorem started_snd (env₀ : Datarefs) : (started env₀).2 = (backlights ++ openings ++
    [if env₀.gSpdManagedDataref = 0 then Dot.spd.onFrame else Dot.spd.offFrame]).map .push := by
  have hsnd : (InitDatarefs.spd env₀ Globals.initial.spd).2 =
      [.push (if env₀.gSpdManagedDataref = 0 then Dot.spd.onFrame else Dot.spd.offFrame)] := by
    by_cases h : env₀.gSpdManagedDataref = 0 <;>
      simp [InitDatarefs.spd, Globals.initial, h]
  rw [started, exec_snd, exec_snd, initDatarefs_snd, exec_fst, init_fst, hsnd, init_snd]
  simp

/-- The frames after the start: those of `Init`, and the speed dot. -/
theorem framesFor_started (env₀ : Datarefs) {t : Target} (ht : t ≠ .lamp (.dot .spd)) :
    framesFor t (started env₀).2 = framesFor t (init Globals.initial).2 := by
  simp [started, framesFor_append, framesFor_initDatarefs _ _ ht]

theorem framesFor_started_spdDot (env₀ : Datarefs) :
    framesFor (.lamp (.dot .spd)) (started env₀).2 =
      [.push (if env₀.gSpdManagedDataref = 0 then Dot.spd.onFrame else Dot.spd.offFrame)] := by
  rw [started_snd, List.map_append, framesFor_append, ← init_snd, framesFor_init]
  by_cases h : env₀.gSpdManagedDataref = 0 <;> simp [framesFor, h]

section Frames

variable (hash : Bytes → UInt64) (env₀ : Datarefs) (pre : List Event) (t : Target)

theorem framesFor_session_packet (env : Datarefs) (recvbuf : Bytes) :
    framesFor t (session hash env₀ (pre ++ [.packet env recvbuf])).2 =
      framesFor t (session hash env₀ pre).2 := by
  rw [session_packet, exec_snd, framesFor_append,
    framesFor_of_pushes_eq_nil t (pushes_processPacket hash env recvbuf _), List.append_nil]

theorem framesFor_session_update (env : Datarefs) :
    framesFor t (session hash env₀ (pre ++ [.update env])).2 =
      framesFor t (session hash env₀ pre).2 ++
        framesFor t (update env (session hash env₀ pre).1).2 := by
  rw [session_update, exec_snd, framesFor_append]

variable {w : Window} {text : Bytes}

/-- At the start a window shows what `Init` has pushed for it. -/
theorem displays_session_nil
    (h : framesFor (.window w) (init Globals.initial).2 = [.push (w.frame text)]) :
    Displays w (session hash env₀ []).2 text := by
  rw [displays_iff, session_nil, framesFor_started _ (by simp), h]
  rfl

variable {hash env₀ pre}

/-- No packet changes what a window shows. -/
theorem Displays.packet (h : Displays w (session hash env₀ pre).2 text) (env : Datarefs)
    (recvbuf : Bytes) : Displays w (session hash env₀ (pre ++ [.packet env recvbuf])).2 text := by
  rw [displays_iff, framesFor_session_packet]
  exact h

end Frames

end SkalarkiFcu
