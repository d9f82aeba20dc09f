import SkalarkiFcu.Library.Component
import SkalarkiFcu.BaroSides
import SkalarkiFcu.Dials
import SkalarkiFcu.NdMode
import SkalarkiFcu.Quiescence

/-!
# The channels of the panel

`Update` is one long function over global variables, and every button ends in the same
`ProcessPacket`. Nevertheless the windows, annunciators, mode selectors and barometers do not
influence each other: each is a component with its own globals, knobs, datarefs and effects.
What no component emits is the start, and the direct answer of a packet.

## Architecture

- **Channels**: `Channel`, with `Channel.State`, `Channel.get` and `Effect.channel?`
- **Inputs**: `Channel.knob`, `Channel.reads`, `Channel.sees`
- **Components**: `Channel.simulates_update`, `Channel.simulates_packet`, `Channel.component`
- **Runs**: `channels_independent`, and `relayed_session` for everything else
-/

namespace SkalarkiFcu

open LittleEndian Reactive

/-! ## Channels -/

/-- What works for itself on the panel. -/
inductive Channel where
  | spd | hdg | alt | vs
  | annunciator (k : Annunciator)
  | nd (side : Side)
  | baro (side : Side)
  deriving DecidableEq, Repr

/-- The channel of a window or lamp; a managed-mode dot belongs to its window. -/
def Target.channel : Target → Channel
  | .window .spd | .lamp (.dot .spd) => .spd
  | .window .hdg | .lamp (.dot .hdg) => .hdg
  | .window .alt | .lamp (.dot .alt) => .alt
  | .window .vs => .vs
  | .window .baroCpt => .baro .cpt
  | .window .baroFo => .baro .fo
  | .lamp (.annunciator k) => .annunciator k

/-- The channel of a target that the plugin writes. -/
def DatafRef.channel : DatafRef → Channel
  | .gSpdDataref => .spd
  | .gHdgDataref => .hdg
  | .gAltDataref => .alt

/-- The windows and lamps of the panel. -/
def targets : List Target :=
  [.window .spd, .window .hdg, .window .alt, .window .vs, .window .baroCpt, .window .baroFo,
    .lamp (.dot .spd), .lamp (.dot .hdg), .lamp (.dot .alt),
    .lamp (.annunciator .athr), .lamp (.annunciator .appr), .lamp (.annunciator .ap1),
    .lamp (.annunciator .ap2), .lamp (.annunciator .masterCaution),
    .lamp (.annunciator .masterWarning), .lamp (.annunciator .lsCpt),
    .lamp (.annunciator .fdCpt), .lamp (.annunciator .lsFo), .lamp (.annunciator .fdFo),
    .lamp (.annunciator .loc)]

/-- The channel that an effect belongs to: that of the frame's target, of the mode knob that is
turned, or of the target that is written. -/
def Effect.channel? : Effect → Option Channel
  | .push f => (targets.find? fun t => Effect.aims t (.push f)).map Target.channel
  | .commandOnce .gNdModeCptLeftDataref | .commandOnce .gNdModeCptRightDataref => some (.nd .cpt)
  | .commandOnce .gNdModeFoLeftDataref | .commandOnce .gNdModeFoRightDataref => some (.nd .fo)
  | .setDataf d _ => some d.channel
  | .commandOnce _ | .setDatai _ _ | .invoke _ | .debugString _ => none

theorem Target.Takes.channel? {t : Target} {f : Frame} (h : t.Takes f) :
    (Effect.push f).channel? = some t.channel := by
  -- the frame aims at its target and at no other
  have hfind : (targets.find? fun t' => decide (t' = t)) = some t := by
    rcases t with w | k | d
    · cases w <;> rfl
    · cases k <;> rfl
    · cases d <;> rfl
  have haims : (fun t' => Effect.aims t' (.push f)) = fun t' => decide (t' = t) :=
    funext h.aims
  rw [Effect.channel?, haims, hfind, Option.map_some]

theorem channel?_backlight {f : Frame} (hf : f ∈ backlights) :
    (Effect.push f).channel? = none := by
  have hfind : (targets.find? fun t => Effect.aims t (.push f)) = none :=
    List.find?_eq_none.mpr fun t _ => by simp [aims_backlight t hf]
  rw [Effect.channel?, hfind, Option.map_none]

@[simp] theorem channel?_setDataf (d : DatafRef) (v : ℚ) :
    (Effect.setDataf d v).channel? = some d.channel := rfl

@[simp] theorem channel?_frame (w : Window) {text : Bytes} (h : text.length < 256) :
    (Effect.push (w.frame text)).channel? = some (Target.window w).channel :=
  Target.Takes.channel? (t := .window w) ⟨text, h, rfl⟩

@[simp] theorem channel?_dot_on (d : Dot) :
    (Effect.push d.onFrame).channel? = some (Target.lamp (.dot d)).channel :=
  Target.Takes.channel? (t := .lamp (.dot d)) (.inl rfl)

@[simp] theorem channel?_dot_off (d : Dot) :
    (Effect.push d.offFrame).channel? = some (Target.lamp (.dot d)).channel :=
  Target.Takes.channel? (t := .lamp (.dot d)) (.inr rfl)

@[simp] theorem channel?_annunciator_on (k : Annunciator) :
    (Effect.push k.onFrame).channel? = some (.annunciator k) :=
  Target.Takes.channel? (t := .lamp (.annunciator k)) (.inl rfl)

@[simp] theorem channel?_annunciator_off (k : Annunciator) :
    (Effect.push k.offFrame).channel? = some (.annunciator k) :=
  Target.Takes.channel? (t := .lamp (.annunciator k)) (.inr rfl)

namespace Channel

/-- The globals of a channel. -/
def State : Channel → Type
  | .spd => SpdWindow
  | .hdg => HdgWindow
  | .alt => AltWindow
  | .vs => VsWindow
  | .annunciator _ => ℤ
  | .nd _ => NdSelector
  | .baro _ => Baro

def get : (ch : Channel) → Globals → ch.State
  | .spd => Globals.spd
  | .hdg => Globals.hdg
  | .alt => Globals.alt
  | .vs => Globals.vs
  | .annunciator k => fun s => s.state k
  | .nd side => side.selector
  | .baro side => side.baro

/-- The effects of a channel. -/
def owns (ch : Channel) (e : Effect) : Bool := e.channel? = some ch

end Channel

/-- Every effect of a trace belongs to the channel. -/
def Belongs (ch : Channel) (es : List Effect) : Prop := ∀ e ∈ es, e.channel? = some ch

theorem Belongs.append {ch : Channel} {es fs : List Effect} (h : Belongs ch es)
    (h' : Belongs ch fs) : Belongs ch (es ++ fs) := List.forall_mem_append.mpr ⟨h, h'⟩

/-- A channel owns all of its own effects, and none of those of another. -/
theorem Belongs.filter {ch : Channel} {es : List Effect} (h : Belongs ch es) (ch' : Channel) :
    es.filter ch'.owns = if ch' = ch then es else [] := by
  split_ifs with heq
  · rw [List.filter_eq_self]
    intro e he
    rw [Channel.owns, h e he, heq, decide_eq_true rfl]
  · rw [List.filter_eq_nil_iff]
    intro e he howns
    rw [Channel.owns, h e he, decide_eq_true_eq, Option.some_inj] at howns
    exact heq howns.symm

/-! ### The effects of each part of Update -/

namespace Update

variable (env : Datarefs)

theorem vsValue_belongs (w : VsWindow) : Belongs .vs (vsValue env w).2 := by
  simp only [vsValue, updateVs_eq]
  split_ifs <;> simp [Belongs, Target.channel]

theorem vsMode_belongs (w : VsWindow) : Belongs .vs (vsMode env w).2 := by
  simp only [vsMode, updateVs_eq]
  split_ifs <;> simp [Belongs, Target.channel]

theorem altMode_belongs (w : AltWindow) : Belongs .alt (altMode env w).2 := by
  simp only [altMode, pushMessage_dot_on, pushMessage_dot_off]
  split_ifs <;> simp [Belongs, Target.channel]

theorem annunciator_belongs (k : Annunciator) (n : ℤ) :
    Belongs (.annunciator k) (annunciator k env n).2 := by
  simp only [annunciator, pushMessage_annunciator_on, pushMessage_annunciator_off]
  split_ifs <;> simp [Belongs]

theorem annunciator_congr {env env' : Datarefs} {k : Annunciator}
    (h : env.annunciator k = env'.annunciator k) : annunciator k env = annunciator k env' := by
  funext n
  simp only [annunciator, h]

theorem hdgMode_belongs (w : HdgWindow) : Belongs .hdg (hdgMode env w).2 := by
  simp only [hdgMode, updateHdg_eq, pushMessage_dot_on, pushMessage_dot_off]
  split_ifs <;> simp [Belongs, Target.channel]

theorem spdMode_belongs (w : SpdWindow) : Belongs .spd (spdMode env w).2 := by
  simp only [spdMode, updateSpd_eq, pushMessage_dot_on, pushMessage_dot_off]
  split_ifs <;> simp [Belongs, Target.channel]

theorem ndMode_belongs (side : Side) (sel : NdSelector) :
    Belongs (.nd side) (ndMode side.knobLeft side.knobRight sel).2 := by
  rw [ndMode_eq]
  intro e he
  -- all clicks turn the same mode knob
  rw [List.eq_of_mem_replicate he]
  cases side <;> split_ifs <;> rfl

theorem hdgValue_belongs (w : HdgWindow) : Belongs .hdg (hdgValue w).2 := by
  simp only [hdgValue, updateHdg_eq]
  split_ifs <;> simp [Belongs, Target.channel, DatafRef.channel]

theorem spdValue_belongs (w : SpdWindow) : Belongs .spd (spdValue w).2 := by
  simp only [spdValue, updateSpd_eq]
  split_ifs <;> simp [Belongs, Target.channel, DatafRef.channel]

theorem altValue_belongs (w : AltWindow) : Belongs .alt (altValue w).2 := by
  simp only [altValue, updateAlt_eq]
  split_ifs <;> simp [Belongs, Target.channel, DatafRef.channel]

theorem baro_belongs (side : Side) (d : BaroDatarefs) (b : Baro) :
    Belongs (.baro side) (baro side.buffers d b).2 := by
  rw [baro_eq_mapEffects side.buffers_for]
  intro e he
  obtain ⟨text, htext, rfl⟩ := List.mem_map.mp he
  rw [channel?_frame _ (length_baroPipeline d b text htext)]
  cases side <;> rfl

end Update

/-! ## Inputs -/

/-- What reaches a channel: a click of one of its knobs, or an update. -/
inductive Channel.Input where
  | turn (env : Datarefs) (c : Command)
  | update (env : Datarefs)

namespace Channel

/-- The handler is that of a knob of the channel. -/
def knob : Channel → Command → Bool
  | .spd, c => c == .spdLeft || c == .spdRight
  | .hdg, c => c == .hdgLeft || c == .hdgRight
  | .alt, c => c == .altLeft || c == .altRight
  | .nd side, c => (side.ndPosition c).isSome
  | .vs, _ | .annunciator _, _ | .baro _, _ => false

/-- The datarefs that a channel reads in the course of a run; all others read 0. -/
def reads : Channel → Datarefs → Datarefs
  | .spd, env => { Datarefs.zero with
      gSpdDataref := env.gSpdDataref, gSpdManagedDataref := env.gSpdManagedDataref }
  | .hdg, env => { Datarefs.zero with gHdgManagedDataref := env.gHdgManagedDataref }
  | .alt, env => { Datarefs.zero with
      gAltModeDataref := env.gAltModeDataref, gAltManagedDataref := env.gAltManagedDataref }
  | .vs, env => { Datarefs.zero with
      gVsDataref := env.gVsDataref, gVsManagedDataref := env.gVsManagedDataref }
  | .annunciator k, env => { Datarefs.zero with
      annunciator := Function.update (fun _ => 0) k (env.annunciator k) }
  | .nd _, _ => .zero
  | .baro .cpt, env => { Datarefs.zero with baroCpt := env.baroCpt }
  | .baro .fo, env => { Datarefs.zero with baroFo := env.baroFo }

/-- The datarefs that a channel reads at the start: the targets are among them. -/
def readsAtStart : Channel → Datarefs → Datarefs
  | .hdg, env => { Datarefs.zero with
      gHdgDataref := env.gHdgDataref, gHdgManagedDataref := env.gHdgManagedDataref }
  | .alt, env => { Datarefs.zero with
      gAltDataref := env.gAltDataref, gAltModeDataref := env.gAltModeDataref
      gAltManagedDataref := env.gAltManagedDataref }
  | .vs, env => { Datarefs.zero with gVsManagedDataref := env.gVsManagedDataref }
  | .annunciator _, _ => .zero
  | ch, env => ch.reads env

/-- What a channel sees of an event. -/
def sees (hash : Bytes → UInt64) (ch : Channel) : Event → Option Input
  | .packet env recvbuf =>
    ((dispatch hash recvbuf).filter ch.knob).map (.turn (ch.reads env))
  | .update env => some (.update (ch.reads env))

/-- What a click of a knob does to the channel. -/
def turn : (ch : Channel) → Datarefs → Command → ch.State → ch.State
  | .spd, _, c => c.turnSpd
  | .hdg, _, c => c.turnHdg
  | .alt, env, c => c.turnAlt env
  | .nd side, _, c => fun sel => (side.ndPosition c).elim sel fun n => ndModeTo (n : ℕ) sel
  | .vs, _, _ | .annunciator _, _, _ | .baro _, _, _ => id

/-- The parts of `Update` that work with the channel, in their order. -/
def update : (ch : Channel) → Datarefs → Action ch.State Effect
  | .spd, env => .seq (Update.spdMode env) Update.spdValue
  | .hdg, env => .seq (Update.hdgMode env) Update.hdgValue
  | .alt, env => .seq (Update.altMode env) Update.altValue
  | .vs, env => .seq (Update.vsValue env) (Update.vsMode env)
  | .annunciator k, env => Update.annunciator k env
  | .nd side, _ => Update.ndMode side.knobLeft side.knobRight
  | .baro side, env => Update.baro side.buffers (side.datarefs env)

def respond (ch : Channel) : Input → Action ch.State Effect
  | .turn env c => fun x => (ch.turn env c x, [])
  | .update env => ch.update env

/-! ## Components -/

variable (ch : Channel)

/-- No part of `Update` reads a dataref that does not belong to its channel. -/
theorem update_reads (env : Datarefs) : ch.update (ch.reads env) = ch.update env := by
  cases ch with
  | annunciator k =>
    have hreads : ((annunciator k).reads env).annunciator k = env.annunciator k := by
      simp [reads]
    exact Update.annunciator_congr hreads
  | baro side => cases side <;> rfl
  | _ => rfl

theorem turn_reads (env : Datarefs) (c : Command) : ch.turn (ch.reads env) c = ch.turn env c := by
  cases ch with
  | alt => cases c <;> rfl
  | _ => rfl

/-- A channel emits nothing but effects of its own. -/
theorem update_belongs (env : Datarefs) (x : ch.State) : Belongs ch (ch.update env x).2 := by
  cases ch with
  | spd => exact (Update.spdMode_belongs env x).append (Update.spdValue_belongs _)
  | hdg => exact (Update.hdgMode_belongs env x).append (Update.hdgValue_belongs _)
  | alt => exact (Update.altMode_belongs env x).append (Update.altValue_belongs _)
  | vs => exact (Update.vsValue_belongs env x).append (Update.vsMode_belongs env _)
  | annunciator k => exact Update.annunciator_belongs env k x
  | nd side => exact Update.ndMode_belongs side x
  | baro side => exact Update.baro_belongs side _ x

theorem get_update (env : Datarefs) (s : Globals) :
    ch.get (SkalarkiFcu.update env s).1 = (ch.update env (ch.get s)).1 := by
  cases ch with
  | spd => exact update_spd env s
  | hdg => exact update_hdg env s
  | alt => exact update_alt env s
  | vs => exact update_vs env s
  | annunciator k => exact update_state env s k
  | nd side =>
    cases side with
    | cpt => exact update_ndCpt env s
    | fo => exact update_ndFo env s
  | baro side => exact side.baro_update env s

/-- The effects of an update that belong to a channel are those of its parts. -/
theorem filter_update (env : Datarefs) (s : Globals) :
    (SkalarkiFcu.update env s).2.filter ch.owns = (ch.update env (ch.get s)).2 := by
  have hndCpt : ∀ sel, (Update.ndMode .gNdModeCptLeftDataref .gNdModeCptRightDataref sel).2.filter
      ch.owns = if ch = .nd .cpt then _ else [] := fun sel =>
    (Update.ndMode_belongs .cpt sel).filter ch
  have hndFo : ∀ sel, (Update.ndMode .gNdModeFoLeftDataref .gNdModeFoRightDataref sel).2.filter
      ch.owns = if ch = .nd .fo then _ else [] := fun sel =>
    (Update.ndMode_belongs .fo sel).filter ch
  have hbaroCpt : ∀ d b, (Update.baro sendbufBaroLeft d b).2.filter ch.owns =
      if ch = .baro .cpt then _ else [] := fun d b => (Update.baro_belongs .cpt d b).filter ch
  have hbaroFo : ∀ d b, (Update.baro sendBufBaroRight d b).2.filter ch.owns =
      if ch = .baro .fo then _ else [] := fun d b => (Update.baro_belongs .fo d b).filter ch
  rw [update_snd]
  simp only [List.filter_append, (Update.vsValue_belongs env _).filter,
    (Update.vsMode_belongs env _).filter, (Update.altMode_belongs env _).filter,
    (Update.annunciator_belongs env _ _).filter, (Update.hdgMode_belongs env _).filter,
    (Update.spdMode_belongs env _).filter, hndCpt, hndFo, (Update.hdgValue_belongs _).filter,
    (Update.spdValue_belongs _).filter, (Update.altValue_belongs _).filter, hbaroCpt, hbaroFo]
  -- what is left are the parts of the channel, in the order of the source
  cases ch with
  | annunciator k => cases k <;> simp <;> rfl
  | nd side => cases side <;> simp <;> rfl
  | baro side => cases side <;> simp <;> rfl
  | _ =>
    simp
    rfl

/-- What a packet does to a channel. -/
theorem get_processPacket (hash : Bytes → UInt64) (env : Datarefs) (recvbuf : Bytes)
    (s : Globals) : ch.get (processPacket hash env recvbuf s).1 =
      ((dispatch hash recvbuf).filter ch.knob).elim (ch.get s)
        fun c => ch.turn env c (ch.get s) := by
  have hdialled := processPacket_dialled hash env recvbuf s
  cases ch with
  | spd =>
    refine (processPacket_spd hash env recvbuf s).trans ?_
    cases dispatch hash recvbuf with
    -- of the knobs, those of the other channels leave these globals alone
    | none => rfl
    | some c => cases c <;> rfl
  | hdg =>
    refine (processPacket_hdg hash env recvbuf s).trans ?_
    cases dispatch hash recvbuf with
    | none => rfl
    | some c => cases c <;> rfl
  | alt =>
    refine (processPacket_alt hash env recvbuf s).trans ?_
    cases dispatch hash recvbuf with
    | none => rfl
    | some c => cases c <;> rfl
  | nd side =>
    refine (side.selector_processPacket hash env recvbuf s).trans ?_
    cases dispatch hash recvbuf with
    | none => rfl
    | some c => cases side <;> cases c <;> rfl
  | vs =>
    -- no knob of the panel belongs to this channel
    obtain ⟨_, _, _, _, _, _, h⟩ := hdialled
    rw [h]
    cases dispatch hash recvbuf <;> rfl
  | annunciator k =>
    obtain ⟨_, _, _, _, _, _, h⟩ := hdialled
    rw [h]
    cases dispatch hash recvbuf <;> rfl
  | baro side =>
    refine (side.baro_processPacket hash env recvbuf s).trans ?_
    cases dispatch hash recvbuf <;> rfl

end Channel

/-- A handler answers with the same effects in every state and under all readings. -/
theorem Command.handler_snd (env env' : Datarefs) (c : Command) (s s' : Globals) :
    (c.handler env s).2 = (c.handler env' s').2 := by
  cases c <;> rfl

/-- The direct answer to a packet. -/
def relayed (hash : Bytes → UInt64) (recvbuf : Bytes) : List Effect :=
  (dispatch hash recvbuf).elim [.debugString "A330_Skalarki: Error, unknown command.\n"]
    fun c => .invoke c :: (c.handler .zero .initial).2

theorem processPacket_snd (hash : Bytes → UInt64) (env : Datarefs) (recvbuf : Bytes)
    (s : Globals) : (processPacket hash env recvbuf s).2 = relayed hash recvbuf := by
  cases h : dispatch hash recvbuf with
  | none => rw [processPacket_of_none h, relayed, h, Option.elim_none]
  | some c =>
    rw [processPacket_of_some h, relayed, h, Option.elim_some, c.handler_snd env .zero _ .initial]

/-- No direct answer belongs to a channel: the handlers turn no mode knob and write no target. -/
theorem channel?_relayed (hash : Bytes → UInt64) (recvbuf : Bytes) :
    ∀ e ∈ relayed hash recvbuf, e.channel? = none := by
  have hhandler : ∀ c : Command, ((c.handler .zero .initial).2.all fun e => e.channel?.isNone) := by
    intro c
    cases c <;> rfl
  cases h : dispatch hash recvbuf with
  | none => simp [relayed, h, Effect.channel?]
  | some c =>
    rw [relayed, h, Option.elim_some, List.forall_mem_cons]
    refine ⟨rfl, fun e he => ?_⟩
    exact Option.isNone_iff_eq_none.mp (List.all_eq_true.mp (hhandler c) e he)

namespace Channel

variable (ch : Channel)

theorem filter_processPacket (hash : Bytes → UInt64) (env : Datarefs) (recvbuf : Bytes)
    (s : Globals) : (processPacket hash env recvbuf s).2.filter ch.owns = [] := by
  rw [processPacket_snd, List.filter_eq_nil_iff]
  intro e he
  simp [owns, channel?_relayed hash recvbuf e he]

/-- **A channel is a component** of the plugin. -/
def component (hash : Bytes → UInt64) :
    Component (Event.step hash) ch.State Input where
  get := ch.get
  owns := ch.owns
  sees := ch.sees hash
  respond := ch.respond
  owns_respond i x e he := by
    cases i with
    | turn env c => cases he
    | update env => exact decide_eq_true (ch.update_belongs env x e he)
  simulates e s := by
    cases e with
    -- a packet for another channel is skipped, and no packet makes the channel emit
    | packet env recvbuf =>
      rw [Event.step_packet, get_processPacket, filter_processPacket, sees]
      cases (dispatch hash recvbuf).filter ch.knob with
      | none => exact ⟨rfl, rfl⟩
      | some c => exact ⟨congrFun (ch.turn_reads env c).symm _, rfl⟩
    | update env =>
      rw [Event.step_update, get_update, filter_update, sees, Option.elim_some, respond,
        update_reads, (ch.update_belongs env _).filter, if_pos rfl]
      exact ⟨rfl, rfl⟩

@[simp] theorem component_sees (hash : Bytes → UInt64) :
    (ch.component hash).sees = ch.sees hash := rfl

/-- No part of the start reads a dataref that does not belong to its channel. -/
theorem view_started (hash : Bytes → UInt64) (env₀ : Datarefs) :
    (ch.component hash).view (started env₀) =
      (ch.component hash).view (started (ch.readsAtStart env₀)) := by
  apply Prod.ext
  · show ch.get (started env₀).1 = ch.get (started (ch.readsAtStart env₀)).1
    rw [started_fst, started_fst]
    cases ch with
    | nd side => cases side <;> rfl
    | baro side => cases side <;> rfl
    | _ => rfl
  · show (started env₀).2.filter ch.owns = (started (ch.readsAtStart env₀)).2.filter ch.owns
    rw [started_snd, started_snd]
    by_cases hch : ch = .spd
    · subst hch
      rfl
    · -- the last frame, that of the speed dot, belongs to another channel
      have hdot : ∀ env : Datarefs, ([if env.gSpdManagedDataref = 0 then Dot.spd.onFrame
          else Dot.spd.offFrame].map Effect.push).filter ch.owns = [] := by
        intro env
        split_ifs <;> simp [owns, Target.channel, Ne.symm hch]
      simp only [List.map_append, List.filter_append, hdot]

end Channel

/-! ## Runs -/

/-- **The channels are independent**: two runs that read the same datarefs of a channel, at the
start and update by update, and turn its knobs alike in between, leave its globals in the same
state and emit the same effects for it, in the same order, whatever else happens in them. -/
theorem channels_independent (hash : Bytes → UInt64) (ch : Channel) {env₀ env₀' : Datarefs}
    (hstart : ch.readsAtStart env₀ = ch.readsAtStart env₀') {events events' : List Event}
    (hsees : events.filterMap (ch.sees hash) = events'.filterMap (ch.sees hash)) :
    ch.get (session hash env₀ events).1 = ch.get (session hash env₀' events').1 ∧
      (session hash env₀ events).2.filter ch.owns =
        (session hash env₀' events').2.filter ch.owns := by
  have hview : (ch.component hash).view (started env₀) =
      (ch.component hash).view (started env₀') := by
    -- the start sees only what the channel reads
    rw [ch.view_started hash env₀, ch.view_started hash env₀', hstart]
  exact Prod.ext_iff.mp ((ch.component hash).view_run_congr hview hsees)

/-- A button of the autopilot and another airspeed are nothing to the altitude. -/
theorem channels_independent_altitude :
    Channel.alt.get (session fnv1a .zero
        [.packet .zero Command.ap1Release.literal, .update .zero]).1 =
      Channel.alt.get
        (session fnv1a { Datarefs.zero with gSpdDataref := 250 } [.update .zero]).1 := by
  have hsees : [Event.packet .zero Command.ap1Release.literal, .update .zero].filterMap
      (Channel.alt.sees fnv1a) = [Event.update .zero].filterMap (Channel.alt.sees fnv1a) := by
    simp [Channel.sees, separatesLiterals_fnv1a.dispatch_literal, Channel.knob]
  have hstart : Channel.alt.readsAtStart .zero =
      Channel.alt.readsAtStart { Datarefs.zero with gSpdDataref := 250 } := rfl
  exact (channels_independent fnv1a .alt hstart hsees).1

/-! ### Rest -/

namespace Channel

/-- The datarefs whose change makes a channel do something: the airspeed is only read when the
window goes back to selected mode. -/
def watches : Channel → Datarefs → Datarefs
  | .spd, env => { Datarefs.zero with gSpdManagedDataref := env.gSpdManagedDataref }
  | ch, env => ch.reads env

variable (ch : Channel)

theorem reads_of_watches {env env' : Datarefs} (h : ch.watches env = ch.watches env') :
    ch.reads { env with gSpdDataref := env'.gSpdDataref } = ch.reads env' := by
  cases ch with
  | spd =>
    have hmanaged := congrArg Datarefs.gSpdManagedDataref h
    simp only [watches] at hmanaged
    simp only [reads, hmanaged]
  | baro side => cases side <;> exact h
  | _ => exact h

/-- After an update a channel has nothing to do as long as what it watches stays the same. -/
theorem quiet_update {env env' : Datarefs} (h : ch.watches env = ch.watches env')
    (s : Globals) : Quiet (ch.update env') (ch.get (SkalarkiFcu.update env s).1) := by
  have hsettled := settled_update env s
  -- being settled does not depend on the airspeed
  have hquiet : SkalarkiFcu.update { env with gSpdDataref := env'.gSpdDataref }
      (SkalarkiFcu.update env s).1 = ((SkalarkiFcu.update env s).1, []) := by
    apply Globals.Settled.quiet
    exact ⟨hsettled.vs, hsettled.vsManaged, hsettled.altManaged, hsettled.hdgManaged,
      hsettled.spdManaged, hsettled.state, hsettled.ndCpt, hsettled.ndFo, hsettled.hdg,
      hsettled.spd, hsettled.alt, hsettled.baroCpt, hsettled.baroFo⟩
  have hget := ch.get_update { env with gSpdDataref := env'.gSpdDataref }
    (SkalarkiFcu.update env s).1
  have hfilter := ch.filter_update { env with gSpdDataref := env'.gSpdDataref }
    (SkalarkiFcu.update env s).1
  rw [hquiet, ← update_reads, ch.reads_of_watches h, update_reads] at hget hfilter
  exact Prod.ext hget.symm hfilter.symm

end Channel

/-- **A channel at rest**: after an update, as long as nobody turns its knobs and no update finds
a change of what it watches, a channel emits nothing and keeps its globals, whatever the other
channels do. -/
theorem channel_rests (hash : Bytes → UInt64) (env₀ : Datarefs) (ch : Channel)
    (pre : List Event) (env : Datarefs) {later : List Event}
    (hknobs : ∀ env' recvbuf, .packet env' recvbuf ∈ later →
      ∀ c, dispatch hash recvbuf = some c → ch.knob c = false)
    (hwatches : ∀ env', .update env' ∈ later → ch.watches env = ch.watches env') :
    ch.get (session hash env₀ (pre ++ [.update env] ++ later)).1 =
        ch.get (session hash env₀ (pre ++ [.update env])).1 ∧
      (session hash env₀ (pre ++ [.update env] ++ later)).2.filter ch.owns =
        (session hash env₀ (pre ++ [.update env])).2.filter ch.owns := by
  have hview : (ch.component hash).view
      (run (Event.step hash) (session hash env₀ (pre ++ [.update env])) later) =
        (ch.component hash).view (session hash env₀ (pre ++ [.update env])) := by
    apply Component.view_run_of_quiet
    intro e he i hi
    rw [Channel.component_sees] at hi
    cases e with
    | packet env' recvbuf =>
      -- a packet that the channel sees turns one of its knobs
      rw [Channel.sees] at hi
      obtain ⟨c, hc, -⟩ := Option.map_eq_some_iff.mp hi
      obtain ⟨hdispatch, hknob⟩ := Option.filter_eq_some_iff.mp hc
      rw [hknobs env' recvbuf he c hdispatch] at hknob
      cases hknob
    | update env' =>
      obtain rfl : Channel.Input.update (ch.reads env') = i := Option.some.inj hi
      have hquiet := ch.quiet_update (hwatches env' he) (session hash env₀ pre).1
      rw [← ch.update_reads] at hquiet
      rw [session_update, exec_fst]
      exact hquiet
  have hrun : session hash env₀ (pre ++ [.update env] ++ later) =
      run (Event.step hash) (session hash env₀ (pre ++ [.update env])) later := run_append ..
  rw [hrun]
  exact Prod.ext_iff.mp hview

/-- A button of the autopilot and a change of the airspeed leave the altitude at rest. -/
theorem channel_rests_altitude : ∃ later : List Event, later.length = 2 ∧
    Channel.alt.get (session fnv1a .zero ([] ++ [.update .zero] ++ later)).1 =
      Channel.alt.get (session fnv1a .zero ([] ++ [.update .zero])).1 := by
  refine ⟨[.packet .zero Command.ap1Release.literal,
    .update { Datarefs.zero with gSpdDataref := 250 }], rfl,
    (channel_rests fnv1a .zero .alt [] .zero ?_ ?_).1⟩
  · -- the button is no knob of this channel
    intro env' recvbuf hpacket c hc
    simp only [List.mem_cons, Event.packet.injEq, List.not_mem_nil, or_false, reduceCtorEq]
      at hpacket
    rw [hpacket.2, separatesLiterals_fnv1a.dispatch_literal] at hc
    obtain rfl := Option.some.inj hc
    rfl
  · -- the channel does not watch the airspeed
    intro env' hupdate
    simp only [List.mem_cons, Event.update.injEq, List.not_mem_nil, or_false, reduceCtorEq,
      false_or] at hupdate
    rw [hupdate]
    rfl

/-! ### Everything else -/

theorem Belongs.filter_isNone {ch : Channel} {es : List Effect} (h : Belongs ch es) :
    es.filter (fun e => e.channel?.isNone) = [] :=
  List.filter_eq_nil_iff.mpr fun e he => by simp [h e he]

/-- Every effect of an update belongs to some channel. -/
theorem filter_isNone_update (env : Datarefs) (s : Globals) :
    (update env s).2.filter (fun e => e.channel?.isNone) = [] := by
  have hndCpt : ∀ sel, (Update.ndMode .gNdModeCptLeftDataref .gNdModeCptRightDataref sel).2.filter
      (fun e => e.channel?.isNone) = [] := fun sel =>
    (Update.ndMode_belongs .cpt sel).filter_isNone
  have hndFo : ∀ sel, (Update.ndMode .gNdModeFoLeftDataref .gNdModeFoRightDataref sel).2.filter
      (fun e => e.channel?.isNone) = [] := fun sel =>
    (Update.ndMode_belongs .fo sel).filter_isNone
  have hbaroCpt : ∀ d b, (Update.baro sendbufBaroLeft d b).2.filter
      (fun e => e.channel?.isNone) = [] := fun d b =>
    (Update.baro_belongs .cpt d b).filter_isNone
  have hbaroFo : ∀ d b, (Update.baro sendBufBaroRight d b).2.filter
      (fun e => e.channel?.isNone) = [] := fun d b =>
    (Update.baro_belongs .fo d b).filter_isNone
  -- every part of `Update` has a channel
  rw [update_snd]
  simp only [List.filter_append, (Update.vsValue_belongs env _).filter_isNone,
    (Update.vsMode_belongs env _).filter_isNone, (Update.altMode_belongs env _).filter_isNone,
    (Update.annunciator_belongs env _ _).filter_isNone,
    (Update.hdgMode_belongs env _).filter_isNone, (Update.spdMode_belongs env _).filter_isNone,
    hndCpt, hndFo, (Update.hdgValue_belongs _).filter_isNone,
    (Update.spdValue_belongs _).filter_isNone, (Update.altValue_belongs _).filter_isNone,
    hbaroCpt, hbaroFo, List.append_nil]

/-- Of the start, only the lights belong to no channel. -/
theorem filter_isNone_started (env₀ : Datarefs) :
    (started env₀).2.filter (fun e => e.channel?.isNone) = backlights.map .push := by
  have hlights : (backlights.map Effect.push).filter (fun e => e.channel?.isNone) =
      backlights.map .push := by
    rw [List.filter_eq_self]
    intro e he
    obtain ⟨f, hf, rfl⟩ := List.mem_map.mp he
    rw [channel?_backlight hf]
    rfl
  -- the window frames and the dot of the speed have a channel
  have hdot : ([if env₀.gSpdManagedDataref = 0 then Dot.spd.onFrame
      else Dot.spd.offFrame].map Effect.push).filter (fun e => e.channel?.isNone) = [] := by
    split_ifs <;> simp
  rw [started_snd, List.map_append, List.map_append, List.filter_append, List.filter_append,
    hlights, hdot, openings]
  simp

/-- **Everything else**: what belongs to no channel are the lights of the start and the direct
answers of the packets, in their order. -/
theorem relayed_session (hash : Bytes → UInt64) (env₀ : Datarefs) (events : List Event) :
    (session hash env₀ events).2.filter (fun e => e.channel?.isNone) =
      backlights.map .push ++ (packets events).flatMap (relayed hash) := by
  induction events using history_induction with
  | nil =>
    rw [session_nil, filter_isNone_started]
    rfl
  | packet pre env recvbuf ih =>
    -- a packet is answered by nothing else, apart from its channel
    have hall : (relayed hash recvbuf).filter (fun e => e.channel?.isNone) =
        relayed hash recvbuf :=
      List.filter_eq_self.mpr fun e he => by rw [channel?_relayed hash recvbuf e he]; rfl
    rw [session_packet, exec_snd, List.filter_append, ih, processPacket_snd, hall, packets_packet,
      List.flatMap_append, List.flatMap_singleton, List.append_assoc]
  | update pre env ih =>
    rw [session_update, exec_snd, List.filter_append, ih, filter_isNone_update, packets_update,
      List.append_nil]

end SkalarkiFcu
