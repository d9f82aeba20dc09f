import SkalarkiFcu.Comm.System
import SkalarkiFcu.Lamps
import SkalarkiFcu.Writes

/-!
# The last message for a lamp or a window

What a lamp or a window was told last is a matter of the messages that `TransmitThread` has
handed to `send`. Once everything that is pending has been sent, these are the frames of the
sequential run, whatever the interleaving; so what holds of the last frame for a target holds of
the last message for it. Nothing is said here about the device that receives them.

## Architecture

- **Messages**: `SentLast`, and `sentLast_iff` for the messages of a trace
- **Runs**: `LastFrames`, and `lastFrames_session`
- **End to end**: `last_frames_sent`
-/

namespace SkalarkiFcu

open LittleEndian Reactive TransitionSystem Truncation

/-! ## Messages -/

/-- The message is one of the frames that the plugin has for the target. -/
def Target.IsFor (t : Target) (m : Bytes) : Prop := ∃ f, t.Takes f ∧ f.message = m

/-- Of the messages for the target the last one was this frame. -/
def SentLast (messages : List Bytes) (t : Target) (f : Frame) : Prop :=
  LastOf t.IsFor messages f.message

/-- Where a frame aims is a matter of its message. -/
theorem aims_congr {f g : Frame} (h : f.message = g.message) (t : Target) :
    Effect.aims t (.push f) = Effect.aims t (.push g) := by
  cases t with
  | window w => rw [Effect.aims, Effect.aims, h]
  | lamp l => rw [Effect.aims, Effect.aims, h]

/-- The frame that switches a lamp on is another message than the one that switches it off. -/
theorem Lamp.Switches.message_ne {l : Lamp} {on off : Frame} (hon : l.Switches 1 on)
    (hoff : l.Switches 0 off) : on.message ≠ off.message := by
  intro h
  have hread := hon.lamp
  rw [h, hoff.lamp] at hread
  cases hread

/-- Two frames for a target are two messages. -/
theorem Target.Takes.message_inj {t : Target} {f g : Frame} (hf : t.Takes f) (hg : t.Takes g)
    (h : f.message = g.message) : f = g := by
  match t, hf, hg with
  | .window w, hf, hg =>
    obtain ⟨text, hlen, rfl⟩ := hf
    obtain ⟨text', hlen', rfl⟩ := hg
    -- the text can be read back from the message
    have hread := w.readDisplayFrame_frame hlen
    rw [h, w.readDisplayFrame_frame hlen'] at hread
    have htext : text' = text := congrArg DisplayFrame.text (Option.some.inj hread)
    rw [htext]
  | .lamp (.annunciator k), hf, hg =>
    have hne := k.onFrame_switches.message_ne k.offFrame_switches
    rcases hf with rfl | rfl <;> rcases hg with rfl | rfl
    · rfl
    · exact absurd h hne
    · exact absurd h.symm hne
    · rfl
  | .lamp (.dot d), hf, hg =>
    have hne := (Dot.onFrame_switches d).message_ne (Dot.offFrame_switches d)
    rcases hf with rfl | rfl <;> rcases hg with rfl | rfl
    · rfl
    · exact absurd h hne
    · exact absurd h.symm hne
    · rfl

/-- If a trace aims only its own frames at a target, the last message for the target is the
message of the last effect that aims at it. -/
theorem sentLast_iff {t : Target} {f : Frame} {es : List Effect} (hf : t.Takes f)
    (hes : ∀ g ∈ pushes es, Effect.aims t (.push g) = true → t.Takes g) :
    SentLast ((pushes es).map Frame.message) t f ↔
      latest (Effect.aims t) es = some (.push f) := by
  rw [SentLast, pushes, List.map_filterMap, latest_eq_some_iff]
  -- a message is for the target exactly if the effect that pushes it aims there
  have hiff : ∀ e ∈ es, ∀ m, e.frame?.map Frame.message = some m →
      (t.IsFor m ↔ Effect.aims t e = true) := by
    intro e he m hm
    cases e with
    | push g =>
      obtain rfl : g.message = m := Option.some.inj hm
      constructor
      · rintro ⟨g', htakes, hmessage⟩
        rw [← aims_congr hmessage, htakes.aims t, decide_eq_true rfl]
      · intro haims
        exact ⟨g, hes g (List.mem_filterMap.mpr ⟨_, he, rfl⟩) haims, rfl⟩
    | _ => cases hm
  constructor
  · intro h
    obtain ⟨htakes, before, after, hsplit, -⟩ := id h
    -- some effect pushes the message, so that one of them is the last to aim at the target
    obtain ⟨e, he, hmessage⟩ := List.mem_filterMap.mp (hsplit ▸ List.mem_append_cons_self)
    obtain ⟨e', hlast⟩ := exists_lastOf (p := fun e => Effect.aims t e = true)
      ⟨e, he, (hiff e he _ hmessage).mp htakes⟩
    obtain ⟨haims, before', after', hes', -⟩ := id hlast
    cases he' : e'.frame? with
    | none => exact absurd haims (by simp [aims_of_frame?_eq_none t he'])
    | some g =>
      obtain rfl : e' = .push g := by
        cases e' <;> simp_all [Effect.frame?]
      have hsame : g.message = f.message :=
        LastOf.unique (hlast.filterMap (g := fun e => e.frame?.map Frame.message) rfl hiff) h
      have hg : t.Takes g := hes g (List.mem_filterMap.mpr ⟨.push g, by simp [hes'], rfl⟩) haims
      rwa [← hg.message_inj hf hsame]
  · intro h
    exact h.filterMap (g := fun e => e.frame?.map Frame.message) rfl hiff

/-- In a run only its own frames are aimed at a target. -/
theorem takes_of_aims {hash : Bytes → UInt64} {env₀ : Datarefs} {events : List Event} {t : Target}
    {f : Frame} (hf : f ∈ pushes (session hash env₀ events).2)
    (haims : Effect.aims t (.push f) = true) : t.Takes f := by
  rcases pushes_session hash env₀ events f hf with hlight | ⟨t', htakes⟩
  · rw [aims_backlight t hlight] at haims
    cases haims
  · rw [htakes.aims t, decide_eq_true_eq] at haims
    rwa [haims]

/-! ## Runs

Of the windows it is the altitude, and of the dots that of the speed: they have no start to
miss. -/

section Runs

variable (hash : Bytes → UInt64) (env₀ : Datarefs)

/-- The altitude window has the altitude that was written last, or the zero of `Init`. -/
theorem displays_alt (events : List Event) :
    Displays .alt (session hash env₀ events).2
      (altText (trunc (targetAfter .gAltDataref 0 (session hash env₀ events).2))) := by
  rw [displays_iff, framesFor_alt_eq, List.getLast?_map, List.getLast?_cons, targetAfter_eq]
  rfl

/-- The speed dot is in step with its flag in every run. -/
theorem inStep_spdDot (events : List Event) :
    InStep Dot.spd.render false (dotView hash env₀ .spd events) := by
  induction events using history_induction with
  | nil =>
    rw [(dotsFollow_nil hash env₀).start beforeUpdates_nil .spd]
    exact inStep_spd_started env₀
  | packet pre env recvbuf ih =>
    rw [dotView_packet]
    exact ih
  | update pre env ih =>
    rw [dotView_update]
    exact ih.exec_detect _

/-- After an update the speed dot has been switched on last exactly if the speed is managed. -/
theorem latest_spdDot_iff (pre : List Event) (env : Datarefs) :
    latest (Effect.aims (.lamp (.dot .spd)))
        (session hash env₀ (pre ++ [.update env])).2 = some (.push Dot.spd.onFrame) ↔
      env.gSpdManagedDataref = 0 := by
  have hiff := dotRight_iff_of_inStep (inStep_spdDot hash env₀ (pre ++ [.update env]))
  have hflag : (dotView hash env₀ .spd (pre ++ [.update env])).1 = Dot.spd.reads env := by
    rw [dotView_update, exec_fst, detect_fst]
  rw [hflag, Dot.reads, decide_eq_true_eq] at hiff
  exact hiff

end Runs

/-- What the messages say of the last update: the annunciators follow their readings, the speed
dot follows its mode, and the altitude window has the altitude that the simulator was given
last, where 0 stands for none. -/
structure LastFrames (messages : List Bytes) (env : Datarefs) (es : List Effect) : Prop where
  annunciator : ∀ k, SentLast messages (.lamp (.annunciator k)) k.onFrame ↔
    env.annunciator k > 0.001
  spdDot : SentLast messages (.lamp (.dot .spd)) Dot.spd.onFrame ↔ env.gSpdManagedDataref = 0
  alt : SentLast messages (.window .alt)
    (Window.alt.frame (altText (trunc (targetAfter .gAltDataref 0 es))))

/-- The frames of a run that ends with an update. -/
theorem lastFrames_session (hash : Bytes → UInt64) (env₀ : Datarefs) (pre : List Event)
    (env : Datarefs) :
    LastFrames ((pushes (session hash env₀ (pre ++ [.update env])).2).map Frame.message) env
      (session hash env₀ (pre ++ [.update env])).2 where
  annunciator k := by
    rw [← latest_annunciator_iff hash env₀ k pre env]
    exact sentLast_iff (.inl rfl) fun f => takes_of_aims
  spdDot := by
    rw [← latest_spdDot_iff hash env₀ pre env]
    exact sentLast_iff (.inl rfl) fun f => takes_of_aims
  alt := by
    have htakes : ∀ n : ℤ, Target.Takes (Window.alt.frame (altText n)) (.window .alt) :=
      fun n => ⟨altText n, by simp, rfl⟩
    exact (sentLast_iff (htakes _) fun f => takes_of_aims).mpr (displays_alt hash env₀ _)

/-! ## End to end -/

/-- The messages that have been handed to `send`, in order. -/
def SystemState.messages (s : SystemState) : List Bytes :=
  s.transmit.sent.map SkalarkiMessage.msg

/-- **Delivery**: once everything has been sent, the messages are the frames of the run, in
order, whatever the interleaving. -/
theorem SystemState.Inv.messages_eq {hash : Bytes → UInt64} {s : SystemState} (h : s.Inv hash)
    (hdelivered : s.Delivered) :
    s.messages = (pushes s.receive.config.2).map Frame.message := by
  have hpushed := h.pushed
  rw [hdelivered.pending, List.map_nil, List.append_nil,
    ← (transmitSystem_inv h.transmit).fifo, hdelivered.queue, List.append_nil] at hpushed
  exact hpushed

/-- **End to end**: let `Update` run under the readings `env`. Steps of the callbacks and of
`TransmitThread` alone send its frames; and whenever they have been sent and nothing else has run
on the main thread, whatever the other parties did in between, the last message for every
annunciator switches it on if and only if its reading is above the threshold, that for the speed
dot if and only if the speed is managed, and that for the altitude window has the altitude that
the simulator was given last. -/
theorem last_frames_sent {hash : Bytes → UInt64} {env : Datarefs} {s t : SystemState}
    (h : (pluginSystem hash).Reachable s) (hpc : s.receive.flightLoop = .update)
    (hpending : s.pending = []) (ht : (SystemAction.callback env).step hash s = some t) :
    (∃ as u, (∀ a ∈ as, a = SystemAction.callback env ∨ a = .transmitThread) ∧
      as.length ≤ 4 * t.pending.length + 3 * t.transmit.messageQueueTx.length + 1 ∧
      follow (SystemAction.step hash) as t = some u ∧ u.receive.config = t.receive.config ∧
      u.Delivered) ∧
    ∀ as u, follow (SystemAction.step hash) as t = some u →
      u.receive.config = t.receive.config → u.Delivered →
      LastFrames u.messages env u.receive.config.2 := by
  have htreach := h.step ⟨_, ht⟩
  obtain ⟨hrunning, hcases⟩ := SystemState.callback_cases ht
  -- the update is the last event of a sequential run
  have hafter : t.main = .running ∧
      t.receive.config = exec (update env) s.receive.config := by
    rcases hcases with ⟨f, rest, hcons, -⟩ | ⟨-, rfl⟩
    · rw [hpending] at hcons
      cases hcons
    · exact ⟨hrunning, by simp [ReceiveState.flightLoopStep, hpc]⟩
  obtain ⟨env₀, events, hconfig⟩ : ∃ env₀ events,
      t.receive.config = session hash env₀ (events ++ [.update env]) := by
    obtain ⟨done, hruns, -⟩ := receiveSystem_runsTo (pluginSystem_inv h).receive
    obtain ⟨-, env₀, events, hsession, -⟩ := hruns.of_busy (by simp [hpc])
    exact ⟨env₀, events, by rw [hafter.2, hsession, session_update]⟩
  constructor
  · obtain ⟨as, u, has, hlen, hrun, hreceive, -, hdelivered⟩ :=
      (pluginSystem_inv htreach).exists_delivered hafter.1 env
    exact ⟨as, u, has, hlen, hrun, congrArg ReceiveState.config hreceive, hdelivered⟩
  · intro as u hrun hsame hdelivered
    rw [(pluginSystem_inv (reachable_of_steps htreach hrun)).messages_eq hdelivered, hsame,
      hconfig]
    exact lastFrames_session hash env₀ events env

/-- The first update reads the autothrust as active, and the last message for its light is the
On frame. -/
theorem last_frames_sent_athr : ∃ u, (pluginSystem fnv1a).Reachable u ∧ u.Delivered ∧
    SentLast u.messages (.lamp (.annunciator .athr)) (Annunciator.onFrame .athr) := by
  let env : Datarefs := { Datarefs.zero with annunciator := Function.update (fun _ => 0) .athr 1 }
  have hstart : (pluginSystem fnv1a).Reachable .initial := .start rfl
  -- `Init` pushes its frames, and the first call of the flight loop reads the datarefs
  obtain ⟨as₁, u₁, -, -, hrun₁, hreceive₁, hmain₁, hpending₁, -⟩ :=
    (pluginSystem_inv hstart).exists_delivered rfl env
  obtain ⟨u₂, hreach₂, hreceive₂, hmain₂, hpending₂⟩ :=
    SystemState.exists_flightLoopStep (reachable_of_steps hstart hrun₁) hmain₁ hpending₁ env
  -- the queue is empty, so that the call comes to its update
  obtain ⟨u₃, hreach₃, hreceive₃, hmain₃, hpending₃⟩ :=
    SystemState.exists_flightLoopStep hreach₂ hmain₂ hpending₂ env
  have hpc : u₃.receive.flightLoop = .update := by
    rw [hreceive₃, hreceive₂, hreceive₁]
    rfl
  have hupdate := SystemState.callback_of_pending_nil fnv1a env hmain₃ hpending₃
  obtain ⟨⟨as, u, -, -, hrun, hconfig, hdelivered⟩, hlast⟩ :=
    last_frames_sent hreach₃ hpc hpending₃ hupdate
  have hreach := hreach₃.step ⟨.callback env, hupdate⟩
  refine ⟨u, reachable_of_steps hreach hrun, hdelivered, ?_⟩
  rw [(hlast as u hrun hconfig hdelivered).annunciator .athr]
  norm_num [env]

end SkalarkiFcu
