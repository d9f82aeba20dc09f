import SkalarkiFcu.Library.Fairness
import SkalarkiFcu.Traffic
import SkalarkiFcu.Comm.Shutdown

/-!
# What must happen

In a fair execution of the plugin, as long as `XPluginStop` is not called, every frame that the
plugin pushes is handed to `send`, and every byte that the panel sends is handled by the flight
loop: no message is left in a queue forever, whatever the other parties do. Fairness asks of the
scheduler that each party that can take a step takes one again and again. Of `TransmitThread` it
also asks that `send` returns, which it does not where the panel stops reading; and the semaphore
has no bound here, so that the bound of the source is assumed not to be exceeded.

## Architecture

- **Steps while the callbacks run**: `SystemAction.running_cases`
- **A fair execution**: `roundRobinRun`
- **Sending**: `every_frame_sent`, by way of `accepted_eventually` and `sent_eventually`
- **Receiving**: `every_byte_handled`, by way of `received_eventually`, `queued_eventually`,
  `handled_eventually` and `chunks_handled_eventually`
-/

namespace SkalarkiFcu

open LittleEndian Reactive TransitionSystem

/-! ## Steps while the callbacks run -/

/-- The step of the receive path that an action takes. -/
def SystemAction.receive? : SystemAction → Option ReceiveAction
  | .send f => some (.send f)
  | .recv n => some (.recv n)
  | .recvFails => some .recvFails
  | .receiveThread => some .receiveThread
  | .transmitThread | .callback _ | .stop | .shutdown => none

/-- Before `XPluginStop`, a step is one of the receive path, of the transmit thread, of the
callback that pushes a frame, or of the flight loop. -/
theorem SystemAction.running_cases {hash : Bytes → UInt64} {s t : SystemState} {a : SystemAction}
    (h : a.step hash s = some t) (hs : s.main = .running) (ht : t.main = .running) :
    (∃ b r, a.receive? = some b ∧ b.step hash s.receive = some r ∧ t = { s with receive := r }) ∨
    (a = .transmitThread ∧ ∃ u, s.transmit.transmitThread = some u ∧
      t = { s with transmit := u }) ∨
    (∃ env f rest, a = .callback env ∧ s.pending = f :: rest ∧
      t = { s with transmit := s.transmit.pushMessage f, pending := rest }) ∨
    (∃ env, a = .callback env ∧ s.pending = [] ∧ t = { s with
      receive := s.receive.flightLoopStep hash env
      pending := (pushes (s.receive.flightLoopStep hash env).config.2).drop
        (pushes s.receive.config.2).length }) := by
  cases a with
  | send f => exact .inl ⟨.send f, s.receive.send f, rfl, rfl, (Option.some.inj h).symm⟩
  | recv n =>
    obtain ⟨r, hr, rfl⟩ := Option.map_eq_some_iff.mp h
    exact .inl ⟨.recv n, r, rfl, hr, rfl⟩
  | recvFails =>
    obtain ⟨r, hr, rfl⟩ := Option.map_eq_some_iff.mp h
    exact .inl ⟨.recvFails, r, rfl, hr, rfl⟩
  | receiveThread =>
    obtain ⟨r, hr, rfl⟩ := Option.map_eq_some_iff.mp h
    exact .inl ⟨.receiveThread, r, rfl, hr, rfl⟩
  | transmitThread =>
    obtain ⟨u, hu, rfl⟩ := Option.map_eq_some_iff.mp h
    exact .inr (.inl ⟨rfl, u, hu, rfl⟩)
  | callback env =>
    obtain ⟨-, ⟨f, rest, hpending, rfl⟩ | ⟨hpending, rfl⟩⟩ := SystemState.callback_cases h
    · exact .inr (.inr (.inl ⟨env, f, rest, rfl, hpending, rfl⟩))
    · exact .inr (.inr (.inr ⟨env, rfl, hpending, rfl⟩))
  | stop =>
    -- `XPluginStop` leaves the callbacks
    obtain ⟨-, -, -, rfl⟩ := SystemState.stop_cases h
    cases ht
  | shutdown =>
    rcases SystemState.shutdown_cases h with ⟨u, hmain, -⟩ | ⟨hmain, -⟩ | ⟨hmain, -⟩ | ⟨hmain, -⟩
    -- and `Shutdown` takes its steps only after that
    all_goals
      rw [hs] at hmain
      cases hmain

/-! ## The transmit thread and one message -/

/-- How far the thread has come in its loop. -/
def TransmitPc.passed : TransmitPc → ℕ
  | .test => 0
  | .acquire => 1
  | .locked => 2
  | .exited => 0

namespace TransmitState

variable {s t : TransmitState}

/-- How many steps the thread still takes up to the `send` of the accepted message `i`. -/
def sendRank (i : ℕ) (s : TransmitState) : ℕ :=
  3 * (i + 1 - s.sent.length) - s.thread.passed

/-- The thread touches no accepted message. -/
theorem accepted_transmitThread (h : s.transmitThread = some t) : t.accepted = s.accepted := by
  rcases transmitThread_cases h with ⟨-, -, rfl⟩ | ⟨-, -, rfl⟩ | ⟨n, -, -, rfl⟩ |
    ⟨msg, rest, -, -, rfl⟩ | ⟨-, -, rfl⟩ <;> rfl

/-- Each step of the thread brings it closer to a message that it has not yet sent. -/
theorem sendRank_transmitThread (hinv : s.Inv) (hup : s.stopTransmit = false) {i : ℕ}
    (hi : i < s.accepted.length) (hsent : ¬ i < s.sent.length) (h : s.transmitThread = some t) :
    t.sendRank i < s.sendRank i := by
  rcases transmitThread_cases h with ⟨hpc, -, rfl⟩ | ⟨-, hstop, -⟩ | ⟨n, hpc, -, rfl⟩ |
    ⟨msg, rest, hpc, -, rfl⟩ | ⟨-, hqueue, -⟩
  · simp only [sendRank, hpc, TransmitPc.passed]
    omega
  · rw [hup] at hstop
    cases hstop
  · simp only [sendRank, hpc, TransmitPc.passed]
    omega
  · -- a message is sent, and the thread is back at the test
    simp only [sendRank, hpc, TransmitPc.passed, List.length_append, List.length_singleton]
    omega
  · -- the queue holds the message, so that the locked section is not empty
    have hfifo := congrArg List.length hinv.fifo
    rw [hqueue, List.append_nil] at hfifo
    omega

end TransmitState

/-! ## What only grows -/

/-- A step of the flight loop only adds to what the plugin has emitted. -/
theorem ReceiveState.config_prefix_flightLoopStep (hash : Bytes → UInt64) (env : Datarefs)
    (s : ReceiveState) : s.config.2 <+: (s.flightLoopStep hash env).config.2 := by
  unfold flightLoopStep
  split
  · split_ifs
    · exact List.prefix_append _ _
    · exact List.prefix_rfl
  · split
    · split_ifs <;> exact List.prefix_rfl
    · exact List.prefix_rfl
  · exact List.prefix_append _ _
  · exact List.prefix_append _ _

/-- What the flight loop leaves to the other parties. -/
theorem ReceiveState.flightLoopStep_keeps (hash : Bytes → UInt64) (env : Datarefs)
    (s : ReceiveState) : (s.flightLoopStep hash env).frames = s.frames ∧
      (s.flightLoopStep hash env).chunks = s.chunks ∧
      (s.flightLoopStep hash env).thread = s.thread ∧
      (s.flightLoopStep hash env).rxMessageCount = s.rxMessageCount ∧
      (s.flightLoopStep hash env).stopReceive = s.stopReceive := by
  unfold flightLoopStep
  split
  · split_ifs <;> exact ⟨rfl, rfl, rfl, rfl, rfl⟩
  · split
    · split_ifs <;> exact ⟨rfl, rfl, rfl, rfl, rfl⟩
    · exact ⟨rfl, rfl, rfl, rfl, rfl⟩
  · exact ⟨rfl, rfl, rfl, rfl, rfl⟩
  · exact ⟨rfl, rfl, rfl, rfl, rfl⟩

/-- The effects of the run, the frames of the panel and the received chunks only grow. -/
structure ReceiveState.Extends (s t : ReceiveState) : Prop where
  effects : s.config.2 <+: t.config.2
  frames : s.frames <+: t.frames
  chunks : s.chunks <+: t.chunks

theorem ReceiveState.Extends.refl (s : ReceiveState) : s.Extends s :=
  ⟨List.prefix_rfl, List.prefix_rfl, List.prefix_rfl⟩

theorem ReceiveState.Extends.trans {s t u : ReceiveState} (h : s.Extends t) (h' : t.Extends u) :
    s.Extends u :=
  ⟨h.effects.trans h'.effects, h.frames.trans h'.frames, h.chunks.trans h'.chunks⟩

theorem ReceiveAction.extends_step {hash : Bytes → UInt64} {s t : ReceiveState}
    {a : ReceiveAction} (h : a.step hash s = some t) : s.Extends t := by
  cases a with
  | send f =>
    obtain rfl : s.send f = t := Option.some.inj h
    -- the panel adds a frame
    exact ⟨List.prefix_rfl, List.prefix_append _ _, List.prefix_rfl⟩
  | recv n =>
    obtain ⟨m, rest, -, -, -, rfl⟩ := ReceiveState.recv_cases h
    -- `recv` adds a chunk
    exact ⟨List.prefix_rfl, List.prefix_rfl, List.prefix_append _ _⟩
  | recvFails =>
    obtain ⟨-, rfl⟩ := ReceiveState.recvFails_cases h
    exact ⟨List.prefix_rfl, List.prefix_rfl, List.prefix_rfl⟩
  | receiveThread =>
    rcases ReceiveState.receiveThread_cases h with ⟨-, pc, -, rfl⟩ | ⟨m, -, rfl⟩
    · exact ⟨List.prefix_rfl, List.prefix_rfl, List.prefix_rfl⟩
    · exact ⟨List.prefix_rfl, List.prefix_rfl, List.prefix_rfl⟩
  | stopReceive =>
    obtain rfl : { s with stopReceive := true } = t := Option.some.inj h
    exact ⟨List.prefix_rfl, List.prefix_rfl, List.prefix_rfl⟩
  | flightLoop env =>
    obtain rfl : s.flightLoopStep hash env = t := Option.some.inj h
    obtain ⟨hframes, hchunks, -⟩ := s.flightLoopStep_keeps hash env
    exact ⟨s.config_prefix_flightLoopStep hash env, by rw [hframes], by rw [hchunks]⟩

/-! ## The receive thread and one byte -/

/-- A step of the receive thread that returns from `recv` with some bytes, or any other. -/
def SystemAction.Receives : SystemAction → Prop
  | .recv _ | .receiveThread => True
  | _ => False

/-- How many steps the thread takes before its next `recv`. -/
def ReceivePc.stepsToRecv : ReceivePc → ℕ
  | .test => 1
  | .recv => 0
  | .push _ => 2
  | .exited => 0

namespace ReceiveState

variable {hash : Bytes → UInt64} {s t : ReceiveState}

/-- The bytes that the panel has sent. -/
def panelBytes (s : ReceiveState) : Bytes := (s.frames.map DeviceFrame.bytes).flatten

/-- The bytes that the calls of `recv` have returned. -/
def received (s : ReceiveState) : Bytes := (s.chunks.map SkalarkiMessage.msg).flatten

theorem Extends.panelBytes (h : s.Extends t) : s.panelBytes <+: t.panelBytes :=
  (h.frames.map DeviceFrame.bytes).flatten

/-- The steps of the thread, with the flag that it tests. -/
theorem receiveThread_flag_cases (h : s.receiveThread = some t) :
    (s.thread = .test ∧ s.stopReceive = false ∧ t = { s with thread := .recv }) ∨
    (s.thread = .test ∧ s.stopReceive = true ∧ t = { s with thread := .exited }) ∨
    (∃ m, s.thread = .push m ∧ t = { s with
      messageQueueRx := s.messageQueueRx ++ [m]
      rxMessageCount := s.rxMessageCount + 1
      thread := .test }) := by
  cases hpc : s.thread with
  | test =>
    cases hstop : s.stopReceive with
    | false => exact .inl ⟨rfl, rfl, by simpa [receiveThread, hpc, hstop] using h.symm⟩
    | true => exact .inr (.inl ⟨rfl, rfl, by simpa [receiveThread, hpc, hstop] using h.symm⟩)
  | push m => exact .inr (.inr ⟨m, rfl, by simpa [receiveThread, hpc] using h.symm⟩)
  | _ => simp [receiveThread, hpc] at h

/-- The thread ends only after the store of `Shutdown`. -/
theorem stopReceive_of_exited (h : (receiveSystem hash).Reachable s) :
    s.thread = .exited → s.stopReceive = true := by
  apply h.invariant
  · rintro s rfl hexited
    cases hexited
  · rintro s t hs ⟨a, ha⟩
    cases a with
    | send f =>
      obtain rfl : s.send f = t := Option.some.inj ha
      exact hs
    | recv n =>
      obtain ⟨m, rest, -, -, -, rfl⟩ := recv_cases ha
      -- after `recv` the thread has still to queue what it got
      exact fun hexited => nomatch hexited
    | recvFails =>
      obtain ⟨-, rfl⟩ := recvFails_cases ha
      -- a failed `recv` leads back to the test
      exact fun hexited => nomatch hexited
    | receiveThread =>
      rcases receiveThread_flag_cases ha with ⟨-, -, rfl⟩ | ⟨-, hstop, rfl⟩ | ⟨m, -, rfl⟩
      · exact fun hexited => nomatch hexited
      · exact fun _ => hstop
      · exact fun hexited => nomatch hexited
    | stopReceive =>
      obtain rfl : { s with stopReceive := true } = t := Option.some.inj ha
      exact fun _ => rfl
    | flightLoop env =>
      obtain rfl : s.flightLoopStep hash env = t := Option.some.inj ha
      obtain ⟨-, -, hthread, -, hstop⟩ := s.flightLoopStep_keeps hash env
      rwa [hthread, hstop]

/-- How many steps the thread still takes before it has read `T` bytes, one by one. -/
def recvRank (T : ℕ) (s : ReceiveState) : ℕ := 3 * (T - s.received.length) + s.thread.stepsToRecv

/-- Every step of the thread brings it closer to `T` bytes, and no other step but a failure of
`recv` throws it back. -/
theorem recvRank_step {T : ℕ} (hT : ¬ T ≤ s.received.length) {a : SystemAction} {b : ReceiveAction}
    (hb : a.receive? = some b) (hok : a ≠ .recvFails) (h : b.step hash s = some t) :
    t.recvRank T ≤ s.recvRank T ∧ (a.Receives → t.recvRank T < s.recvRank T) := by
  cases a with
  | send f =>
    obtain rfl := Option.some.inj hb
    obtain rfl : s.send f = t := Option.some.inj h
    exact ⟨le_rfl, False.elim⟩
  | recv n =>
    obtain rfl := Option.some.inj hb
    obtain ⟨m, rest, hpc, hm, -, rfl⟩ := recv_cases h
    -- at least one byte more has been read
    have hlt : ReceiveState.recvRank T { s with
        stream := rest, thread := .push m, chunks := s.chunks ++ [m] } < s.recvRank T := by
      simp only [recvRank, received, hpc, ReceivePc.stepsToRecv, List.map_append,
        List.flatten_append, List.length_append, List.map_singleton, List.flatten_singleton]
      simp only [received] at hT
      omega
    exact ⟨hlt.le, fun _ => hlt⟩
  | receiveThread =>
    obtain rfl := Option.some.inj hb
    have hlt : t.recvRank T < s.recvRank T := by
      rcases receiveThread_flag_cases h with ⟨hpc, -, rfl⟩ | ⟨hpc, -, rfl⟩ | ⟨m, hpc, rfl⟩ <;>
        simp [recvRank, received, hpc, ReceivePc.stepsToRecv]
    exact ⟨hlt.le, fun _ => hlt⟩
  | recvFails => exact absurd rfl hok
  | _ => cases hb

end ReceiveState

/-- The receive thread and the panel leave the run and the flight loop alone. -/
theorem ReceiveAction.receive_keeps {hash : Bytes → UInt64} {s t : ReceiveState}
    {a : SystemAction} {b : ReceiveAction} (hb : a.receive? = some b)
    (h : b.step hash s = some t) :
    t.config = s.config ∧ t.flightLoop = s.flightLoop ∧
      t.datarefsInitialized = s.datarefsInitialized ∧ s.rxMessageCount ≤ t.rxMessageCount := by
  cases a with
  | send f =>
    obtain rfl := Option.some.inj hb
    obtain rfl : s.send f = t := Option.some.inj h
    exact ⟨rfl, rfl, rfl, le_rfl⟩
  | recv n =>
    obtain rfl := Option.some.inj hb
    obtain ⟨m, rest, -, -, -, rfl⟩ := ReceiveState.recv_cases h
    exact ⟨rfl, rfl, rfl, le_rfl⟩
  | recvFails =>
    obtain rfl := Option.some.inj hb
    obtain ⟨-, rfl⟩ := ReceiveState.recvFails_cases h
    exact ⟨rfl, rfl, rfl, le_rfl⟩
  | receiveThread =>
    obtain rfl := Option.some.inj hb
    rcases ReceiveState.receiveThread_cases h with ⟨-, pc, -, rfl⟩ | ⟨m, -, rfl⟩
    · exact ⟨rfl, rfl, rfl, le_rfl⟩
    · exact ⟨rfl, rfl, rfl, Nat.le_succ _⟩
  | _ => cases hb

/-! ## The flight loop and one message -/

namespace ReceiveState

variable {hash : Bytes → UInt64} {s t : ReceiveState}

/-- How many messages the flight loop has processed. -/
def handled (s : ReceiveState) : ℕ := s.config.1.packetCounter.toNat

/-- How many steps the main thread still takes before it has processed `C` messages, with the
frames that it has to push in between. -/
def handleRank (C : ℕ) (s : ReceiveState) : ℕ :=
  match s.flightLoop with
  | .idle => 2 * (C - s.handled) + 3
  | .pop => 2 * (C - s.handled) + 1
  | .process _ => 2 * (C - s.handled)
  | .update => 2 * (C - s.handled) + 27

theorem length_pushes_initDatarefs (env : Datarefs) (g : Globals) :
    (pushes (initDatarefs env g).2).length ≤ 1 := by
  rw [initDatarefs_snd]
  simp only [InitDatarefs.spd, pushMessage_dot_on, pushMessage_dot_off]
  split_ifs <;> simp [pushes, Effect.frame?]

/-- Every queued message has been processed, is in the hands of the flight loop or waits. -/
theorem rxMessageCount_eq (h : (receiveSystem hash).Reachable s) :
    s.config.1.packetCounter = s.handled ∧
      s.rxMessageCount = s.handled + s.inLoop.length + s.messageQueueRx.length := by
  obtain ⟨done, -, hdone, hcounter⟩ := receiveSystem_packetCounter h
  have hchunks := receiveSystem_chunks_length h
  have hlength := congrArg List.length hdone
  have hhandled : s.handled = done.length := by rw [handled, hcounter, Int.toNat_natCast]
  simp only [List.length_append] at hlength
  refine ⟨by rw [hcounter, hhandled], ?_⟩
  omega

/-- Every step of the flight loop brings it closer to a message that is queued, the frames that
it pushes included. -/
theorem handleRank_flightLoopStep (h : (receiveSystem hash).Reachable s) {C : ℕ}
    (hC : C ≤ s.rxMessageCount) (hhandled : ¬ C ≤ s.handled) (env : Datarefs) :
    ((pushes (s.flightLoopStep hash env).config.2).drop (pushes s.config.2).length).length +
      (s.flightLoopStep hash env).handleRank C < s.handleRank C := by
  obtain ⟨hcounter, hcount⟩ := rxMessageCount_eq h
  have hloop := flightLoopStep_cases hash env s (receiveSystem_inv h).queue_pos
  generalize s.flightLoopStep hash env = t at hloop ⊢
  rcases hloop with ⟨hpc, -, rfl⟩ | ⟨hpc, -, rfl⟩ | ⟨m, rest, hpc, -, rfl⟩ | ⟨hpc, hqueue, -⟩ |
    ⟨m, hpc, rfl⟩ | ⟨hpc, rfl⟩
  · -- the first call pushes the speed dot
    have hone := length_pushes_initDatarefs env s.config.1
    have hsame : (initDatarefs env s.config.1).1.packetCounter = s.config.1.packetCounter := by
      rw [initDatarefs_fst]
    simp only [exec_snd, pushes_append, List.drop_left, handleRank, hpc, handled, exec_fst, hsame]
    omega
  · simp only [List.drop_length, List.length_nil, handleRank, hpc, handled]
    omega
  · simp only [List.drop_length, List.length_nil, handleRank, hpc, handled]
    omega
  · -- all queued messages have been handled
    simp only [inLoop, hpc, hqueue, List.length_nil] at hcount
    omega
  · have hnext : (exec (processPacket hash env m.msg) s.config).1.packetCounter.toNat =
        s.handled + 1 := by
      rw [exec_fst, processPacket_packetCounter, hcounter]
      rfl
    have hsilent : (pushes (exec (processPacket hash env m.msg) s.config).2).drop
        (pushes s.config.2).length = [] := by
      rw [exec_snd, pushes_append, pushes_processPacket, List.append_nil, List.drop_length]
    rw [hsilent]
    simp only [List.length_nil, handleRank, hpc, handled, hnext]
    simp only [handled] at hhandled
    omega
  · have hframes := length_pushes_update env s.config.1
    have hsame : (update env s.config.1).1.packetCounter = s.config.1.packetCounter := by
      simp [update]
    simp only [exec_snd, pushes_append, List.drop_left, handleRank, hpc, handled, exec_fst, hsame]
    omega

end ReceiveState

/-- An execution from the start on in which `XPluginStop` is never called. -/
structure Running {hash : Bytes → UInt64} (E : Execution (SystemAction.step hash)) : Prop where
  start : E.state 0 = .initial
  running : ∀ n, (E.state n).main = .running

/-! ## A round robin -/

/-- The callback, the transmit thread and the receive thread take turns; in the first round, a
button of the panel is pressed. -/
def roundRobin (c : Command) (n : ℕ) (s : SystemState) : SystemAction :=
  match n % 4, s.receive.thread with
  | 0, _ => .callback .zero
  | 1, _ => .transmitThread
  | 2, .recv => .recv (min skalarkiMessageMaxLength s.receive.stream.length)
  | 2, _ => .receiveThread
  | _, _ => if n = 3 then .send c.frame else .transmitThread

/-- Only `XPluginStop` ends the callbacks. -/
theorem SystemAction.running_step {hash : Bytes → UInt64} {s t : SystemState} {a : SystemAction}
    (h : a.step hash s = some t) (ha : a ≠ .stop) (hs : s.main = .running) :
    t.main = .running := by
  cases a with
  | send f =>
    obtain rfl : { s with receive := s.receive.send f } = t := Option.some.inj h
    exact hs
  | recv n =>
    obtain ⟨r, -, rfl⟩ := Option.map_eq_some_iff.mp h
    exact hs
  | recvFails =>
    obtain ⟨r, -, rfl⟩ := Option.map_eq_some_iff.mp h
    exact hs
  | receiveThread =>
    obtain ⟨r, -, rfl⟩ := Option.map_eq_some_iff.mp h
    exact hs
  | transmitThread =>
    obtain ⟨u, -, rfl⟩ := Option.map_eq_some_iff.mp h
    exact hs
  | callback env =>
    obtain ⟨-, ⟨f, rest, -, rfl⟩ | ⟨-, rfl⟩⟩ := SystemState.callback_cases h <;> exact hs
  | stop => exact absurd rfl ha
  | shutdown =>
    rcases SystemState.shutdown_cases h with ⟨u, hmain, -⟩ | ⟨hmain, -⟩ | ⟨hmain, -⟩ | ⟨hmain, -⟩
    all_goals
      rw [hs] at hmain
      cases hmain

theorem roundRobin_cases (c : Command) (n : ℕ) (s : SystemState) :
    roundRobin c n s = .callback .zero ∨ roundRobin c n s = .transmitThread ∨
      roundRobin c n s = .receiveThread ∨
      roundRobin c n s = .recv (min skalarkiMessageMaxLength s.receive.stream.length) ∨
      n = 3 ∧ roundRobin c n s = .send c.frame := by
  unfold roundRobin
  split
  · simp
  · simp
  · simp
  · simp
  · split_ifs with hn <;> simp [hn]

/-- The round robin from the start on. -/
def roundRobinRun (c : Command) (hash : Bytes → UInt64) : Execution (SystemAction.step hash) :=
  .ofScheduler (SystemAction.step hash) (roundRobin c) .initial

theorem roundRobin_action {c : Command} {hash : Bytes → UInt64} {n : ℕ} {a : SystemAction}
    (h : (roundRobinRun c hash).action n = some a) :
    a = .callback .zero ∨ a = .transmitThread ∨ a = .receiveThread ∨
      a = .recv (min skalarkiMessageMaxLength
        ((roundRobinRun c hash).state n).receive.stream.length) ∨
      n = 3 ∧ a = .send c.frame := by
  obtain rfl := Execution.action_ofScheduler h
  exact roundRobin_cases c n _

theorem roundRobinRun_running (c : Command) (hash : Bytes → UInt64) :
    Running (roundRobinRun c hash) where
  start := rfl
  running n := by
    induction n with
    | zero => rfl
    | succ n ih =>
      rcases (roundRobinRun c hash).next_cases n with ⟨-, heq⟩ | ⟨a, ha, hstep⟩
      · rwa [heq]
      · refine SystemAction.running_step hstep ?_ ih
        rintro rfl
        simpa using roundRobin_action ha

/-- Each party takes every fourth step of the round robin, if it can. -/
theorem roundRobin_fair_callback (c : Command) (hash : Bytes → UInt64) :
    (roundRobinRun c hash).Fair fun a => ∃ env, a = .callback env := by
  refine Execution.fair_ofScheduler fun n => ⟨4 * n, by omega, fun t => ?_⟩
  have hpick : roundRobin c (4 * n) t = .callback .zero := by
    simp [roundRobin]
  rw [hpick]
  refine ⟨⟨.zero, rfl⟩, ?_⟩
  rintro hnone a ⟨env, rfl⟩
  -- whether the main thread can take a step does not depend on the readings
  simp only [SystemAction.step, SystemState.callback] at hnone ⊢
  split at hnone <;> simp_all

theorem roundRobin_fair_transmitThread (c : Command) (hash : Bytes → UInt64) :
    (roundRobinRun c hash).Fair (· = .transmitThread) := by
  refine Execution.fair_ofScheduler fun n => ⟨4 * n + 1, by omega, fun t => ?_⟩
  have hpick : roundRobin c (4 * n + 1) t = .transmitThread := by
    have hmod : (4 * n + 1) % 4 = 1 := by omega
    simp [roundRobin, hmod]
  rw [hpick]
  refine ⟨rfl, ?_⟩
  rintro hnone a rfl
  exact hnone

theorem roundRobin_fair_receives (c : Command) (hash : Bytes → UInt64) :
    (roundRobinRun c hash).Fair SystemAction.Receives := by
  refine Execution.fair_ofScheduler fun n => ⟨4 * n + 2, by omega, fun t => ?_⟩
  have hmod : (4 * n + 2) % 4 = 2 := by omega
  cases hpc : t.receive.thread with
  | recv =>
    have hpick : roundRobin c (4 * n + 2) t =
        .recv (min skalarkiMessageMaxLength t.receive.stream.length) := by
      simp [roundRobin, hmod, hpc]
    rw [hpick]
    refine ⟨trivial, ?_⟩
    rintro hnone a ha
    -- `recv` waits only as long as nothing has arrived
    have hempty : t.receive.stream = [] := by
      by_contra hne
      have hpos := List.length_pos_iff.mpr hne
      have hmin : 0 < min skalarkiMessageMaxLength t.receive.stream.length := by
        simp only [skalarkiMessageMaxLength]
        omega
      simp [SystemAction.step, ReceiveState.recv, hpc, hmin] at hnone
    cases a with
    | recv k =>
      simp [SystemAction.step, ReceiveState.recv, hpc, hempty]
      omega
    | receiveThread => simp [SystemAction.step, ReceiveState.receiveThread, hpc]
    | _ => exact absurd ha id
  | _ =>
    have hpick : roundRobin c (4 * n + 2) t = .receiveThread := by
      simp [roundRobin, hmod, hpc]
    rw [hpick]
    refine ⟨trivial, ?_⟩
    rintro hnone a ha
    cases a with
    | recv k => simp [SystemAction.step, ReceiveState.recv, hpc]
    | receiveThread => exact hnone
    | _ => exact absurd ha id

theorem roundRobin_recv_ok (c : Command) (hash : Bytes → UInt64) (n : ℕ) :
    (roundRobinRun c hash).action n ≠ some .recvFails := by
  intro hfails
  simpa using roundRobin_action hfails

/-! ## Along a running execution -/

section Running

variable {hash : Bytes → UInt64} {E : Execution (SystemAction.step hash)} (hE : Running E)

include hE

theorem Running.reachable (n : ℕ) : (pluginSystem hash).Reachable (E.state n) :=
  E.reachable (S := pluginSystem hash) (fun a _ _ ha => ⟨a, ha⟩) hE.start n

theorem Running.inv (n : ℕ) : (E.state n).Inv hash := pluginSystem_inv (hE.reachable n)

/-- The connection is up. -/
theorem Running.up (n : ℕ) : (E.state n).transmit.stopTransmit = false :=
  TransmitState.stopTransmit_of_running (hE.inv n).transmit ((hE.inv n).running (hE.running n))

/-- Along the execution, the effects, frames and chunks only grow. -/
theorem Running.extends {n m : ℕ} (h : n ≤ m) :
    (E.state n).receive.Extends (E.state m).receive := by
  induction m, h using Nat.le_induction with
  | base => exact .refl _
  | succ m _ ih =>
    rcases E.next_cases m with ⟨-, heq⟩ | ⟨a, -, hstep⟩
    · rwa [heq]
    · refine ih.trans ?_
      rcases a.running_cases hstep (hE.running m) (hE.running (m + 1)) with
        ⟨b, r, -, hr, heq⟩ | ⟨-, u, -, heq⟩ | ⟨env, f, rest, -, -, heq⟩ | ⟨env, -, -, heq⟩
      · rw [heq]
        exact b.extends_step hr
      · rw [heq]
        exact .refl _
      · rw [heq]
        exact .refl _
      · rw [heq]
        exact ReceiveAction.extends_step (a := .flightLoop env) rfl

/-! ## Sending -/

/-- The frames that the plugin has pushed so far are accepted or pending. -/
theorem Running.length_pushes (n : ℕ) : (pushes (E.state n).receive.config.2).length =
    (E.state n).transmit.accepted.length + (E.state n).pending.length := by
  have hpushed := congrArg List.length (hE.inv n).pushed
  simp only [List.length_append, List.length_map] at hpushed
  exact hpushed.symm

/-- The callback pushes what is pending. -/
theorem accepted_eventually (hcallback : E.Fair fun a => ∃ env, a = .callback env) {n i : ℕ}
    (hi : i < (E.state n).transmit.accepted.length + (E.state n).pending.length) :
    ∃ m, n ≤ m ∧ i < (E.state m).transmit.accepted.length := by
  refine hcallback.eventually (fun s => i < s.transmit.accepted.length + s.pending.length)
    (fun s => i < s.transmit.accepted.length) (fun s => i + 1 - s.transmit.accepted.length)
    ?_ ?_ hi
  · intro n _ hP hgoal
    have hpending : (E.state n).pending ≠ [] := by
      intro hnil
      rw [hnil, List.length_nil] at hP
      exact hgoal hP
    obtain ⟨f, rest, hcons⟩ := List.exists_cons_of_ne_nil hpending
    refine ⟨.callback .zero, ⟨.zero, rfl⟩, ?_⟩
    simp [SystemAction.step, SystemState.callback, hE.running n, hcons]
  · intro n a _ htaken hstep hP hgoal
    rcases a.running_cases hstep (hE.running n) (hE.running (n + 1)) with
      ⟨b, r, hb, -, heq⟩ | ⟨rfl, u, hu, heq⟩ | ⟨env, f, rest, rfl, hpending, heq⟩ |
      ⟨env, rfl, hpending, -⟩
    · refine .inr ⟨by rw [heq]; exact hP, by rw [heq], ?_⟩
      rintro ⟨env, rfl⟩
      cases hb
    · have haccepted := TransmitState.accepted_transmitThread hu
      refine .inr ⟨by rw [heq, haccepted]; exact hP, by rw [heq, haccepted], ?_⟩
      rintro ⟨env, henv⟩
      cases henv
    · -- one pending frame becomes an accepted message
      have hf : f.Accepted := (hE.inv n).accepted f (by simp [hpending])
      rw [heq, TransmitState.pushMessage_of_accepted hf]
      rw [hpending, List.length_cons] at hP
      refine .inr ⟨?_, ?_, fun _ => ?_⟩ <;>
        simp only [List.length_append, List.length_singleton] <;> omega
    · -- with nothing pending, the message would be accepted already
      rw [hpending, List.length_nil] at hP
      exact absurd hP hgoal

/-- The transmit thread sends what is accepted. -/
theorem sent_eventually (hthread : E.Fair (· = .transmitThread)) {n i : ℕ}
    (hi : i < (E.state n).transmit.accepted.length) :
    ∃ m, n ≤ m ∧ i < (E.state m).transmit.sent.length := by
  refine hthread.eventually (fun s => i < s.transmit.accepted.length)
    (fun s => i < s.transmit.sent.length) (fun s => s.transmit.sendRank i) ?_ ?_ hi
  · intro n _ hP hgoal
    have htransmit := (hE.inv n).transmit
    -- an idle thread would have sent all that is accepted
    have hidle : ¬ (E.state n).transmit.Idle := by
      intro hidle
      have hfifo := congrArg List.length (transmitSystem_inv htransmit).fifo
      rw [(transmitSystem_inv htransmit).queue_of_idle (hE.up n) hidle, List.append_nil] at hfifo
      omega
    obtain ⟨u, hu, -⟩ := TransmitState.transmitThread_ready htransmit (hE.up n) hidle
    exact ⟨.transmitThread, rfl, by simp [SystemAction.step, hu]⟩
  · intro n a _ htaken hstep hP hgoal
    rcases a.running_cases hstep (hE.running n) (hE.running (n + 1)) with
      ⟨b, r, hb, -, heq⟩ | ⟨rfl, u, hu, heq⟩ | ⟨env, f, rest, rfl, hpending, heq⟩ |
      ⟨env, rfl, -, heq⟩
    · refine .inr ⟨by rw [heq]; exact hP, by rw [heq], ?_⟩
      rintro rfl
      cases hb
    · -- a step of the thread itself
      have hlt := TransmitState.sendRank_transmitThread
        (transmitSystem_inv (hE.inv n).transmit) (hE.up n) hP hgoal hu
      rw [heq]
      refine .inr ⟨?_, hlt.le, fun _ => hlt⟩
      rw [TransmitState.accepted_transmitThread hu]
      exact hP
    · -- the callback only adds to what is accepted
      have hf : f.Accepted := (hE.inv n).accepted f (by simp [hpending])
      rw [heq, TransmitState.pushMessage_of_accepted hf]
      refine .inr ⟨?_, le_rfl, by rintro ⟨⟩⟩
      rw [List.length_append]
      omega
    · refine .inr ⟨by rw [heq]; exact hP, by rw [heq], by rintro ⟨⟩⟩

/-- **Every frame is sent**: in an execution without `XPluginStop` that is fair to the callbacks
and to `TransmitThread`, whose `send` returns, every frame that the plugin pushes is handed to
`send`, in its place. -/
theorem every_frame_sent (hcallback : E.Fair fun a => ∃ env, a = .callback env)
    (hthread : E.Fair (· = .transmitThread)) {n i : ℕ} {f : Frame}
    (hf : (pushes (E.state n).receive.config.2)[i]? = some f) :
    ∃ m, n ≤ m ∧ ((E.state m).transmit.sent.map SkalarkiMessage.msg)[i]? = some f.message := by
  have hlt := (List.getElem?_eq_some_iff.mp hf).1
  rw [hE.length_pushes] at hlt
  obtain ⟨k, hk, haccepted⟩ := accepted_eventually hE hcallback hlt
  obtain ⟨m, hm, hsent⟩ := sent_eventually hE hthread haccepted
  refine ⟨m, hk.trans hm, ?_⟩
  -- by then, what has been sent is the beginning of the frames of the run
  obtain ⟨later, hlater⟩ := (hE.extends (hk.trans hm)).effects
  have hpushed := (hE.inv m).pushed
  rw [← (transmitSystem_inv (hE.inv m).transmit).fifo, List.map_append, List.append_assoc,
    ← hlater, pushes_append, List.map_append] at hpushed
  have hframe : ((pushes (E.state n).receive.config.2).map Frame.message)[i]? = some f.message := by
    rw [List.getElem?_map, hf, Option.map_some]
  have hsentAt := congrArg (·[i]?) hpushed
  rwa [List.getElem?_append_left (by rwa [List.length_map]),
    List.getElem?_append_left (List.getElem?_eq_some_iff.mp hframe).1, hframe] at hsentAt

omit hE in
theorem every_frame_sent_first :
    ∃ m, (((roundRobinRun .altRight fun _ => 0).state m).transmit.sent.map
      SkalarkiMessage.msg)[0]? =
        some ((⟨sendbufBacklightOn, sendbufLenBacklightOn⟩ : Frame).message) := by
  obtain ⟨m, -, hsent⟩ := every_frame_sent (roundRobinRun_running .altRight fun _ => 0)
    (roundRobin_fair_callback _ _) (roundRobin_fair_transmitThread _ _) (n := 0) (i := 0)
    (f := ⟨sendbufBacklightOn, sendbufLenBacklightOn⟩) rfl
  exact ⟨m, hsent⟩

/-! ## Receiving -/

theorem Running.stopReceive (n : ℕ) : (E.state n).receive.stopReceive = false := by
  have hinv := hE.inv n
  by_contra hstop
  rw [hinv.stopReceive, Bool.not_eq_false] at hstop
  have hjoin := SystemState.stepsToJoin_le_one hinv.transmit hstop
  rw [hinv.running (hE.running n)] at hjoin
  exact absurd hjoin (by decide)

/-- The receive thread has not ended. -/
theorem Running.thread_ne_exited (n : ℕ) : (E.state n).receive.thread ≠ .exited := by
  intro hexited
  have hstop := ReceiveState.stopReceive_of_exited (hE.inv n).receive hexited
  rw [hE.stopReceive n] at hstop
  cases hstop

/-- The receive thread reads what the panel has sent. -/
theorem received_eventually (hok : ∀ n, E.action n ≠ some .recvFails)
    (hreceive : E.Fair SystemAction.Receives) {n T : ℕ}
    (hT : T ≤ (E.state n).receive.panelBytes.length) :
    ∃ m, n ≤ m ∧ T ≤ (E.state m).receive.received.length := by
  refine hreceive.eventually (fun s => T ≤ s.receive.panelBytes.length)
    (fun s => T ≤ s.receive.received.length) (fun s => s.receive.recvRank T) ?_ ?_ hT
  · intro n _ hP hgoal
    cases hpc : (E.state n).receive.thread with
    | test =>
      refine ⟨.receiveThread, trivial, ?_⟩
      simp [SystemAction.step, ReceiveState.receiveThread, hpc]
    | recv =>
      -- some bytes have been sent and not yet read
      have hbytes := congrArg List.length (receiveSystem_inv (hE.inv n).receive).bytes
      have hstream : 1 ≤ (E.state n).receive.stream.length := by
        rw [List.length_append] at hbytes
        simp only [ReceiveState.received, ReceiveState.panelBytes] at hP hgoal
        omega
      refine ⟨.recv 1, trivial, ?_⟩
      simp [SystemAction.step, ReceiveState.recv, hpc, hstream, skalarkiMessageMaxLength]
    | push m =>
      refine ⟨.receiveThread, trivial, ?_⟩
      simp [SystemAction.step, ReceiveState.receiveThread, hpc]
    | exited => exact absurd hpc (hE.thread_ne_exited n)
  · intro n a _ htaken hstep hP hgoal
    have hP' : T ≤ (E.state (n + 1)).receive.panelBytes.length :=
      hP.trans (hE.extends (Nat.le_succ n)).panelBytes.length_le
    refine .inr ⟨hP', ?_⟩
    rcases a.running_cases hstep (hE.running n) (hE.running (n + 1)) with
      ⟨b, r, hb, hr, heq⟩ | ⟨rfl, u, hu, heq⟩ | ⟨env, f, rest, rfl, hpending, heq⟩ |
      ⟨env, rfl, -, heq⟩
    · rw [heq]
      exact ReceiveState.recvRank_step hgoal hb
        (fun hfails => hok n (htaken.trans (congrArg some hfails))) hr
    · exact ⟨by rw [heq], False.elim⟩
    · exact ⟨by rw [heq], False.elim⟩
    · -- the flight loop takes chunks from the queue, not from the stream
      obtain ⟨-, hchunks, hthread, -⟩ := (E.state n).receive.flightLoopStep_keeps hash env
      rw [heq]
      refine ⟨?_, False.elim⟩
      simp only [ReceiveState.recvRank, ReceiveState.received, hchunks, hthread]
      exact le_rfl

/-- The receive thread queues what it has read. -/
theorem queued_eventually (hreceive : E.Fair SystemAction.Receives) {n C : ℕ}
    (hC : C ≤ (E.state n).receive.chunks.length) :
    ∃ m, n ≤ m ∧ C ≤ (E.state m).receive.rxMessageCount := by
  -- as long as one of the chunks is not queued, it is in the hands of the thread
  have hpush : ∀ n, C ≤ (E.state n).receive.chunks.length →
      ¬ C ≤ (E.state n).receive.rxMessageCount → ∃ m, (E.state n).receive.thread = .push m := by
    intro n hP hgoal
    have hcount := receiveSystem_chunks_length (hE.inv n).receive
    cases hpc : (E.state n).receive.thread with
    | push m => exact ⟨m, rfl⟩
    | _ =>
      simp only [ReceiveState.inThread, hpc, List.length_nil] at hcount
      omega
  refine hreceive.eventually (fun s => C ≤ s.receive.chunks.length)
    (fun s => C ≤ s.receive.rxMessageCount) (fun _ => 0) ?_ ?_ hC
  · intro n _ hP hgoal
    obtain ⟨m, hpc⟩ := hpush n hP hgoal
    refine ⟨.receiveThread, trivial, ?_⟩
    simp [SystemAction.step, ReceiveState.receiveThread, hpc]
  · intro n a _ _ hstep hP hgoal
    obtain ⟨m, hpc⟩ := hpush n hP hgoal
    have hP' : C ≤ (E.state (n + 1)).receive.chunks.length :=
      hP.trans (hE.extends (Nat.le_succ n)).chunks.length_le
    by_cases ha : a.Receives
    · -- the thread can only push the message in its hands
      have hcount := receiveSystem_chunks_length (hE.inv n).receive
      simp only [ReceiveState.inThread, hpc, List.length_singleton] at hcount
      cases a with
      | recv k =>
        obtain ⟨r, hr, -⟩ := Option.map_eq_some_iff.mp hstep
        obtain ⟨-, -, hrecv, -⟩ := ReceiveState.recv_cases hr
        rw [hpc] at hrecv
        cases hrecv
      | receiveThread =>
        obtain ⟨r, hr, heq⟩ := Option.map_eq_some_iff.mp hstep
        rcases ReceiveState.receiveThread_cases hr with ⟨htest, -⟩ | ⟨m', -, rfl⟩
        · rw [hpc] at htest
          cases htest
        · rw [← heq]
          exact .inl (hP.trans hcount.le)
      | _ => exact absurd ha id
    · exact .inr ⟨hP', le_rfl, fun hreceives => absurd hreceives ha⟩

/-- The flight loop handles what is queued. -/
theorem handled_eventually (hcallback : E.Fair fun a => ∃ env, a = .callback env) {n C : ℕ}
    (hC : C ≤ (E.state n).receive.rxMessageCount) :
    ∃ m, n ≤ m ∧ C ≤ (E.state m).receive.handled := by
  refine hcallback.eventually (fun s => C ≤ s.receive.rxMessageCount)
    (fun s => C ≤ s.receive.handled) (fun s => s.pending.length + s.receive.handleRank C)
    ?_ ?_ hC
  · intro n _ _ _
    refine ⟨.callback .zero, ⟨.zero, rfl⟩, ?_⟩
    cases hpending : (E.state n).pending <;>
      simp [SystemAction.step, SystemState.callback, hE.running n, hpending]
  · intro n a _ _ hstep hP hgoal
    rcases a.running_cases hstep (hE.running n) (hE.running (n + 1)) with
      ⟨b, r, hb, hr, heq⟩ | ⟨rfl, u, hu, heq⟩ | ⟨env, f, rest, rfl, hpending, heq⟩ |
      ⟨env, rfl, hpending, heq⟩
    · -- the other parties touch neither the flight loop nor the run
      obtain ⟨hconfig, hloop, -, hrx⟩ := ReceiveAction.receive_keeps hb hr
      rw [heq]
      refine .inr ⟨hP.trans hrx, ?_, ?_⟩
      · simp only [ReceiveState.handleRank, ReceiveState.handled, hconfig, hloop]
        exact le_rfl
      · rintro ⟨env, rfl⟩
        cases hb
    · rw [heq]
      refine .inr ⟨hP, le_rfl, ?_⟩
      rintro ⟨env, henv⟩
      cases henv
    · -- a push leaves one pending frame less
      rw [heq, hpending]
      refine .inr ⟨hP, ?_, fun _ => ?_⟩ <;> simp
    · -- the rank of the flight loop pays for the frames that become pending
      have hlt := ReceiveState.handleRank_flightLoopStep (hE.inv n).receive hP hgoal env
      obtain ⟨-, -, -, hrx, -⟩ := (E.state n).receive.flightLoopStep_keeps hash env
      rw [heq, hpending, List.length_nil, Nat.zero_add]
      exact .inr ⟨hP.trans hrx.ge, hlt.le, fun _ => hlt⟩

/-- The flight loop comes to chunks that hold all that the panel has sent. -/
theorem chunks_handled_eventually (hok : ∀ n, E.action n ≠ some .recvFails)
    (hreceive : E.Fair SystemAction.Receives)
    (hcallback : E.Fair fun a => ∃ env, a = .callback env) (n : ℕ) :
    ∃ k m, n ≤ k ∧ k ≤ m ∧ (E.state n).receive.panelBytes <+: (E.state k).receive.received ∧
      ∃ done, (E.state m).receive.RunsTo hash done ∧ done <+: (E.state m).receive.chunks ∧
        (E.state k).receive.chunks <+: done := by
  -- the bytes are read, their chunks queued, and the queued messages handled
  obtain ⟨k, hk, hreceived⟩ := received_eventually hE hok hreceive
    (le_refl (E.state n).receive.panelBytes.length)
  obtain ⟨l, hl, hqueued⟩ := queued_eventually hE hreceive
    (le_refl (E.state k).receive.chunks.length)
  obtain ⟨m, hm, hhandled⟩ := handled_eventually hE hcallback hqueued
  obtain ⟨done, hruns, hdone, hcounter⟩ := receiveSystem_packetCounter (hE.inv m).receive
  have hprefix : done <+: (E.state m).receive.chunks := by
    rw [hdone]
    exact List.prefix_append _ _
  refine ⟨k, m, hk, hl.trans hm, ?_, done, hruns, hprefix, ?_⟩
  · -- both begin what the panel has sent by then, so that their lengths decide
    refine List.prefix_of_prefix_length_le (hE.extends hk).panelBytes ?_ hreceived
    rw [ReceiveState.panelBytes, ← (receiveSystem_inv (hE.inv k).receive).bytes]
    exact List.prefix_append _ _
  · refine List.prefix_of_prefix_length_le (hE.extends (hl.trans hm)).chunks hprefix ?_
    rw [ReceiveState.handled, hcounter, Int.toNat_natCast] at hhandled
    exact hhandled

/-- **Every byte is handled**: in an execution without `XPluginStop` that is fair to the receive
thread and to the callbacks, and in which `recv` does not fail, all that the panel has sent is
handled, in order: at some time the flight loop has processed chunks that begin with these
bytes. -/
theorem every_byte_handled (hok : ∀ n, E.action n ≠ some .recvFails)
    (hreceive : E.Fair SystemAction.Receives)
    (hcallback : E.Fair fun a => ∃ env, a = .callback env) (n : ℕ) :
    ∃ m, n ≤ m ∧ ∃ done, (E.state m).receive.RunsTo hash done ∧
      done <+: (E.state m).receive.chunks ∧
      (E.state n).receive.panelBytes <+: (done.map SkalarkiMessage.msg).flatten := by
  obtain ⟨k, m, hk, hm, hbytes, done, hruns, hprefix, hchunks⟩ :=
    chunks_handled_eventually hE hok hreceive hcallback n
  exact ⟨m, hk.trans hm, done, hruns, hprefix,
    hbytes.trans (hchunks.map SkalarkiMessage.msg).flatten⟩

omit hE in
theorem every_byte_handled_altRight :
    ∃ m done, ((roundRobinRun .altRight fun _ => 0).state m).receive.RunsTo (fun _ => 0) done ∧
      Command.altRight.frame.bytes <+: (done.map SkalarkiMessage.msg).flatten := by
  obtain ⟨m, -, done, hruns, -, hbytes⟩ := every_byte_handled
    (roundRobinRun_running .altRight fun _ => 0)
    (roundRobin_recv_ok _ _) (roundRobin_fair_receives _ _) (roundRobin_fair_callback _ _) 4
  refine ⟨m, done, hruns, ?_⟩
  -- by then, the panel has sent one frame
  have hframes : ((roundRobinRun .altRight fun _ => 0).state 4).receive.frames =
      [Command.altRight.frame] := rfl
  simpa [ReceiveState.panelBytes, hframes] using hbytes

end Running

end SkalarkiFcu
