import SkalarkiFcu.Library.Schedule
import SkalarkiFcu.Comm.Receive

/-!
# The flight loop and the received chunks

The flight loop runs on the thread of the simulator while `ReceiveThread` fills its queue.
Whatever the interleaving, the plugin is in the state of a sequential run over the chunks it
has received, the counters add up, and a call of the flight loop ends: it processes what is
queued, in order, and then updates once.

## Architecture

- **Sequential runs**: `ReceiveState.RunsTo`, `receiveSystem_runsTo`
- **Counters**: `ReceiveState.Counted`, `receiveSystem_counted`
- **Calls**: `ReceiveState.callRank`, `flightLoop_call_ends`, `flightLoop_call`
-/

namespace SkalarkiFcu

open LittleEndian Reactive TransitionSystem

theorem ReceiveAction.reachable_follow {hash : Bytes → UInt64} {s t : ReceiveState}
    (h : (receiveSystem hash).Reachable s) {as : List ReceiveAction}
    (hrun : follow (ReceiveAction.step hash) as s = some t) : (receiveSystem hash).Reachable t :=
  .of_follow (S := receiveSystem hash) (fun a _ _ ha => ⟨a, ha⟩) h hrun

/-! ## Sequential runs -/

namespace ReceiveState

variable {hash : Bytes → UInt64} {s t : ReceiveState}

/-- The next step of the flight loop, place by place; no queued message is empty. -/
theorem flightLoopStep_cases (hash : Bytes → UInt64) (env : Datarefs) (s : ReceiveState)
    (hpos : ∀ m ∈ s.messageQueueRx, 0 < m.msg.length) :
    (s.flightLoop = .idle ∧ s.datarefsInitialized = false ∧ s.flightLoopStep hash env = { s with
      config := exec (initDatarefs env) s.config
      datarefsInitialized := true
      flightLoop := .pop }) ∨
    (s.flightLoop = .idle ∧ s.datarefsInitialized = true ∧
      s.flightLoopStep hash env = { s with flightLoop := .pop }) ∨
    (∃ m rest, s.flightLoop = .pop ∧ s.messageQueueRx = m :: rest ∧
      s.flightLoopStep hash env = { s with messageQueueRx := rest, flightLoop := .process m }) ∨
    (s.flightLoop = .pop ∧ s.messageQueueRx = [] ∧
      s.flightLoopStep hash env = { s with flightLoop := .update }) ∨
    (∃ m, s.flightLoop = .process m ∧ s.flightLoopStep hash env = { s with
      config := exec (processPacket hash env m.msg) s.config
      flightLoop := .pop }) ∨
    (s.flightLoop = .update ∧ s.flightLoopStep hash env = { s with
      config := exec (update env) s.config
      flightLoop := .idle }) := by
  cases hpc : s.flightLoop with
  | idle =>
    cases hinit : s.datarefsInitialized with
    | false => exact .inl ⟨rfl, rfl, by simp [flightLoopStep, hpc, hinit]⟩
    | true => exact .inr (.inl ⟨rfl, rfl, by simp [flightLoopStep, hpc, hinit]⟩)
  | pop =>
    cases hqueue : s.messageQueueRx with
    | nil => exact .inr (.inr (.inr (.inl ⟨rfl, rfl, by simp [flightLoopStep, hpc, hqueue]⟩)))
    | cons m rest =>
      -- the loop tests the length, which is never 0
      have hm : 0 < m.msg.length := hpos m (by simp [hqueue])
      exact .inr (.inr (.inl ⟨m, rest, rfl, rfl, by simp [flightLoopStep, hpc, hqueue, hm]⟩))
  | process m =>
    exact .inr (.inr (.inr (.inr (.inl ⟨m, rfl, by simp [flightLoopStep, hpc]⟩))))
  | update => exact .inr (.inr (.inr (.inr (.inr ⟨rfl, by simp [flightLoopStep, hpc]⟩))))

/-- No queued message is empty. -/
theorem Inv.queue_pos (h : s.Inv hash) : ∀ m ∈ s.messageQueueRx, 0 < m.msg.length := by
  intro m hm
  obtain ⟨done, hchunks, -⟩ := h.handled
  exact h.chunks_pos m (by simp [hchunks, hm])

/-- The plugin is in the state of a sequential run that has processed the messages `done`:
before the first call of the flight loop in that of `Init`, and from then on in that of a
`session`. -/
def RunsTo (hash : Bytes → UInt64) (done : List SkalarkiMessage) (s : ReceiveState) : Prop :=
  (s.datarefsInitialized = false ∧ s.flightLoop = .idle ∧ done = [] ∧
    s.config = exec init (Globals.initial, [])) ∨
  (s.datarefsInitialized = true ∧ ∃ env₀ events, s.config = session hash env₀ events ∧
    packets events = done.map SkalarkiMessage.msg)

/-- The messages `done` have been processed, and the other chunks are on their way. -/
def Processed (done : List SkalarkiMessage) (s : ReceiveState) : Prop :=
  s.chunks = done ++ (s.inLoop ++ (s.messageQueueRx ++ s.inThread))

/-- Inside a call, the run has started. -/
theorem RunsTo.of_busy {done : List SkalarkiMessage} (h : s.RunsTo hash done)
    (hpc : s.flightLoop ≠ .idle) :
    s.datarefsInitialized = true ∧ ∃ env₀ events, s.config = session hash env₀ events ∧
      packets events = done.map SkalarkiMessage.msg := by
  rcases h with ⟨-, hidle, -⟩ | h
  · exact absurd hidle hpc
  · exact h

/-- A step of the flight loop is a step of the run, or it moves a message. -/
theorem RunsTo.flightLoopStep {done : List SkalarkiMessage} (h : s.RunsTo hash done)
    (hdone : s.Processed done) (hpos : ∀ m ∈ s.messageQueueRx, 0 < m.msg.length)
    (env : Datarefs) :
    ∃ done, (s.flightLoopStep hash env).RunsTo hash done ∧
      (s.flightLoopStep hash env).Processed done := by
  rcases flightLoopStep_cases hash env s hpos with ⟨hpc, hinit, heq⟩ | ⟨hpc, hinit, heq⟩ |
    ⟨m, rest, hpc, hqueue, heq⟩ | ⟨hpc, hqueue, heq⟩ | ⟨m, hpc, heq⟩ | ⟨hpc, heq⟩
  · -- the first call: the run starts under the readings of this moment
    rcases h with ⟨-, -, rfl, hconfig⟩ | ⟨hinit', -⟩
    · refine ⟨[], .inr ?_, ?_⟩
      · rw [heq]
        exact ⟨rfl, env, [], by rw [hconfig]; rfl, rfl⟩
      · simpa [heq, Processed, inLoop, inThread, hpc] using hdone
    · rw [hinit] at hinit'
      cases hinit'
  · refine ⟨done, ?_, ?_⟩
    · rcases h with ⟨hinit', -⟩ | h
      · rw [hinit] at hinit'
        cases hinit'
      · exact .inr (by rw [heq]; exact h)
    · simpa [heq, Processed, inLoop, inThread, hpc] using hdone
  · have hruns := h.of_busy (by simp [hpc])
    refine ⟨done, .inr (by rw [heq]; exact hruns), ?_⟩
    simpa [heq, Processed, inLoop, inThread, hpc, hqueue] using hdone
  · have hruns := h.of_busy (by simp [hpc])
    refine ⟨done, .inr (by rw [heq]; exact hruns), ?_⟩
    simpa [heq, Processed, inLoop, inThread, hpc, hqueue] using hdone
  · -- the message in hand becomes the next packet of the run
    obtain ⟨hinit, env₀, events, hconfig, hpackets⟩ := h.of_busy (by simp [hpc])
    refine ⟨done ++ [m], .inr ?_, ?_⟩
    · rw [heq]
      refine ⟨hinit, env₀, events ++ [.packet env m.msg], ?_, ?_⟩
      · rw [session_packet, ← hconfig]
      · rw [packets_packet, hpackets, List.map_append]
        rfl
    · simpa [heq, Processed, inLoop, inThread, hpc] using hdone
  · -- the queue was empty: the call ends with an update
    obtain ⟨hinit, env₀, events, hconfig, hpackets⟩ := h.of_busy (by simp [hpc])
    refine ⟨done, .inr ?_, ?_⟩
    · rw [heq]
      refine ⟨hinit, env₀, events ++ [.update env], ?_, ?_⟩
      · rw [session_update, ← hconfig]
      · rw [packets_update, hpackets]
    · simpa [heq, Processed, inLoop, inThread, hpc] using hdone

end ReceiveState

/-- **The flight loop is sequential**: in every interleaving, the plugin is in the state of a run
that has processed the received chunks, in order, up to those that are still on their way. -/
theorem receiveSystem_runsTo {hash : Bytes → UInt64} {s : ReceiveState}
    (h : (receiveSystem hash).Reachable s) : ∃ done, s.RunsTo hash done ∧ s.Processed done := by
  have hinv : s.Inv hash ∧ ∃ done, s.RunsTo hash done ∧ s.Processed done := by
    apply h.invariant
    · rintro s rfl
      exact ⟨ReceiveState.inv_initial, [], .inl ⟨rfl, rfl, rfl, rfl⟩, rfl⟩
    · rintro s t ⟨hs, done, hruns, hdone⟩ ⟨a, ha⟩
      refine ⟨a.inv_step hs ha, ?_⟩
      cases a with
      | send f =>
        obtain rfl : s.send f = t := Option.some.inj ha
        exact ⟨done, hruns, hdone⟩
      | recv n =>
        obtain ⟨m, rest, hpc, -, -, rfl⟩ := ReceiveState.recv_cases ha
        refine ⟨done, hruns, ?_⟩
        -- the chunk goes to the thread, which had none in its hands
        have hthread : s.inThread = [] := by simp [ReceiveState.inThread, hpc]
        rw [ReceiveState.Processed, hthread] at hdone
        simp [ReceiveState.Processed, hdone, ReceiveState.inLoop, ReceiveState.inThread]
      | recvFails =>
        obtain ⟨hpc, rfl⟩ := ReceiveState.recvFails_cases ha
        refine ⟨done, hruns, ?_⟩
        simpa [ReceiveState.Processed, ReceiveState.inLoop, ReceiveState.inThread, hpc]
          using hdone
      | receiveThread =>
        rcases ReceiveState.receiveThread_cases ha with ⟨hpc, pc, hnext, rfl⟩ | ⟨m, hpc, rfl⟩
        · refine ⟨done, hruns, ?_⟩
          rcases hnext with rfl | rfl <;>
            simpa [ReceiveState.Processed, ReceiveState.inLoop, ReceiveState.inThread, hpc]
              using hdone
        · refine ⟨done, hruns, ?_⟩
          simpa [ReceiveState.Processed, ReceiveState.inLoop, ReceiveState.inThread, hpc]
            using hdone
      | stopReceive =>
        obtain rfl : { s with stopReceive := true } = t := Option.some.inj ha
        exact ⟨done, hruns, hdone⟩
      | flightLoop env =>
        obtain rfl : s.flightLoopStep hash env = t := Option.some.inj ha
        exact hruns.flightLoopStep hdone hs.queue_pos env
  exact hinv.2

/-! ## Counters -/

/-- The counters of both sides, and where the messages between them are. -/
structure ReceiveState.Counted (s : ReceiveState) : Prop where
  /-- Every chunk is counted when it is queued. -/
  chunks : s.chunks.length = s.rxMessageCount + s.inThread.length
  /-- Every queued message is processed, or it is on its way. -/
  packets : (s.rxMessageCount : ℤ) =
    s.config.1.packetCounter + s.inLoop.length + s.messageQueueRx.length

theorem processPacket_packetCounter (hash : Bytes → UInt64) (env : Datarefs) (recvbuf : Bytes)
    (s : Globals) :
    (processPacket hash env recvbuf s).1.packetCounter = s.packetCounter + 1 := by
  cases h : dispatch hash recvbuf with
  | none => rw [processPacket_of_none h]
  | some c =>
    rw [processPacket_of_some h]
    -- no handler touches the counter
    cases c <;> rfl

theorem session_packetCounter (hash : Bytes → UInt64) (env₀ : Datarefs) (events : List Event) :
    (session hash env₀ events).1.packetCounter = (packets events).length := by
  induction events using history_induction with
  | nil => rw [session_nil, started_fst]; rfl
  | packet pre env recvbuf ih =>
    rw [session_packet, exec_fst, processPacket_packetCounter, ih, packets_packet]
    simp
  | update pre env ih =>
    rw [session_update, exec_fst, packets_update, ← ih]
    simp [update]

/-- Every chunk is counted when it is queued. -/
theorem receiveSystem_chunks_length {hash : Bytes → UInt64} {s : ReceiveState}
    (h : (receiveSystem hash).Reachable s) :
    s.chunks.length = s.rxMessageCount + s.inThread.length := by
  have hinv : s.Inv hash ∧ s.chunks.length = s.rxMessageCount + s.inThread.length := by
    apply h.invariant
    · rintro s rfl
      exact ⟨ReceiveState.inv_initial, rfl⟩
    · rintro s t ⟨hs, hcount⟩ ⟨a, ha⟩
      refine ⟨a.inv_step hs ha, ?_⟩
      cases a with
      | send f =>
        obtain rfl : s.send f = t := Option.some.inj ha
        exact hcount
      | recv n =>
        obtain ⟨m, rest, hpc, -, -, rfl⟩ := ReceiveState.recv_cases ha
        have hthread : s.inThread = [] := by simp [ReceiveState.inThread, hpc]
        -- the new chunk is in the hands of the thread, and not counted yet
        rw [hthread] at hcount
        simp [ReceiveState.inThread, hcount]
      | recvFails =>
        obtain ⟨hpc, rfl⟩ := ReceiveState.recvFails_cases ha
        simpa [ReceiveState.inThread, hpc] using hcount
      | receiveThread =>
        rcases ReceiveState.receiveThread_cases ha with ⟨hpc, pc, hnext, rfl⟩ | ⟨m, hpc, rfl⟩
        · rcases hnext with rfl | rfl <;> simpa [ReceiveState.inThread, hpc] using hcount
        · -- the thread queues the chunk and counts it
          simpa [ReceiveState.inThread, hpc] using hcount
      | stopReceive =>
        obtain rfl : { s with stopReceive := true } = t := Option.some.inj ha
        exact hcount
      | flightLoop env =>
        obtain rfl : s.flightLoopStep hash env = t := Option.some.inj ha
        rcases ReceiveState.flightLoopStep_cases hash env s hs.queue_pos with
          ⟨-, -, heq⟩ | ⟨-, -, heq⟩ | ⟨m, rest, -, -, heq⟩ | ⟨-, -, heq⟩ | ⟨m, -, heq⟩ |
          ⟨-, heq⟩ <;>
          rw [heq] <;> exact hcount
  exact hinv.2

/-- `packet_counter` counts the messages that the run has processed. -/
theorem receiveSystem_packetCounter {hash : Bytes → UInt64} {s : ReceiveState}
    (h : (receiveSystem hash).Reachable s) : ∃ done, s.RunsTo hash done ∧ s.Processed done ∧
      s.config.1.packetCounter = done.length := by
  obtain ⟨done, hruns, hdone⟩ := receiveSystem_runsTo h
  refine ⟨done, hruns, hdone, ?_⟩
  rcases hruns with ⟨-, -, rfl, hconfig⟩ | ⟨-, env₀, events, hconfig, hpackets⟩
  · rw [hconfig]
    rfl
  · rw [hconfig, session_packetCounter, hpackets, List.length_map]

/-- **The counters add up**: in every interleaving, `_rxMessageCount` is `packet_counter` and
what is queued or in the hands of the flight loop. -/
theorem receiveSystem_counted {hash : Bytes → UInt64} {s : ReceiveState}
    (h : (receiveSystem hash).Reachable s) : s.Counted := by
  have hchunks := receiveSystem_chunks_length h
  obtain ⟨done, -, hdone, hcounter⟩ := receiveSystem_packetCounter h
  refine ⟨hchunks, ?_⟩
  have hlength := congrArg List.length hdone
  simp only [List.length_append] at hlength
  omega

/-- One received frame that the flight loop has not popped. -/
theorem receiveSystem_counted_queued : ∃ s : ReceiveState,
    s.messageQueueRx.length = 1 ∧ s.Counted := by
  obtain ⟨s, hs, hqueue⟩ : ∃ s, follow (ReceiveAction.step fnv1a)
      [.receiveThread, .send Command.altRight.frame, .recv Command.altRight.literal.length,
        .receiveThread] .initial = some s ∧ s.messageQueueRx.length = 1 := ⟨_, rfl, rfl⟩
  exact ⟨s, hqueue, receiveSystem_counted (ReceiveAction.reachable_follow (.start rfl) hs)⟩

/-! ## Calls -/

namespace ReceiveState

/-- How many steps the call of the flight loop still takes if no message arrives. -/
def callRank (s : ReceiveState) : ℕ :=
  match s.flightLoop with
  | .idle => 0
  | .pop => 2 * s.messageQueueRx.length + 2
  | .process _ => 2 * s.messageQueueRx.length + 3
  | .update => 1

end ReceiveState

/-- A step of the system, while the flight loop starts no new call. -/
def ReceiveAction.stepInCall (hash : Bytes → UInt64) (a : ReceiveAction) (s : ReceiveState) :
    Option ReceiveState :=
  match a, s.flightLoop with
  | .flightLoop _, .idle => none
  | _, _ => a.step hash s

/-- A step of the flight loop. -/
def ReceiveAction.loopWork : ReceiveAction → ℕ
  | .flightLoop _ => 1
  | _ => 0

/-- A step within a call is a step of the system, and the flight loop is not outside. -/
theorem ReceiveAction.stepInCall_cases {hash : Bytes → UInt64} {s t : ReceiveState}
    {a : ReceiveAction} (h : a.stepInCall hash s = some t) :
    a.step hash s = some t ∧ ∀ env, a = .flightLoop env → s.flightLoop ≠ .idle := by
  cases a with
  | flightLoop env =>
    cases hpc : s.flightLoop with
    | idle => simp [stepInCall, hpc] at h
    | pop => exact ⟨by simpa [stepInCall, hpc] using h, by simp⟩
    | process m => exact ⟨by simpa [stepInCall, hpc] using h, by simp⟩
    | update => exact ⟨by simpa [stepInCall, hpc] using h, by simp⟩
  | _ => exact ⟨h, by simp⟩

/-- A message that arrives pays for the two steps that pop and process it. -/
theorem ReceiveAction.stepInCall_pays {hash : Bytes → UInt64} {s t : ReceiveState}
    (h : s.Inv hash) {a : ReceiveAction} (ht : a.stepInCall hash s = some t) :
    t.Inv hash ∧
      t.callRank + a.loopWork + 2 * s.rxMessageCount ≤ s.callRank + 2 * t.rxMessageCount := by
  obtain ⟨hstep, hcall⟩ := stepInCall_cases ht
  refine ⟨a.inv_step h hstep, ?_⟩
  cases a with
  | send f =>
    obtain rfl : s.send f = t := Option.some.inj hstep
    exact le_rfl
  | recv n =>
    obtain ⟨m, rest, -, -, -, rfl⟩ := ReceiveState.recv_cases hstep
    exact le_rfl
  | recvFails =>
    obtain ⟨-, rfl⟩ := ReceiveState.recvFails_cases hstep
    exact le_rfl
  | receiveThread =>
    rcases ReceiveState.receiveThread_cases hstep with ⟨-, pc, -, rfl⟩ | ⟨m, -, rfl⟩
    · exact le_rfl
    · -- a message is queued, which pays for its two steps
      simp only [ReceiveState.callRank, loopWork]
      cases s.flightLoop <;> simp only [List.length_append, List.length_singleton] <;> omega
  | stopReceive =>
    obtain rfl : { s with stopReceive := true } = t := Option.some.inj hstep
    exact le_rfl
  | flightLoop env =>
    obtain rfl : s.flightLoopStep hash env = t := Option.some.inj hstep
    rcases ReceiveState.flightLoopStep_cases hash env s h.queue_pos with
      ⟨hpc, -⟩ | ⟨hpc, -⟩ | ⟨m, rest, hpc, hqueue, heq⟩ | ⟨hpc, hqueue, heq⟩ |
      ⟨m, hpc, heq⟩ | ⟨hpc, heq⟩
    · exact absurd hpc (hcall env rfl)
    · exact absurd hpc (hcall env rfl)
    · simp only [heq, ReceiveState.callRank, hpc, hqueue, loopWork, List.length_cons]
      omega
    · simp only [heq, ReceiveState.callRank, hpc, hqueue, loopWork, List.length_nil]
      omega
    · simp only [heq, ReceiveState.callRank, hpc, loopWork]
      omega
    · simp only [heq, ReceiveState.callRank, hpc, loopWork]
      omega

/-- **A call ends**: however the other parties interleave, the flight loop takes at most two
steps for each message that waits or arrives during its call, and three more. -/
theorem flightLoop_call_ends {hash : Bytes → UInt64} {s t : ReceiveState}
    (h : (receiveSystem hash).Reachable s) {as : List ReceiveAction}
    (hrun : follow (ReceiveAction.stepInCall hash) as s = some t) :
    (as.map ReceiveAction.loopWork).sum + 2 * s.rxMessageCount ≤
      2 * s.messageQueueRx.length + 3 + 2 * t.rxMessageCount := by
  have hsum : t.callRank + (as.map ReceiveAction.loopWork).sum + 2 * s.rxMessageCount ≤
      s.callRank + 2 * t.rxMessageCount :=
    (follow_potential (ReceiveState.Inv hash) (fun u => 2 * u.rxMessageCount)
      (fun _ _ _ hs hstep => ReceiveAction.stepInCall_pays hs hstep) hrun
      (receiveSystem_inv h)).2
  have hrank : s.callRank ≤ 2 * s.messageQueueRx.length + 3 := by
    unfold ReceiveState.callRank
    split <;> omega
  omega

/-- A call with one message in hand and one queued, in which a third one arrives: its seven steps
are all that the bound allows. -/
theorem flightLoop_call_ends_busy : ∃ (as : List ReceiveAction) (s t : ReceiveState),
    (receiveSystem fnv1a).Reachable s ∧ s.messageQueueRx.length = 1 ∧
    follow (ReceiveAction.stepInCall fnv1a) as s = some t ∧
    t.rxMessageCount = s.rxMessageCount + 1 ∧ t.flightLoop = .idle ∧
    (as.map ReceiveAction.loopWork).sum = 7 ∧
    7 + 2 * s.rxMessageCount ≤ 2 * s.messageQueueRx.length + 3 + 2 * t.rxMessageCount := by
  -- a press that arrives and is queued
  let press : List ReceiveAction := [.receiveThread, .send Command.altRight.frame,
    .recv Command.altRight.literal.length, .receiveThread]
  let loop : List ReceiveAction := [.flightLoop .zero, .flightLoop .zero]
  let call : List ReceiveAction := press ++ loop ++ loop ++ loop ++ [.flightLoop .zero]
  obtain ⟨s, hs, hqueue, hcount⟩ : ∃ s, follow (ReceiveAction.step fnv1a)
      (press ++ press ++ loop) .initial = some s ∧ s.messageQueueRx.length = 1 ∧
      s.rxMessageCount = 2 := ⟨_, rfl, rfl, rfl⟩
  obtain ⟨t, ht, hcount', hidle⟩ : ∃ t, follow (ReceiveAction.stepInCall fnv1a) call s = some t ∧
      t.rxMessageCount = 3 ∧ t.flightLoop = .idle := by
    obtain rfl := Option.some.inj hs
    exact ⟨_, rfl, rfl, rfl⟩
  have hreach := ReceiveAction.reachable_follow (.start rfl) hs
  have hends := flightLoop_call_ends hreach ht
  have hwork : (call.map ReceiveAction.loopWork).sum = 7 := rfl
  rw [hwork] at hends
  exact ⟨_, s, t, hreach, hqueue, ht, by rw [hcount, hcount'], hidle, hwork, hends⟩

/-- The configuration in which a call drains the queue: that of the call, or the one that the
first call makes of it. -/
def ReceiveState.called (env : Datarefs) (s : ReceiveState) : Config Globals Effect :=
  if s.datarefsInitialized = false then exec (initDatarefs env) s.config else s.config

theorem ReceiveState.flightLoopStep_of_idle {s : ReceiveState} (hpc : s.flightLoop = .idle)
    (hash : Bytes → UInt64) (env : Datarefs) : s.flightLoopStep hash env = { s with
      config := s.called env
      datarefsInitialized := true
      flightLoop := .pop } := by
  cases hinit : s.datarefsInitialized with
  | false => simp [flightLoopStep, called, hpc, hinit]
  | true =>
    rw [← hinit]
    simp [flightLoopStep, called, hpc, hinit]

/-- The drain loop and the update behind it, under the readings of each step. -/
theorem follow_drain (hash : Bytes → UInt64) {s : ReceiveState} (hpc : s.flightLoop = .pop)
    (hpos : ∀ m ∈ s.messageQueueRx, 0 < m.msg.length) (envs : List Datarefs)
    (henvs : envs.length = 2 * s.messageQueueRx.length + 2) :
    ∃ events env, packets events = s.messageQueueRx.map SkalarkiMessage.msg ∧
      events.length = s.messageQueueRx.length ∧
      follow (ReceiveAction.step hash) (envs.map .flightLoop) s = some { s with
        messageQueueRx := []
        flightLoop := .idle
        config := run (Event.step hash) s.config (events ++ [.update env]) } := by
  induction hqueue : s.messageQueueRx generalizing s envs with
  | nil =>
    rw [hqueue] at henvs
    obtain ⟨env, env', rfl⟩ := List.length_eq_two.mp henvs
    refine ⟨[], env', rfl, rfl, ?_⟩
    simp [follow, ReceiveAction.step, ReceiveState.flightLoopStep, hpc, hqueue]
  | cons m rest ih =>
    rw [hqueue] at henvs hpos
    -- the message takes the readings of two steps, of its pop and of its handler
    obtain ⟨env, env', envs', rfl⟩ : ∃ env env' envs', envs = env :: env' :: envs' := by
      rcases envs with _ | ⟨env, _ | ⟨env', envs'⟩⟩
      · simp at henvs
      · simp at henvs
      · exact ⟨env, env', envs', rfl⟩
    have hm : 0 < m.msg.length := hpos m List.mem_cons_self
    have hpop : s.flightLoopStep hash env =
        { s with messageQueueRx := rest, flightLoop := .process m } := by
      simp [ReceiveState.flightLoopStep, hpc, hqueue, hm]
    have henvs' : envs'.length = 2 * rest.length + 2 := by
      rw [List.length_cons, List.length_cons, List.length_cons] at henvs
      omega
    -- one message is popped and processed, and the loop is where it was
    obtain ⟨events, last, hpackets, hlength, hfollow⟩ := ih
      (s := { s with
        messageQueueRx := rest
        flightLoop := .pop
        config := exec (processPacket hash env' m.msg) s.config }) rfl
      (fun m' hm' => hpos m' (List.mem_cons_of_mem m hm'))
      envs' henvs' rfl
    refine ⟨.packet env' m.msg :: events, last, ?_, ?_, ?_⟩
    · simpa [packets, Event.recvbuf?] using hpackets
    · simp [hlength]
    · rw [List.cons_append, run_cons, Event.step_packet]
      exact follow_cons_eq_some.mpr ⟨_, congrArg some hpop,
        follow_cons_eq_some.mpr ⟨_, rfl, hfollow⟩⟩

/-- **A call of the flight loop**: undisturbed, it reads the datarefs if it is the first one,
processes the queued messages, in order and once each, updates once, and returns. -/
theorem flightLoop_call {hash : Bytes → UInt64} {s : ReceiveState}
    (h : (receiveSystem hash).Reachable s) (hpc : s.flightLoop = .idle) (env : Datarefs)
    {envs : List Datarefs} (henvs : envs.length = 2 * s.messageQueueRx.length + 2) :
    ∃ events last, packets events = s.messageQueueRx.map SkalarkiMessage.msg ∧
      events.length = s.messageQueueRx.length ∧
      follow (ReceiveAction.step hash) ((env :: envs).map .flightLoop) s = some { s with
        messageQueueRx := []
        datarefsInitialized := true
        config := run (Event.step hash) (s.called env) (events ++ [.update last]) } := by
  obtain ⟨events, last, hpackets, hlength, hfollow⟩ := follow_drain hash
    (s := { s with config := s.called env, datarefsInitialized := true, flightLoop := .pop })
    rfl (receiveSystem_inv h).queue_pos envs henvs
  refine ⟨events, last, hpackets, hlength, ?_⟩
  rw [← hpc] at hfollow
  exact follow_cons_eq_some.mpr
    ⟨_, congrArg some (s.flightLoopStep_of_idle hpc hash env), hfollow⟩

/-- The first call, with one message queued. -/
theorem flightLoop_call_first : ∃ s t : ReceiveState, (receiveSystem fnv1a).Reachable s ∧
    s.datarefsInitialized = false ∧ s.messageQueueRx.length = 1 ∧
    follow (ReceiveAction.step fnv1a) ((List.replicate 5 Datarefs.zero).map .flightLoop) s =
      some t ∧ t.datarefsInitialized = true ∧ t.messageQueueRx = [] := by
  obtain ⟨s, hs, hpc, hinit, hqueue⟩ : ∃ s, follow (ReceiveAction.step fnv1a)
      [.receiveThread, .send Command.altRight.frame, .recv Command.altRight.literal.length,
        .receiveThread] .initial = some s ∧ s.flightLoop = .idle ∧
      s.datarefsInitialized = false ∧ s.messageQueueRx.length = 1 := ⟨_, rfl, rfl, rfl, rfl⟩
  have hfour : (List.replicate 4 Datarefs.zero).length = 2 * s.messageQueueRx.length + 2 := by
    rw [hqueue, List.length_replicate]
  have hreach := ReceiveAction.reachable_follow (.start rfl) hs
  obtain ⟨events, last, -, -, hrun⟩ := flightLoop_call hreach hpc .zero hfour
  exact ⟨s, _, hreach, hinit, hqueue, hrun, rfl, rfl⟩

end SkalarkiFcu
