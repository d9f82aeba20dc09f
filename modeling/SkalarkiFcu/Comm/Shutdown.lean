import SkalarkiFcu.Comm.System

/-!
# What Shutdown waits for

`XPluginStop` waits for both threads. Once `Shutdown` has stored its two flags, all threads
together take at most ten steps more. Until it returns, the next step waits for nobody, with one
exception: a transmit thread that had already passed its test may still hand a message to `send`,
which blocks while the panel does not read. `Shutdown` joins this thread before it shuts the
socket down, so that nothing but the panel ends such a `send`.

## Architecture

- **Work**: `SystemState.stopRank`, which every step of a thread decreases
- **No deadlock**: `SystemState.waitsFor` and `SystemState.Unblocked`, `SystemState.Inv.ready`
- **Termination**: `shutdown_returns`
-/

namespace SkalarkiFcu

open LittleEndian TransitionSystem

/-! ## Work -/

/-- How many steps `ReceiveThread` still takes once it has been told to stop. -/
def ReceivePc.stepsToExit : ReceivePc → ℕ
  | .recv => 3
  | .push _ => 2
  | .test => 1
  | .exited => 0

/-- How many steps are left up to the join of the transmit thread. -/
def ShutdownPc.stepsToJoin : ShutdownPc → ℕ
  | .stopTransmit => 3
  | .stopReceive => 2
  | .release => 1
  | .join => 0

namespace SystemState

/-- How many steps the main thread still takes. -/
def stepsToReturn (s : SystemState) : ℕ :=
  match s.main with
  | .running | .shutdown => s.transmit.shutdown.stepsToJoin + 3
  | .socket => 2
  | .join => 1
  | .returned => 0

/-- How many steps all threads together still take once both flags are stored. -/
def stopRank (s : SystemState) : ℕ :=
  s.stepsToReturn + s.transmit.thread.stepsToExit + s.receive.thread.stepsToExit

/-- `Shutdown` has stored both flags. -/
structure Stopping (s : SystemState) : Prop where
  main : s.main ≠ .running
  stopTransmit : s.transmit.stopTransmit = true
  stopReceive : s.receive.stopReceive = true

end SystemState

/-- A step of one of the threads of the plugin. -/
def SystemAction.work : SystemAction → ℕ
  | .recv _ | .recvFails | .receiveThread | .transmitThread | .shutdown => 1
  | .send _ | .callback _ | .stop => 0

namespace SystemState

variable {hash : Bytes → UInt64} {s t : SystemState}

/-- A step of `ReceiveThread` or of `recv` brings the thread closer to its end. -/
theorem Stopping.receiveStep (h : s.Stopping) {r : ReceiveState}
    (hr : s.receive.recvFails = some r ∨ s.receive.receiveThread = some r ∨
      ∃ n, s.receive.recv n = some r) :
    ({ s with receive := r } : SystemState).Stopping ∧
      ({ s with receive := r } : SystemState).stopRank + 1 ≤ s.stopRank := by
  have hstop := h.stopReceive
  have hthread : r.stopReceive = true ∧
      r.thread.stepsToExit + 1 ≤ s.receive.thread.stepsToExit := by
    rcases hr with hr | hr | ⟨n, hr⟩
    · obtain ⟨hpc, rfl⟩ := ReceiveState.recvFails_cases hr
      exact ⟨hstop, by simp [hpc, ReceivePc.stepsToExit]⟩
    · cases hpc : s.receive.thread with
      | test =>
        -- the flag is set, so that the loop ends
        obtain rfl : { s.receive with thread := .exited } = r := by
          simpa [ReceiveState.receiveThread, hpc, hstop] using hr
        exact ⟨hstop, by simp [ReceivePc.stepsToExit]⟩
      | push m =>
        obtain rfl : { s.receive with
            messageQueueRx := s.receive.messageQueueRx ++ [m]
            rxMessageCount := s.receive.rxMessageCount + 1
            thread := .test } = r := by
          simpa [ReceiveState.receiveThread, hpc] using hr
        exact ⟨hstop, by simp [ReceivePc.stepsToExit]⟩
      | _ => simp [ReceiveState.receiveThread, hpc] at hr
    · obtain ⟨m, rest, hpc, -, -, rfl⟩ := ReceiveState.recv_cases hr
      exact ⟨hstop, by simp [hpc, ReceivePc.stepsToExit]⟩
  refine ⟨⟨h.main, h.stopTransmit, hthread.1⟩, ?_⟩
  have hrank := hthread.2
  simp only [stopRank, stepsToReturn]
  omega

theorem Stopping.transmitThread (h : s.Stopping) {u : TransmitState}
    (hu : s.transmit.transmitThread = some u) :
    ({ s with transmit := u } : SystemState).Stopping ∧
      ({ s with transmit := u } : SystemState).stopRank + 1 ≤ s.stopRank := by
  have hthread : u.stopTransmit = true ∧ u.shutdown = s.transmit.shutdown ∧
      u.thread.stepsToExit + 1 ≤ s.transmit.thread.stepsToExit := by
    rcases TransmitState.transmitThread_cases hu with ⟨-, hup, -⟩ | ⟨hpc, hstop, rfl⟩ |
      ⟨n, hpc, -, rfl⟩ | ⟨msg, rest, hpc, -, rfl⟩ | ⟨hpc, -, rfl⟩
    · -- the test finds the flag, so that the loop does not go on
      rw [h.stopTransmit] at hup
      cases hup
    all_goals exact ⟨h.stopTransmit, rfl, by simp [hpc, TransmitPc.stepsToExit]⟩
  refine ⟨⟨h.main, hthread.1, h.stopReceive⟩, ?_⟩
  have hrank := hthread.2.2
  simp only [stopRank, stepsToReturn, hthread.2.1]
  omega

theorem Stopping.shutdown (h : s.Stopping) (hinv : s.Inv hash) (ht : s.shutdown = some t) :
    t.Stopping ∧ t.stopRank + 1 ≤ s.stopRank := by
  rcases shutdown_cases ht with ⟨u, hmain, hu, rfl⟩ | ⟨hmain, -, -, rfl⟩ | ⟨hmain, rfl⟩ |
    ⟨hmain, -, rfl⟩
  · -- a store or the release, one step nearer to the join
    have hstop : s.transmit.stopReceive = true := hinv.stopReceive.symm.trans h.stopReceive
    have hstores : u.stopTransmit = true ∧ u.stopReceive = true ∧
        u.thread = s.transmit.thread ∧
        u.shutdown.stepsToJoin + 1 ≤ s.transmit.shutdown.stepsToJoin := by
      rcases TransmitState.shutdownStep_cases hu with ⟨hpc, rfl⟩ | ⟨hpc, rfl⟩ | ⟨hpc, rfl⟩
      · exact ⟨rfl, hstop, rfl, by simp [hpc, ShutdownPc.stepsToJoin]⟩
      · exact ⟨h.stopTransmit, rfl, rfl, by simp [hpc, ShutdownPc.stepsToJoin]⟩
      · exact ⟨h.stopTransmit, hstop, rfl, by simp [hpc, ShutdownPc.stepsToJoin]⟩
    obtain ⟨hstopTransmit, hstopReceive, hthread, hrank⟩ := hstores
    refine ⟨⟨h.main, hstopTransmit, hstopReceive⟩, ?_⟩
    simp only [stopRank, stepsToReturn, hmain, hthread]
    omega
  · refine ⟨⟨by simp, h.stopTransmit, h.stopReceive⟩, ?_⟩
    simp only [stopRank, stepsToReturn, hmain]
    omega
  · refine ⟨⟨by simp, h.stopTransmit, h.stopReceive⟩, ?_⟩
    simp only [stopRank, stepsToReturn, hmain]
    omega
  · refine ⟨⟨by simp, h.stopTransmit, h.stopReceive⟩, ?_⟩
    simp only [stopRank, stepsToReturn, hmain]
    omega

/-- **Every step counts**: both flags stay, and each step of a thread decreases the rank. -/
theorem Stopping.pays (h : s.Stopping) (hinv : s.Inv hash) {a : SystemAction}
    (ht : a.step hash s = some t) : t.Stopping ∧ t.stopRank + a.work ≤ s.stopRank := by
  cases a with
  | send f =>
    obtain rfl : { s with receive := s.receive.send f } = t := Option.some.inj ht
    exact ⟨⟨h.main, h.stopTransmit, h.stopReceive⟩, le_rfl⟩
  | recv n =>
    obtain ⟨r, hr, rfl⟩ := Option.map_eq_some_iff.mp ht
    exact h.receiveStep (.inr (.inr ⟨n, hr⟩))
  | recvFails =>
    obtain ⟨r, hr, rfl⟩ := Option.map_eq_some_iff.mp ht
    exact h.receiveStep (.inl hr)
  | receiveThread =>
    obtain ⟨r, hr, rfl⟩ := Option.map_eq_some_iff.mp ht
    exact h.receiveStep (.inr (.inl hr))
  | transmitThread =>
    obtain ⟨u, hu, rfl⟩ := Option.map_eq_some_iff.mp ht
    exact h.transmitThread hu
  -- no callback runs any more, and `XPluginStop` is called once
  | callback env => exact absurd (callback_cases ht).1 h.main
  | stop => exact absurd (stop_cases ht).1 h.main
  | shutdown => exact h.shutdown hinv ht

end SystemState

/-! ## No deadlock -/

/-- The transmit thread hands a message to `send`, which blocks as long as the panel does not read
and the buffers on the way are full. -/
def TransmitState.Sending (s : TransmitState) : Prop :=
  s.thread = .locked ∧ s.messageQueueTx ≠ []

/-- Who has a part in the return of `Shutdown`. -/
inductive Party where
  | shutdown
  | transmitThread
  | receiveThread

/-- The steps of a party. -/
def Party.Acts : Party → SystemAction → Prop
  | .shutdown, .shutdown => True
  | .transmitThread, .transmitThread => True
  | .receiveThread, .recv _ | .receiveThread, .recvFails | .receiveThread, .receiveThread => True
  | _, _ => False

theorem acts_shutdown : Party.shutdown.Acts = (· = .shutdown) := by
  funext a
  cases a <;> simp [Party.Acts]

theorem acts_transmitThread : Party.transmitThread.Acts = (· = .transmitThread) := by
  funext a
  cases a <;> simp [Party.Acts]

namespace SystemState

variable {hash : Bytes → UInt64} {s t : SystemState}

/-- The party that has to take the next step towards the return of `Shutdown`. -/
def waitsFor (s : SystemState) : Party :=
  match s.main with
  | .shutdown =>
    match s.transmit.shutdown, s.transmit.thread with
    -- `_transmitThread.join()`
    | .join, .exited => .shutdown
    | .join, _ => .transmitThread
    | _, _ => .shutdown
  | .join =>
    match s.receive.thread with
    -- `_receiveThread.join()`
    | .exited => .shutdown
    | _ => .receiveThread
  | _ => .shutdown

theorem main_of_waitsFor_receiveThread (h : s.waitsFor = .receiveThread) : s.main = .join := by
  unfold waitsFor at h
  split at h
  · split at h <;> cases h
  · assumption
  · cases h

/-- The step waits for neither the panel nor the network: it is no `send`, and `recv` returns by
itself only after the socket has been shut down. -/
def Unblocked (s : SystemState) : SystemAction → Prop
  | .transmitThread => ¬ s.transmit.Sending
  | .receiveThread | .shutdown => True
  | .recvFails => s.main = .join
  | _ => False

/-- **No deadlock**: until `Shutdown` has returned, the party that it waits for can take its next
step, and this step waits for nobody unless it is a `send` before the socket is shut down. -/
theorem Inv.ready (hinv : s.Inv hash) (h : s.Stopping) (hmain : s.main ≠ .returned) :
    ∃ a, s.waitsFor.Acts a ∧ (a.step hash s).isSome ∧
      (s.Unblocked a ∨ s.transmit.Sending ∧ s.main = .shutdown) := by
  cases hpc : s.main with
  | running => exact absurd hpc h.main
  | returned => exact absurd hpc hmain
  | socket =>
    refine ⟨.shutdown, by simp [waitsFor, hpc, Party.Acts], ?_, .inl trivial⟩
    simp [SystemAction.step, SystemState.shutdown, hpc]
  | shutdown =>
    cases hjoin : s.transmit.shutdown with
    | join =>
      have hstep : s.transmit.shutdownStep = none := by
        simp [TransmitState.shutdownStep, hjoin]
      by_cases hthread : s.transmit.thread = .exited
      · refine ⟨.shutdown, by simp [waitsFor, hpc, hjoin, hthread, Party.Acts], ?_, .inl trivial⟩
        simp [SystemAction.step, SystemState.shutdown, hpc, hstep, hthread]
      · -- the semaphore has been released: the transmit thread comes to its end
        obtain ⟨u, hu, -⟩ := transmitThread_exits hinv.transmit hjoin hthread
        refine ⟨.transmitThread, by simp [waitsFor, hpc, hjoin, Party.Acts], ?_, ?_⟩
        · simp [SystemAction.step, hu]
        · by_cases hsending : s.transmit.Sending
          · exact .inr ⟨hsending, rfl⟩
          · exact .inl hsending
    | _ =>
      refine ⟨.shutdown, by simp [waitsFor, hpc, hjoin, Party.Acts], ?_, .inl trivial⟩
      simp [SystemAction.step, SystemState.shutdown, TransmitState.shutdownStep, hpc, hjoin]
  | join =>
    cases hthread : s.receive.thread with
    | test =>
      refine ⟨.receiveThread, by simp [waitsFor, hpc, hthread, Party.Acts], ?_, .inl trivial⟩
      simp [SystemAction.step, ReceiveState.receiveThread, hthread]
    | recv =>
      -- the socket has been shut down, so that `recv` returns by itself
      refine ⟨.recvFails, by simp [waitsFor, hpc, hthread, Party.Acts], ?_, .inl hpc⟩
      simp [SystemAction.step, ReceiveState.recvFails, hthread]
    | push m =>
      refine ⟨.receiveThread, by simp [waitsFor, hpc, hthread, Party.Acts], ?_, .inl trivial⟩
      simp [SystemAction.step, ReceiveState.receiveThread, hthread]
    | exited =>
      refine ⟨.shutdown, by simp [waitsFor, hpc, hthread, Party.Acts], ?_, .inl trivial⟩
      simp [SystemAction.step, SystemState.shutdown, hpc, hthread]

/-- The second flag is stored right before the release. -/
theorem stepsToJoin_le_one {u : TransmitState} (h : transmitSystem.Reachable u) :
    u.stopReceive = true → u.shutdown.stepsToJoin ≤ 1 := by
  apply h.invariant
  · rintro s rfl hstop
    cases hstop
  · rintro s t hs ⟨a, ha⟩
    cases a with
    | pushMessage f =>
      obtain rfl : s.pushMessage f = t := Option.some.inj ha
      rcases s.pushMessage_cases f with heq | ⟨m, heq⟩ <;> rwa [heq]
    | transmitThread =>
      rcases TransmitState.transmitThread_cases ha with ⟨-, -, rfl⟩ | ⟨-, -, rfl⟩ |
        ⟨n, -, -, rfl⟩ | ⟨msg, rest, -, -, rfl⟩ | ⟨-, -, rfl⟩ <;> exact hs
    | shutdown =>
      rcases TransmitState.shutdownStep_cases ha with ⟨hpc, rfl⟩ | ⟨-, rfl⟩ | ⟨-, rfl⟩
      · intro hstop
        -- at the first store the second flag is not set yet
        have hle := hs hstop
        rw [hpc] at hle
        exact absurd hle (by decide)
      · exact fun _ => le_rfl
      · exact fun _ => Nat.zero_le 1

/-- Between the stores and the return there are at most ten steps. -/
theorem Inv.stopRank_le (hinv : s.Inv hash) (h : s.Stopping) : s.stopRank ≤ 10 := by
  -- four steps are left to `Shutdown`, and three to each thread
  have hjoin := stepsToJoin_le_one hinv.transmit (hinv.stopReceive.symm.trans h.stopReceive)
  have hreturn : s.stepsToReturn ≤ 4 := by
    unfold stepsToReturn
    split <;> omega
  have htransmit : s.transmit.thread.stepsToExit ≤ 3 := by
    cases s.transmit.thread <;> decide
  have hreceive : s.receive.thread.stepsToExit ≤ 3 := by
    cases s.receive.thread <;> simp [ReceivePc.stepsToExit]
  simp only [stopRank]
  omega

end SystemState

/-! ## Termination -/

/-- Seen from the transmit thread, a step of the system is one of its own system, or nothing. -/
theorem SystemAction.transmit_step {hash : Bytes → UInt64} {s t : SystemState}
    {a : SystemAction} (h : a.step hash s = some t) :
    t.transmit = s.transmit ∨ ∃ b : TransmitAction, b.step s.transmit = some t.transmit := by
  cases a with
  | send f =>
    obtain rfl : { s with receive := s.receive.send f } = t := Option.some.inj h
    exact .inl rfl
  | recv n =>
    obtain ⟨r, -, rfl⟩ := Option.map_eq_some_iff.mp h
    exact .inl rfl
  | recvFails =>
    obtain ⟨r, -, rfl⟩ := Option.map_eq_some_iff.mp h
    exact .inl rfl
  | receiveThread =>
    obtain ⟨r, -, rfl⟩ := Option.map_eq_some_iff.mp h
    exact .inl rfl
  | transmitThread =>
    obtain ⟨u, hu, rfl⟩ := Option.map_eq_some_iff.mp h
    exact .inr ⟨.transmitThread, hu⟩
  | callback env =>
    obtain ⟨-, ⟨f, rest, -, rfl⟩ | ⟨-, rfl⟩⟩ := SystemState.callback_cases h
    · -- a callback that pushes is the other party of the queue
      exact .inr ⟨.pushMessage f, rfl⟩
    · exact .inl rfl
  | stop =>
    obtain ⟨-, -, -, rfl⟩ := SystemState.stop_cases h
    exact .inl rfl
  | shutdown =>
    rcases SystemState.shutdown_cases h with ⟨u, -, hu, rfl⟩ | ⟨-, -, -, rfl⟩ | ⟨-, rfl⟩ |
      ⟨-, -, rfl⟩
    · -- the joins and `shutdown(_socket)` do not concern the thread
      exact .inr ⟨.shutdown, hu⟩
    all_goals exact .inl rfl

/-- After the store of `Shutdown` one message more is sent at most. -/
theorem SystemState.sent_le_of_stopping {hash : Bytes → UInt64} {s t : SystemState}
    (hs : s.Stopping) {as : List SystemAction}
    (hrun : follow (SystemAction.step hash) as s = some t) :
    t.transmit.sent.length ≤ s.transmit.sent.length + 1 := by
  have hsent := follow_invariant (I := fun u : SystemState => u.transmit.stopTransmit = true ∧
      u.transmit.sent.length + u.transmit.inFlight ≤
        s.transmit.sent.length + s.transmit.inFlight)
    (by
      rintro a u v ⟨hstop, hle⟩ hv
      rcases a.transmit_step hv with heq | ⟨b, hb⟩
      · rw [heq]
        exact ⟨hstop, hle⟩
      · obtain ⟨hstop', last, hlast, hlen⟩ := TransmitAction.stopped_step hstop hb
        refine ⟨hstop', ?_⟩
        rw [hlast, List.length_append]
        omega)
    hrun ⟨hs.stopTransmit, le_rfl⟩
  -- a thread that has passed its test sends one message at most
  have hone : s.transmit.inFlight ≤ 1 := by
    unfold TransmitState.inFlight
    split <;> omega
  omega

/-- **Shutdown comes to its end, or to a `send`**: once both flags are stored, whatever the
schedule, the threads take at most ten steps more, of which at most one is a `send`. Until
`Shutdown` has returned, some thread can take a step that waits for neither the panel nor the
network, unless the transmit thread is in `send` and the socket has not been shut down. -/
theorem shutdown_returns {hash : Bytes → UInt64} {s t : SystemState}
    (h : (pluginSystem hash).Reachable s) (hs : s.Stopping) {as : List SystemAction}
    (hrun : follow (SystemAction.step hash) as s = some t) :
    (as.map SystemAction.work).sum ≤ 10 ∧
      t.transmit.sent.length ≤ s.transmit.sent.length + 1 ∧
      (t.main = .returned ∨ (∃ a, t.Unblocked a ∧ (a.step hash t).isSome) ∨
        (t.transmit.Sending ∧ t.main = .shutdown)) := by
  have hinv := pluginSystem_inv h
  obtain ⟨⟨hinvt, hst⟩, hsum⟩ : (t.Inv hash ∧ t.Stopping) ∧
      t.stopRank + (as.map SystemAction.work).sum + 0 ≤ s.stopRank + 0 :=
    follow_potential (fun s => s.Inv hash ∧ s.Stopping) (fun _ => 0)
      (fun a u v hu hv => ⟨⟨a.inv_step hu.1 hv, (hu.2.pays hu.1 hv).1⟩, (hu.2.pays hu.1 hv).2⟩)
      hrun ⟨hinv, hs⟩
  refine ⟨?_, SystemState.sent_le_of_stopping hs hrun, ?_⟩
  · have hrank := hinv.stopRank_le hs
    omega
  · by_cases hreturned : t.main = .returned
    · exact .inl hreturned
    · obtain ⟨a, -, henabled, hunblocked | hsending⟩ := hinvt.ready hst hreturned
      · exact .inr (.inl ⟨a, hunblocked, henabled⟩)
      · exact .inr (.inr hsending)

/-- `XPluginStop` before the first call of the flight loop, up to the release. -/
theorem shutdown_returns_released : ∃ s t : SystemState,
    (pluginSystem fnv1a).Reachable s ∧ s.Stopping ∧ s.shutdown = some t ∧
      t.transmit.sent.length ≤ s.transmit.sent.length + 1 ∧
      (t.main = .returned ∨ (∃ a, t.Unblocked a ∧ (a.step fnv1a t).isSome) ∨
        (t.transmit.Sending ∧ t.main = .shutdown)) := by
  have hstart : (pluginSystem fnv1a).Reachable .initial := .start rfl
  obtain ⟨as, u, -, -, hrun, hreceive, hmain, hpending, -⟩ :=
    (pluginSystem_inv hstart).exists_delivered rfl .zero
  have hreach := reachable_of_steps hstart hrun
  have hrunning := (pluginSystem_inv hreach).running hmain
  have hloop : u.receive.flightLoop = .idle := by rw [hreceive]; rfl
  have hstop : SystemAction.stop.step fnv1a u = some { u with main := .shutdown } := by
    simp [SystemAction.step, SystemState.stop, hmain, hpending, hloop]
  -- the stores of the two flags
  let s : SystemState := { u with
    main := .shutdown
    transmit := { u.transmit with
      stopTransmit := true, stopReceive := true, shutdown := .release }
    receive := { u.receive with stopReceive := true } }
  have hstores : follow (SystemAction.step fnv1a) [.shutdown, .shutdown]
      { u with main := .shutdown } = some s := by
    simp [s, follow, SystemAction.step, SystemState.shutdown, TransmitState.shutdownStep, hrunning]
  have hs : s.Stopping := ⟨by simp [s], rfl, rfl⟩
  obtain ⟨t, ht⟩ : ∃ t, SystemAction.shutdown.step fnv1a s = some t := ⟨_, rfl⟩
  have hrun' : follow (SystemAction.step fnv1a) [.shutdown] s = some t :=
    follow_cons_eq_some.mpr ⟨t, ht, follow_nil _ t⟩
  have hreach' := reachable_of_steps (hreach.step ⟨.stop, hstop⟩) hstores
  exact ⟨s, t, hreach', hs, ht, (shutdown_returns hreach' hs hrun').2⟩

/-- The exception is real: `XPluginStop` finds the transmit thread past its test, with the frames
of `Init` still queued, and then nobody can take a step without the panel or the network. -/
theorem shutdown_waits_for_send : ∃ s : SystemState, (pluginSystem fnv1a).Reachable s ∧
    s.Stopping ∧ s.transmit.Sending ∧ ∀ a, s.Unblocked a → a.step fnv1a s = none := by
  have hstart : (pluginSystem fnv1a).Reachable .initial := .start rfl
  obtain ⟨s, hs, hmain, htransmit, hreceive, hrecv, hjoin, hthread, hqueue⟩ :
      ∃ s, follow (SystemAction.step fnv1a)
        ([.transmitThread, .receiveThread] ++ List.replicate 11 (.callback .zero) ++
          [.transmitThread, .stop, .shutdown, .shutdown, .shutdown]) .initial = some s ∧
      s.main = .shutdown ∧ s.transmit.stopTransmit = true ∧ s.receive.stopReceive = true ∧
      s.receive.thread = .recv ∧ s.transmit.shutdown = .join ∧ s.transmit.thread = .locked ∧
      s.transmit.messageQueueTx.isEmpty = false := ⟨_, rfl, rfl, rfl, rfl, rfl, rfl, rfl, rfl⟩
  have hsending : s.transmit.Sending := ⟨hthread, by simpa using hqueue⟩
  refine ⟨s, reachable_of_steps hstart hs, ⟨by simp [hmain], htransmit, hreceive⟩, hsending, ?_⟩
  intro a ha
  cases a with
  | transmitThread => exact absurd hsending ha
  | receiveThread => simp [SystemAction.step, ReceiveState.receiveThread, hrecv]
  | recvFails =>
    rw [SystemState.Unblocked, hmain] at ha
    cases ha
  | shutdown =>
    simp [SystemAction.step, SystemState.shutdown, TransmitState.shutdownStep, hmain, hjoin,
      hthread]
  | _ => exact absurd ha id

end SkalarkiFcu
