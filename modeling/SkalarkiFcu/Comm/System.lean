import SkalarkiFcu.Comm.FlightLoop
import SkalarkiFcu.Comm.Delivery
import SkalarkiFcu.Comm.Semaphore

/-!
# The plugin as a whole

One system of all parties: the panel, `ReceiveThread`, the callbacks on the main thread with
their pushes, `TransmitThread`, and the `Shutdown` that `XPluginStop` calls. The receive path
and the transmit queue are its two parts, so that every reachable state of the system has
reachable parts. Whatever the interleaving, what the plugin sends are the frames of a
sequential run over the chunks that it has received, in order.

The connection has been made here, and `shutdown(_socket)` succeeds. A callback computes all
its frames at once and pushes them one by one: it reads nothing that another thread writes in
between. The locked section of `TransmitThread` is one step with its `send`, so that a `send`
that does not return is a step that is not taken. The semaphore counts without a bound: that the
bound of the source holds is a matter of its own (`semaphoreBounded_iff`).

## Architecture

- **State and steps**: `SystemState`, `SystemAction.step`
- **Inversion**: `callback_cases`, `stop_cases`, `shutdown_cases`
- **Invariant**: `SystemState.Inv`, preserved by `SystemAction.inv_step`
- **Delivery**: `SystemState.Inv.exists_delivered`
- **Refinement**: `system_refines_session`
-/

namespace SkalarkiFcu

open LittleEndian Reactive TransitionSystem

/-! ## State -/

/-- Where the main thread of the simulator is. -/
inductive MainPc where
  /-- In the callbacks, up to `XPluginStop`. -/
  | running
  /-- In `Shutdown`, up to the join of the transmit thread. -/
  | shutdown
  /-- Before `shutdown(_socket, SD_BOTH)`. -/
  | socket
  /-- Before the join of the receive thread. -/
  | join
  /-- `Shutdown` has returned. -/
  | returned
  deriving DecidableEq, Repr

/-- The whole plugin, connected to the panel. -/
structure SystemState where
  receive : ReceiveState
  transmit : TransmitState
  /-- The frames that the running callback has still to push, in order. -/
  pending : List Frame
  main : MainPc

/-- The connection has been made, the threads have started, and `Init` has all its frames to
push. -/
def SystemState.initial : SystemState where
  receive := .initial
  transmit := .initial
  pending := pushes ReceiveState.initial.config.2
  main := .running

/-! ## Steps -/

namespace SystemState

/-- The main thread in a callback, under the readings `env`: the next `PushMessage`, or else the
next step of the flight loop. -/
def callback (hash : Bytes → UInt64) (env : Datarefs) (s : SystemState) : Option SystemState :=
  match s.main, s.pending with
  | .running, f :: rest =>
    some { s with transmit := s.transmit.pushMessage f, pending := rest }
  | .running, [] =>
    let receive := s.receive.flightLoopStep hash env
    -- what the step has added to the frames of the run
    let pending := (pushes receive.config.2).drop (pushes s.receive.config.2).length
    some { s with receive := receive, pending := pending }
  | _, _ => none

/-- `XPluginStop`, which the simulator calls between two callbacks. -/
def stop (s : SystemState) : Option SystemState :=
  match s.main, s.pending, s.receive.flightLoop with
  | .running, [], .idle => some { s with main := .shutdown }
  | _, _, _ => none

/-- The next step of `Shutdown`; `none` while a join waits for its thread. -/
def shutdown (s : SystemState) : Option SystemState :=
  match s.main with
  | .shutdown =>
    match s.transmit.shutdownStep with
    -- both threads see the flag that stops the reception
    | some t => some { s with
        transmit := t
        receive := { s.receive with stopReceive := t.stopReceive } }
    | none =>
      -- `_transmitThread.join()`
      match s.transmit.thread with
      | .exited => some { s with main := .socket }
      | _ => none
  -- `shutdown(_socket, SD_BOTH)`
  | .socket => some { s with main := .join }
  | .join =>
    -- `_receiveThread.join()`
    match s.receive.thread with
    | .exited => some { s with main := .returned }
    | _ => none
  | _ => none

end SystemState

/-- Who takes the next step. -/
inductive SystemAction where
  | send (f : DeviceFrame)
  | recv (n : ℕ)
  | recvFails
  | receiveThread
  | transmitThread
  | callback (env : Datarefs)
  | stop
  | shutdown

def SystemAction.step (hash : Bytes → UInt64) : SystemAction → SystemState → Option SystemState
  | .send f, s => some { s with receive := s.receive.send f }
  | .recv n, s => (s.receive.recv n).map fun r => { s with receive := r }
  | .recvFails, s => s.receive.recvFails.map fun r => { s with receive := r }
  | .receiveThread, s => s.receive.receiveThread.map fun r => { s with receive := r }
  | .transmitThread, s => s.transmit.transmitThread.map fun t => { s with transmit := t }
  | .callback env, s => s.callback hash env
  | .stop, s => s.stop
  | .shutdown, s => s.shutdown

/-- Every interleaving of all parties. -/
def pluginSystem (hash : Bytes → UInt64) : TransitionSystem SystemState where
  init s := s = .initial
  next s t := ∃ a : SystemAction, a.step hash s = some t

/-! ## What a step can do -/

namespace SystemState

variable {hash : Bytes → UInt64} {s t : SystemState}

theorem callback_of_pending_nil (hash : Bytes → UInt64) (env : Datarefs)
    (hmain : s.main = .running) (hpending : s.pending = []) :
    s.callback hash env = some { s with
      receive := s.receive.flightLoopStep hash env
      pending := (pushes (s.receive.flightLoopStep hash env).config.2).drop
        (pushes s.receive.config.2).length } := by
  simp [callback, hmain, hpending]

theorem callback_cases {env : Datarefs} (h : s.callback hash env = some t) :
    s.main = .running ∧
    ((∃ f rest, s.pending = f :: rest ∧
      t = { s with transmit := s.transmit.pushMessage f, pending := rest }) ∨
    (s.pending = [] ∧ t = { s with
      receive := s.receive.flightLoopStep hash env
      pending := (pushes (s.receive.flightLoopStep hash env).config.2).drop
        (pushes s.receive.config.2).length })) := by
  cases hmain : s.main with
  | running =>
    cases hpending : s.pending with
    | nil => exact ⟨rfl, .inr ⟨rfl, by simpa [callback, hmain, hpending] using h.symm⟩⟩
    | cons f rest =>
      exact ⟨rfl, .inl ⟨f, rest, rfl, by simpa [callback, hmain, hpending] using h.symm⟩⟩
  | _ => simp [callback, hmain] at h

theorem stop_cases (h : s.stop = some t) : s.main = .running ∧ s.pending = [] ∧
    s.receive.flightLoop = .idle ∧ t = { s with main := .shutdown } := by
  cases hmain : s.main with
  | running =>
    cases hpending : s.pending with
    | nil =>
      cases hloop : s.receive.flightLoop with
      | idle => exact ⟨rfl, rfl, rfl, by simpa [stop, hmain, hpending, hloop] using h.symm⟩
      | _ => simp [stop, hmain, hpending, hloop] at h
    | cons f rest => simp [stop, hmain, hpending] at h
  | _ => simp [stop, hmain] at h

theorem shutdown_cases (h : s.shutdown = some t) :
    (∃ u, s.main = .shutdown ∧ s.transmit.shutdownStep = some u ∧ t = { s with
      transmit := u
      receive := { s.receive with stopReceive := u.stopReceive } }) ∨
    (s.main = .shutdown ∧ s.transmit.shutdown = .join ∧ s.transmit.thread = .exited ∧
      t = { s with main := .socket }) ∨
    (s.main = .socket ∧ t = { s with main := .join }) ∨
    (s.main = .join ∧ s.receive.thread = .exited ∧ t = { s with main := .returned }) := by
  cases hmain : s.main with
  | running => simp [shutdown, hmain] at h
  | shutdown =>
    cases hstep : s.transmit.shutdownStep with
    | some u => exact .inl ⟨u, rfl, rfl, by simpa [shutdown, hmain, hstep] using h.symm⟩
    | none =>
      -- no step of its own is left, so that `Shutdown` stands at the join
      have hjoin : s.transmit.shutdown = .join := by
        cases hpc : s.transmit.shutdown <;> simp [TransmitState.shutdownStep, hpc] at hstep ⊢
      cases hthread : s.transmit.thread with
      | exited =>
        refine .inr (.inl ⟨rfl, hjoin, rfl, ?_⟩)
        simpa [shutdown, hmain, hstep, hthread] using h.symm
      | _ => simp [shutdown, hmain, hstep, hthread] at h
  | socket => exact .inr (.inr (.inl ⟨rfl, by simpa [shutdown, hmain] using h.symm⟩))
  | join =>
    cases hthread : s.receive.thread with
    | exited =>
      exact .inr (.inr (.inr ⟨rfl, rfl, by simpa [shutdown, hmain, hthread] using h.symm⟩))
    | _ => simp [shutdown, hmain, hthread] at h
  | returned => simp [shutdown, hmain] at h

end SystemState

/-! ## The invariant -/

/-- `Shutdown` has joined the transmit thread. -/
def MainPc.joined : MainPc → Bool
  | .running | .shutdown => false
  | .socket | .join | .returned => true

/-- Both parts are reachable, and what they have to do with each other. -/
structure SystemState.Inv (hash : Bytes → UInt64) (s : SystemState) : Prop where
  receive : (receiveSystem hash).Reachable s.receive
  transmit : transmitSystem.Reachable s.transmit
  stopReceive : s.receive.stopReceive = s.transmit.stopReceive
  /-- The accepted messages and the pending frames are the frames of the run. -/
  pushed : s.transmit.accepted.map SkalarkiMessage.msg ++ s.pending.map Frame.message =
    (pushes s.receive.config.2).map Frame.message
  accepted : ∀ f ∈ s.pending, f.Accepted
  /-- `XPluginStop` runs between two callbacks. -/
  between : s.main ≠ .running → s.pending = [] ∧ s.receive.flightLoop = .idle
  running : s.main = .running → s.transmit.shutdown = .stopTransmit
  joined : s.main.joined = true → s.transmit.shutdown = .join ∧ s.transmit.thread = .exited
  returned : s.main = .returned → s.receive.thread = .exited

theorem accepted_pushes_initDatarefs (env : Datarefs) (s : Globals) :
    ∀ f ∈ pushes (initDatarefs env s).2, f.Accepted := by
  rw [initDatarefs_snd]
  simp only [InitDatarefs.spd, pushMessage_dot_on, pushMessage_dot_off]
  split_ifs <;> simp [pushes, Effect.frame?]

/-- A step of the flight loop adds accepted frames to those of the run. -/
theorem ReceiveState.Inv.pushes_flightLoopStep {hash : Bytes → UInt64} {s : ReceiveState}
    (h : s.Inv hash) (env : Datarefs) :
    ∃ fs, pushes (s.flightLoopStep hash env).config.2 = pushes s.config.2 ++ fs ∧
      ∀ f ∈ fs, f.Accepted := by
  rcases flightLoopStep_cases hash env s h.queue_pos with ⟨-, -, heq⟩ | ⟨-, -, heq⟩ |
    ⟨m, rest, -, -, heq⟩ | ⟨-, -, heq⟩ | ⟨m, -, heq⟩ | ⟨-, heq⟩
  · exact ⟨_, by rw [heq, exec_snd, pushes_append], accepted_pushes_initDatarefs env s.config.1⟩
  · exact ⟨[], by simp [heq], by simp⟩
  · exact ⟨[], by simp [heq], by simp⟩
  · exact ⟨[], by simp [heq], by simp⟩
  · -- a handler pushes nothing
    refine ⟨[], ?_, by simp⟩
    rw [heq, exec_snd, pushes_append, pushes_processPacket]
  · exact ⟨_, by rw [heq, exec_snd, pushes_append], accepted_pushes_update env s.config.1⟩

theorem ReceiveState.Inv.flightLoopStep_stopReceive {hash : Bytes → UInt64} {s : ReceiveState}
    (h : s.Inv hash) (env : Datarefs) :
    (s.flightLoopStep hash env).stopReceive = s.stopReceive := by
  rcases flightLoopStep_cases hash env s h.queue_pos with ⟨-, -, heq⟩ | ⟨-, -, heq⟩ |
    ⟨m, rest, -, -, heq⟩ | ⟨-, -, heq⟩ | ⟨m, -, heq⟩ | ⟨-, heq⟩ <;>
    rw [heq]

namespace SystemState

variable {hash : Bytes → UInt64} {s t : SystemState}

theorem inv_initial : Inv hash .initial where
  receive := .start rfl
  transmit := .start rfl
  stopReceive := rfl
  pushed := rfl
  accepted := by
    -- the frames of `Init` are the first ones of every start
    have hstarted := accepted_pushes_started .zero
    rw [started, exec_snd, pushes_append, List.forall_mem_append] at hstarted
    exact hstarted.1
  between := fun h => absurd rfl h
  running := fun _ => rfl
  joined := fun h => nomatch h
  returned := fun h => nomatch h

/-- A step of the receive path that leaves the flight loop, the run and the flag alone; a thread
that has ended stays so. -/
theorem Inv.receiveStep (h : s.Inv hash) {a : ReceiveAction} {r : ReceiveState}
    (ha : a.step hash s.receive = some r) (hstop : r.stopReceive = s.receive.stopReceive)
    (hconfig : r.config = s.receive.config) (hloop : r.flightLoop = s.receive.flightLoop)
    (hexited : s.receive.thread = .exited → r.thread = .exited) :
    ({ s with receive := r } : SystemState).Inv hash where
  receive := h.receive.step ⟨a, ha⟩
  transmit := h.transmit
  stopReceive := hstop.trans h.stopReceive
  pushed := by rw [hconfig]; exact h.pushed
  accepted := h.accepted
  between := fun hmain => ⟨(h.between hmain).1, hloop.trans (h.between hmain).2⟩
  running := h.running
  joined := h.joined
  returned := fun hmain => hexited (h.returned hmain)

theorem Inv.recv (h : s.Inv hash) {n : ℕ} {r : ReceiveState} (hr : s.receive.recv n = some r) :
    ({ s with receive := r } : SystemState).Inv hash := by
  obtain ⟨m, rest, hpc, -, -, rfl⟩ := ReceiveState.recv_cases hr
  apply h.receiveStep (a := .recv n) hr rfl rfl rfl
  rw [hpc]
  exact fun hexited => nomatch hexited

theorem Inv.recvFails (h : s.Inv hash) {r : ReceiveState} (hr : s.receive.recvFails = some r) :
    ({ s with receive := r } : SystemState).Inv hash := by
  obtain ⟨hpc, rfl⟩ := ReceiveState.recvFails_cases hr
  apply h.receiveStep (a := .recvFails) hr rfl rfl rfl
  rw [hpc]
  exact fun hexited => nomatch hexited

theorem Inv.receiveThread (h : s.Inv hash) {r : ReceiveState}
    (hr : s.receive.receiveThread = some r) :
    ({ s with receive := r } : SystemState).Inv hash := by
  rcases ReceiveState.receiveThread_cases hr with ⟨hpc, pc, -, rfl⟩ | ⟨m, hpc, rfl⟩
  · apply h.receiveStep (a := .receiveThread) hr rfl rfl rfl
    rw [hpc]
    exact fun hexited => nomatch hexited
  · apply h.receiveStep (a := .receiveThread) hr rfl rfl rfl
    rw [hpc]
    exact fun hexited => nomatch hexited

theorem Inv.transmitThread (h : s.Inv hash) {u : TransmitState}
    (hu : s.transmit.transmitThread = some u) :
    ({ s with transmit := u } : SystemState).Inv hash := by
  -- the thread touches neither the flags nor what has been accepted
  have hkeeps : u.stopReceive = s.transmit.stopReceive ∧ u.accepted = s.transmit.accepted ∧
      u.shutdown = s.transmit.shutdown ∧ s.transmit.thread ≠ .exited := by
    rcases TransmitState.transmitThread_cases hu with ⟨hpc, -, rfl⟩ | ⟨hpc, -, rfl⟩ |
      ⟨n, hpc, -, rfl⟩ | ⟨msg, rest, hpc, -, rfl⟩ | ⟨hpc, -, rfl⟩ <;>
      exact ⟨rfl, rfl, rfl, by simp [hpc]⟩
  obtain ⟨hstop, haccepted, hshutdown, hthread⟩ := hkeeps
  refine ⟨h.receive, h.transmit.step ⟨.transmitThread, hu⟩, h.stopReceive.trans hstop.symm, ?_,
    h.accepted, h.between, fun hmain => hshutdown.trans (h.running hmain),
    fun hmain => absurd (h.joined hmain).2 hthread, h.returned⟩
  rw [haccepted]
  exact h.pushed

theorem Inv.callback (h : s.Inv hash) {env : Datarefs} (ht : s.callback hash env = some t) :
    t.Inv hash := by
  obtain ⟨hmain, ⟨f, rest, hpending, rfl⟩ | ⟨hpending, rfl⟩⟩ := callback_cases ht
  · -- one pending frame becomes an accepted message
    have hf : f.Accepted := h.accepted f (by simp [hpending])
    have heq := TransmitState.pushMessage_of_accepted hf s.transmit
    have hpushed := h.pushed
    refine ⟨h.receive, h.transmit.step ⟨.pushMessage f, rfl⟩, ?_, ?_, ?_, ?_, ?_, ?_, ?_⟩
    · rw [heq]
      exact h.stopReceive
    · rw [hpending] at hpushed
      rw [← hpushed, heq]
      simp [queued]
    · intro g hg
      exact h.accepted g (by simp [hpending, hg])
    · exact fun hne => absurd hmain hne
    · rw [heq]
      exact fun _ => h.running hmain
    · rw [hmain]
      rintro ⟨⟩
    · rw [hmain]
      rintro ⟨⟩
  · -- the frames that the step has added to the run become the pending ones
    obtain ⟨fs, hfs, haccepted⟩ := (receiveSystem_inv h.receive).pushes_flightLoopStep env
    have hpushed := h.pushed
    rw [hpending, List.map_nil, List.append_nil] at hpushed
    refine ⟨h.receive.step ⟨.flightLoop env, rfl⟩, h.transmit, ?_, ?_, ?_, ?_, h.running, ?_, ?_⟩
    · rw [(receiveSystem_inv h.receive).flightLoopStep_stopReceive env]
      exact h.stopReceive
    · rw [hfs, List.drop_left, List.map_append, hpushed]
    · rw [hfs, List.drop_left]
      exact haccepted
    · exact fun hne => absurd hmain hne
    · rw [hmain]
      rintro ⟨⟩
    · rw [hmain]
      rintro ⟨⟩

theorem Inv.stop (h : s.Inv hash) (ht : s.stop = some t) : t.Inv hash := by
  obtain ⟨hmain, hpending, hloop, rfl⟩ := stop_cases ht
  exact ⟨h.receive, h.transmit, h.stopReceive, h.pushed, h.accepted, fun _ => ⟨hpending, hloop⟩,
    (fun hne => nomatch hne), (fun hjoined => nomatch hjoined),
    (fun hreturned => nomatch hreturned)⟩

theorem Inv.shutdown (h : s.Inv hash) (ht : s.shutdown = some t) : t.Inv hash := by
  rcases shutdown_cases ht with ⟨u, hmain, hu, rfl⟩ | ⟨hmain, hpc, hthread, rfl⟩ |
    ⟨hmain, rfl⟩ | ⟨hmain, hthread, rfl⟩
  · have hne : s.main ≠ .running := by simp [hmain]
    -- the flag of the receive thread is the one that `Shutdown` stores, or it is as it was
    have hreceive : (receiveSystem hash).Reachable
        { s.receive with stopReceive := u.stopReceive } ∧ u.accepted = s.transmit.accepted := by
      rcases TransmitState.shutdownStep_cases hu with ⟨-, rfl⟩ | ⟨-, rfl⟩ | ⟨-, rfl⟩
      · exact ⟨by rw [← h.stopReceive]; exact h.receive, rfl⟩
      · exact ⟨h.receive.step ⟨.stopReceive, rfl⟩, rfl⟩
      · exact ⟨by rw [← h.stopReceive]; exact h.receive, rfl⟩
    refine ⟨hreceive.1, h.transmit.step ⟨.shutdown, hu⟩, rfl, ?_, h.accepted,
      fun _ => h.between hne, ?_, ?_, ?_⟩
    · rw [hreceive.2]
      exact h.pushed
    · rw [hmain]
      exact fun hrunning => nomatch hrunning
    · rw [hmain]
      exact fun hjoined => nomatch hjoined
    · rw [hmain]
      exact fun hreturned => nomatch hreturned
  · -- the join of the transmit thread returns
    have hne : s.main ≠ .running := by simp [hmain]
    exact ⟨h.receive, h.transmit, h.stopReceive, h.pushed, h.accepted, fun _ => h.between hne,
      (fun hrunning => nomatch hrunning), fun _ => ⟨hpc, hthread⟩,
      (fun hreturned => nomatch hreturned)⟩
  · -- the socket is shut down
    have hne : s.main ≠ .running := by simp [hmain]
    exact ⟨h.receive, h.transmit, h.stopReceive, h.pushed, h.accepted, fun _ => h.between hne,
      (fun hrunning => nomatch hrunning), fun _ => h.joined (by rw [hmain]; rfl),
      (fun hreturned => nomatch hreturned)⟩
  · -- the join of the receive thread returns
    have hne : s.main ≠ .running := by simp [hmain]
    exact ⟨h.receive, h.transmit, h.stopReceive, h.pushed, h.accepted, fun _ => h.between hne,
      (fun hrunning => nomatch hrunning), fun _ => h.joined (by rw [hmain]; rfl),
      fun _ => hthread⟩

end SystemState

/-- Every step keeps the invariant. -/
theorem SystemAction.inv_step {hash : Bytes → UInt64} {s t : SystemState} (h : s.Inv hash)
    {a : SystemAction} (ht : a.step hash s = some t) : t.Inv hash := by
  cases a with
  | send f =>
    obtain rfl : { s with receive := s.receive.send f } = t := Option.some.inj ht
    exact h.receiveStep (a := .send f) rfl rfl rfl rfl id
  | recv n =>
    obtain ⟨r, hr, rfl⟩ := Option.map_eq_some_iff.mp ht
    exact h.recv hr
  | recvFails =>
    obtain ⟨r, hr, rfl⟩ := Option.map_eq_some_iff.mp ht
    exact h.recvFails hr
  | receiveThread =>
    obtain ⟨r, hr, rfl⟩ := Option.map_eq_some_iff.mp ht
    exact h.receiveThread hr
  | transmitThread =>
    obtain ⟨u, hu, rfl⟩ := Option.map_eq_some_iff.mp ht
    exact h.transmitThread hu
  | callback env => exact h.callback ht
  | stop => exact h.stop ht
  | shutdown => exact h.shutdown ht

theorem pluginSystem_inv {hash : Bytes → UInt64} {s : SystemState}
    (h : (pluginSystem hash).Reachable s) : s.Inv hash := by
  apply h.invariant
  · rintro s rfl
    exact SystemState.inv_initial
  · rintro s t hs ⟨a, ha⟩
    exact a.inv_step hs ha

/-! ## Delivery -/

/-- Every frame of the run has been handed to `send`. -/
structure SystemState.Delivered (s : SystemState) : Prop where
  pending : s.pending = []
  queue : s.transmit.messageQueueTx = []

theorem reachable_of_steps {hash : Bytes → UInt64} {s t : SystemState}
    (h : (pluginSystem hash).Reachable s) {as : List SystemAction}
    (hrun : follow (SystemAction.step hash) as s = some t) : (pluginSystem hash).Reachable t :=
  Reachable.of_follow (S := pluginSystem hash) (fun a _ _ ha => ⟨a, ha⟩) h hrun

namespace SystemState

variable {hash : Bytes → UInt64} {s : SystemState}

/-- How many steps the main and the transmit thread need to send what is pending. -/
def deliveryRank (s : SystemState) : ℕ := 4 * s.pending.length + s.transmit.potential

/-- While the callbacks run, the main thread can push what is pending, and the transmit thread
can send what is queued. -/
theorem Inv.delivery_step (h : s.Inv hash) (hmain : s.main = .running)
    (hrest : ¬ (s.pending = [] ∧ s.transmit.Idle)) (env : Datarefs) :
    ∃ (a : SystemAction) (t : SystemState), (a = .callback env ∨ a = .transmitThread) ∧
      a.step hash s = some t ∧
      t.receive = s.receive ∧ t.main = .running ∧ t.deliveryRank < s.deliveryRank := by
  have hup := TransmitState.stopTransmit_of_running h.transmit (h.running hmain)
  cases hpending : s.pending with
  | cons f rest =>
    -- the push is worth four steps of the rank, of which the thread takes three
    have hf : f.Accepted := h.accepted f (by simp [hpending])
    refine ⟨.callback env, { s with transmit := s.transmit.pushMessage f, pending := rest },
      .inl rfl, by simp [SystemAction.step, SystemState.callback, hmain, hpending], rfl, hmain, ?_⟩
    simp only [deliveryRank, TransmitState.potential,
      TransmitState.pushMessage_of_accepted hf s.transmit, hpending, List.length_cons]
    omega
  | nil =>
    -- nothing is pending, so that the thread is not idle
    obtain ⟨u, hu, -, -, hlt⟩ := TransmitState.transmitThread_ready h.transmit hup
      fun hidle => hrest ⟨hpending, hidle⟩
    refine ⟨.transmitThread, { s with transmit := u }, .inr rfl,
      by simp [SystemAction.step, hu], rfl, hmain, ?_⟩
    simp only [deliveryRank]
    omega

/-- **Delivery**: while the callbacks run, the steps of the main and the transmit thread alone
send every frame of the run: at most four for each pending frame, three for each queued message,
and one more. -/
theorem Inv.exists_delivered (h : s.Inv hash) (hmain : s.main = .running) (env : Datarefs) :
    ∃ as u, (∀ a ∈ as, a = SystemAction.callback env ∨ a = .transmitThread) ∧
      as.length ≤ 4 * s.pending.length + 3 * s.transmit.messageQueueTx.length + 1 ∧
      follow (SystemAction.step hash) as s = some u ∧ u.receive = s.receive ∧
      u.main = .running ∧ u.Delivered := by
  obtain ⟨as, u, has, hlen, hrun, ⟨hinv, hreceive, hmain'⟩, hpending, hidle⟩ :=
    exists_schedule (SystemAction.step hash)
      (fun u => u.Inv hash ∧ u.receive = s.receive ∧ u.main = .running)
      (fun u => u.pending = [] ∧ u.transmit.Idle) deliveryRank
      (fun a => a = SystemAction.callback env ∨ a = .transmitThread)
      (by
        rintro u ⟨hu, hreceive, hmain⟩ hrest
        obtain ⟨a, t, ha, ht, hreceive', hmain', hlt⟩ := hu.delivery_step hmain hrest env
        exact ⟨a, t, ha, ht, ⟨a.inv_step hu ht, hreceive'.trans hreceive, hmain'⟩, hlt⟩)
      ⟨h, rfl, hmain⟩
  have hup := TransmitState.stopTransmit_of_running h.transmit (h.running hmain)
  have hup' := TransmitState.stopTransmit_of_running hinv.transmit (hinv.running hmain')
  have hrank := (transmitSystem_inv h.transmit).potential_le hup
  refine ⟨as, u, has, hlen.trans ?_, hrun, hreceive, hmain', hpending,
    (transmitSystem_inv hinv.transmit).queue_of_idle hup' hidle⟩
  simp only [deliveryRank]
  omega

/-- Between two pushes the flight loop can take its next step, and all frames can be sent. -/
theorem exists_flightLoopStep (h : (pluginSystem hash).Reachable s) (hmain : s.main = .running)
    (hpending : s.pending = []) (env : Datarefs) :
    ∃ t, (pluginSystem hash).Reachable t ∧ t.receive = s.receive.flightLoopStep hash env ∧
      t.main = .running ∧ t.pending = [] := by
  have hstep := h.step ⟨.callback env, callback_of_pending_nil hash env hmain hpending⟩
  obtain ⟨as, t, -, -, hrun, hreceive, hmain', hdelivered⟩ :=
    (pluginSystem_inv hstep).exists_delivered hmain env
  exact ⟨t, reachable_of_steps hstep hrun, hreceive, hmain', hdelivered.pending⟩

end SystemState

/-! ## Refinement -/

/-- **Refinement**: in every interleaving, once the flight loop has been called, there is a
sequential run whose packets are the received chunks, in order, up to those that are still on
their way, such that the plugin is in the state of this run, and the messages that were handed
to `send`, those in the queue and the pending frames are its frames, in order. The chunks are the
bytes of the panel, up to those that have not been read. -/
theorem system_refines_session {hash : Bytes → UInt64} {s : SystemState}
    (h : (pluginSystem hash).Reachable s) (hinit : s.receive.datarefsInitialized = true) :
    ∃ done env₀ events, s.receive.config = session hash env₀ events ∧
      packets events = done.map SkalarkiMessage.msg ∧
      s.receive.chunks =
        done ++ (s.receive.inLoop ++ (s.receive.messageQueueRx ++ s.receive.inThread)) ∧
      (s.receive.chunks.map SkalarkiMessage.msg).flatten ++ s.receive.stream =
        (s.receive.frames.map DeviceFrame.bytes).flatten ∧
      (s.transmit.sent ++ s.transmit.messageQueueTx).map SkalarkiMessage.msg ++
        s.pending.map Frame.message =
          (pushes (session hash env₀ events).2).map Frame.message := by
  have hinv := pluginSystem_inv h
  obtain ⟨done, hruns, hdone⟩ := receiveSystem_runsTo hinv.receive
  rcases hruns with ⟨hnot, -⟩ | ⟨-, env₀, events, hconfig, hpackets⟩
  · rw [hinit] at hnot
    cases hnot
  · have hbytes := (receiveSystem_inv hinv.receive).bytes
    refine ⟨done, env₀, events, hconfig, hpackets, hdone, hbytes, ?_⟩
    have hpushed := hinv.pushed
    rwa [hconfig, ← (transmitSystem_inv hinv.transmit).fifo] at hpushed

/-- The first call of the flight loop finds one press, and ends with its update. -/
theorem system_refines_session_first : ∃ (s t : SystemState) (env₀ : Datarefs)
    (events : List Event), (pluginSystem fnv1a).Reachable s ∧ s.receive.flightLoop = .update ∧
      (SystemAction.callback .zero).step fnv1a s = some t ∧
      t.receive.config = session fnv1a env₀ events ∧
      packets events = [Command.altRight.literal] := by
  -- the press is queued before the flight loop is called, and `Init` pushes its frames
  obtain ⟨s₀, hs₀, hmain₀, hreceive₀⟩ : ∃ s₀, follow (SystemAction.step fnv1a)
      [.receiveThread, .send Command.altRight.frame, .recv Command.altRight.literal.length,
        .receiveThread] .initial = some s₀ ∧ s₀.main = .running ∧
      follow (ReceiveAction.step fnv1a)
        [.receiveThread, .send Command.altRight.frame, .recv Command.altRight.literal.length,
          .receiveThread] .initial = some s₀.receive := ⟨_, rfl, rfl, rfl⟩
  have hreach₀ := reachable_of_steps (.start rfl) hs₀
  obtain ⟨as, s₁, -, -, hrun, hreceive₁, hmain₁, hpending₁, -⟩ :=
    (pluginSystem_inv hreach₀).exists_delivered hmain₀ .zero
  -- `InitDatarefs`, the pop, the handler, and the second pop
  obtain ⟨s₂, hreach₂, hreceive₂, hmain₂, hpending₂⟩ :=
    SystemState.exists_flightLoopStep (reachable_of_steps hreach₀ hrun) hmain₁ hpending₁ .zero
  obtain ⟨s₃, hreach₃, hreceive₃, hmain₃, hpending₃⟩ :=
    SystemState.exists_flightLoopStep hreach₂ hmain₂ hpending₂ .zero
  obtain ⟨s₄, hreach₄, hreceive₄, hmain₄, hpending₄⟩ :=
    SystemState.exists_flightLoopStep hreach₃ hmain₃ hpending₃ .zero
  obtain ⟨s, hreach, hreceive, hmain, hpending⟩ :=
    SystemState.exists_flightLoopStep hreach₄ hmain₄ hpending₄ .zero
  rw [hreceive₄, hreceive₃, hreceive₂, hreceive₁, ← Option.some.inj hreceive₀] at hreceive
  have hlast := SystemState.callback_of_pending_nil fnv1a .zero hmain hpending
  obtain ⟨done, env₀, events, hconfig, hpackets, hchunks, -⟩ :=
    system_refines_session (hreach.step ⟨.callback .zero, hlast⟩) (by rw [hreceive]; rfl)
  refine ⟨s, _, env₀, events, hreach, by rw [hreceive]; rfl, hlast, hconfig, ?_⟩
  -- the chunk has been handled
  rw [hreceive] at hchunks
  have hdone : done = [⟨Command.altRight.literal, by decide⟩] :=
    ((List.append_nil done).symm.trans hchunks.symm)
  rw [hpackets, hdone]
  rfl

end SkalarkiFcu
