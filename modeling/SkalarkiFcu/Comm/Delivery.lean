import SkalarkiFcu.Library.Schedule
import SkalarkiFcu.Comm.Transmit

/-!
# The work of the transmit thread

What `TransmitThread` does with the messages, counted over whole schedules: it takes three
steps for a message and does not spin, it can always take one while the connection is up and a
message waits, and once `Shutdown` has stored `_stopTransmit` it sends one message more at most.

## Architecture

- **Work**: `TransmitState.potential`, `transmitThread_work`
- **Delivery**: `TransmitState.transmitThread_ready`, `TransmitState.Inv.queue_of_idle`
- **The last message**: `TransmitState.inFlight`, `sent_after_stop`
-/

namespace SkalarkiFcu

open TransitionSystem

/-! ## Work -/

/-- How many steps the thread takes from here before the next `acquire`. -/
def TransmitPc.due : TransmitPc → ℕ
  | .test => 1
  | .acquire => 0
  | .locked => 2
  | .exited => 0

/-- The steps that the semaphore and the place of the thread allow. -/
def TransmitState.potential (s : TransmitState) : ℕ := 3 * s.semaphoreTx + s.thread.due

/-- The releases of the semaphore so far: one for each accepted message, and that of
`Shutdown`. -/
def TransmitState.releases (s : TransmitState) : ℕ :=
  s.accepted.length + if s.shutdown = .join then 1 else 0

/-- A step of the thread. -/
def TransmitAction.work : TransmitAction → ℕ
  | .transmitThread => 1
  | _ => 0

/-- Every step of the thread is paid for by a release: three steps for each. -/
theorem TransmitAction.pays {s t : TransmitState} {a : TransmitAction} (h : a.step s = some t) :
    t.potential + a.work + 3 * s.releases ≤ s.potential + 3 * t.releases := by
  cases a with
  | pushMessage f =>
    obtain rfl : s.pushMessage f = t := Option.some.inj h
    rcases s.pushMessage_cases f with heq | ⟨m, heq⟩
    · simp [heq, work]
    · simp only [heq, TransmitState.potential, TransmitState.releases, work,
        List.length_append, List.length_singleton]
      omega
  | transmitThread =>
    rcases TransmitState.transmitThread_cases h with ⟨hpc, -, rfl⟩ | ⟨hpc, -, rfl⟩ |
      ⟨n, hpc, hsem, rfl⟩ | ⟨msg, rest, hpc, -, rfl⟩ | ⟨hpc, -, rfl⟩
    · simp [TransmitState.potential, TransmitState.releases, hpc, work, TransmitPc.due]
    · simp [TransmitState.potential, TransmitState.releases, hpc, work, TransmitPc.due]
    · -- `acquire` takes a token, which is worth the three steps of one round
      simp only [TransmitState.potential, TransmitState.releases, hpc, hsem, work,
        TransmitPc.due]
      omega
    · simp [TransmitState.potential, TransmitState.releases, hpc, work, TransmitPc.due]
    · simp [TransmitState.potential, TransmitState.releases, hpc, work, TransmitPc.due]
  | shutdown =>
    rcases TransmitState.shutdownStep_cases h with ⟨hpc, rfl⟩ | ⟨hpc, rfl⟩ | ⟨hpc, rfl⟩
    · simp [TransmitState.potential, TransmitState.releases, hpc, work]
    · simp [TransmitState.potential, TransmitState.releases, hpc, work]
    · simp only [TransmitState.potential, TransmitState.releases, hpc, work, reduceCtorEq,
        if_false, if_true]
      omega

/-- **No spinning**: in every schedule of pushes, the thread and a shutdown, the thread takes at
most three steps for each accepted message, three for the shutdown, and the first test. -/
theorem transmitThread_work {as : List TransmitAction} {t : TransmitState}
    (h : follow TransmitAction.step as .initial = some t) :
    (as.map TransmitAction.work).sum ≤ 3 * t.releases + 1 := by
  have hsum : t.potential + (as.map TransmitAction.work).sum +
      3 * TransmitState.initial.releases ≤ TransmitState.initial.potential + 3 * t.releases :=
    (follow_potential (fun _ => True) (fun u => 3 * u.releases)
      (fun _ _ _ _ hstep => ⟨trivial, TransmitAction.pays hstep⟩) h trivial).2
  have hinitial : TransmitState.initial.potential = 1 := rfl
  omega

/-- One message: the thread takes four steps, as many as the bound allows. -/
theorem transmitThread_work_one : ∃ (as : List TransmitAction) (t : TransmitState),
    follow TransmitAction.step as .initial = some t ∧ t.releases = 1 ∧
    (as.map TransmitAction.work).sum = 4 ∧ 4 ≤ 3 * t.releases + 1 := by
  let as : List TransmitAction := [.transmitThread, .pushMessage ⟨spdOn, spdOnLen⟩,
    .transmitThread, .transmitThread, .transmitThread]
  obtain ⟨t, ht, hreleases⟩ : ∃ t, follow TransmitAction.step as .initial = some t ∧
      t.releases = 1 := ⟨_, rfl, rfl⟩
  exact ⟨as, t, ht, hreleases, rfl, transmitThread_work ht⟩

/-! ## Delivery -/

namespace TransmitState

variable {s t : TransmitState}

/-- Before `Shutdown` the flag is not set. -/
theorem stopTransmit_of_running (h : transmitSystem.Reachable s) :
    s.shutdown = .stopTransmit → s.stopTransmit = false := by
  apply h.invariant
  · rintro s rfl _
    rfl
  · rintro s t hs ⟨a, ha⟩
    cases a with
    | pushMessage f =>
      obtain rfl : s.pushMessage f = t := Option.some.inj ha
      rcases s.pushMessage_cases f with heq | ⟨m, heq⟩ <;> rwa [heq]
    | transmitThread =>
      rcases transmitThread_cases ha with ⟨-, -, rfl⟩ | ⟨-, -, rfl⟩ | ⟨n, -, -, rfl⟩ |
        ⟨msg, rest, -, -, rfl⟩ | ⟨-, -, rfl⟩ <;> exact hs
    | shutdown =>
      rcases shutdownStep_cases ha with ⟨-, rfl⟩ | ⟨-, rfl⟩ | ⟨-, rfl⟩ <;>
        exact fun hpc => nomatch hpc

/-- The thread ends only after the store of `Shutdown`. -/
theorem stopTransmit_of_exited (h : transmitSystem.Reachable s) :
    s.thread = .exited → s.stopTransmit = true := by
  apply h.invariant
  · rintro s rfl hexited
    cases hexited
  · rintro s t hs ⟨a, ha⟩
    cases a with
    | pushMessage f =>
      obtain rfl : s.pushMessage f = t := Option.some.inj ha
      rcases s.pushMessage_cases f with heq | ⟨m, heq⟩
      · rwa [heq]
      · rwa [heq]
    | transmitThread =>
      rcases transmitThread_cases ha with ⟨-, -, rfl⟩ | ⟨-, hstop, rfl⟩ | ⟨n, -, -, rfl⟩ |
        ⟨msg, rest, -, -, rfl⟩ | ⟨-, -, rfl⟩
      · simp
      · -- the test ends the loop only where it finds the flag
        exact fun _ => hstop
      · simp
      · simp
      · simp
    | shutdown =>
      rcases shutdownStep_cases ha with ⟨-, rfl⟩ | ⟨-, rfl⟩ | ⟨-, rfl⟩
      · exact fun _ => rfl
      · exact hs
      · exact hs

/-- The thread is asleep and no message is left. -/
def Idle (s : TransmitState) : Prop := s.thread = .acquire ∧ s.semaphoreTx = 0

/-- While the connection is up, the thread can take its next step unless it is idle. -/
theorem transmitThread_ready (h : transmitSystem.Reachable s) (hup : s.stopTransmit = false)
    (hidle : ¬ s.Idle) : ∃ t, s.transmitThread = some t ∧ t.stopTransmit = false ∧
      t.accepted = s.accepted ∧ t.potential < s.potential := by
  cases hthread : s.thread with
  | test =>
    -- the flag is not set, so that the loop goes on
    refine ⟨{ s with thread := .acquire }, ?_, hup, rfl, ?_⟩
    · simp [transmitThread, hthread, hup]
    · simp [potential, hthread, TransmitPc.due]
  | acquire =>
    -- a thread that would block here is idle; the token it takes pays for the round
    have hsem : s.semaphoreTx ≠ 0 := fun hsem => hidle ⟨hthread, hsem⟩
    refine ⟨{ s with semaphoreTx := s.semaphoreTx - 1, thread := .locked }, ?_, hup, rfl, ?_⟩
    · simp [transmitThread, hthread, hsem]
    · simp only [potential, hthread, TransmitPc.due]
      omega
  | locked =>
    -- the locked section is one step, whether or not it finds a message
    cases hqueue : s.messageQueueTx with
    | nil =>
      refine ⟨{ s with token := false, thread := .test }, ?_, hup, rfl, ?_⟩
      · simp [transmitThread, hthread, hqueue]
      · simp [potential, hthread, TransmitPc.due]
    | cons msg rest =>
      refine ⟨{ s with
        messageQueueTx := rest
        sent := s.sent ++ [msg]
        txMessageCount := s.txMessageCount + 1
        thread := .test }, ?_, hup, rfl, ?_⟩
      · simp [transmitThread, hthread, hqueue]
      · simp [potential, hthread, TransmitPc.due]
  | exited =>
    -- the thread ends only once the flag is set
    rw [stopTransmit_of_exited h hthread] at hup
    cases hup

/-- There is no token while the connection is up. -/
theorem Inv.token_of_up (h : s.Inv) (hup : s.stopTransmit = false) : s.token = false := by
  by_contra htoken
  have hrel := h.token_released (by simpa using htoken)
  have hstop := h.stopped (by rw [hrel]; exact ShutdownPc.noConfusion)
  rw [hup] at hstop
  cases hstop

/-- The potential counts three steps for each message that waits. -/
theorem Inv.potential_le (h : s.Inv) (hup : s.stopTransmit = false) :
    s.potential ≤ 3 * s.messageQueueTx.length + 1 := by
  have hcounted := h.counted
  rw [h.token_of_up hup] at hcounted
  cases hthread : s.thread <;>
    simp only [held, hthread, potential, TransmitPc.due, reduceCtorEq, if_false, if_true,
      Bool.toNat_false] at hcounted ⊢ <;>
    omega

/-- An idle thread leaves no message in the queue. -/
theorem Inv.queue_of_idle (h : s.Inv) (hup : s.stopTransmit = false) (hidle : s.Idle) :
    s.messageQueueTx = [] := by
  have hcounted := h.counted
  simp only [held, hidle.1, hidle.2, h.token_of_up hup, reduceCtorEq, if_false,
    Bool.toNat_false] at hcounted
  exact List.eq_nil_of_length_eq_zero (by omega)

end TransmitState

/-! ## The last message -/

namespace TransmitState

/-- Whether the thread has passed the test and will come to its locked section. -/
def inFlight (s : TransmitState) : ℕ :=
  match s.thread with
  | .acquire | .locked => 1
  | .test | .exited => 0

end TransmitState

/-- After the store of `Shutdown` the thread sends only what it is about to send. -/
theorem TransmitAction.stopped_step {s t : TransmitState} {a : TransmitAction}
    (hstop : s.stopTransmit = true) (h : a.step s = some t) : t.stopTransmit = true ∧
      ∃ last, t.sent = s.sent ++ last ∧ last.length + t.inFlight ≤ s.inFlight := by
  cases a with
  | pushMessage f =>
    obtain rfl : s.pushMessage f = t := Option.some.inj h
    rcases s.pushMessage_cases f with heq | ⟨m, heq⟩
    · rw [heq]
      exact ⟨hstop, [], by simp, by simp⟩
    · rw [heq]
      exact ⟨hstop, [], by simp, by simp [TransmitState.inFlight]⟩
  | transmitThread =>
    rcases TransmitState.transmitThread_cases h with ⟨-, hup, -⟩ | ⟨-, -, rfl⟩ |
      ⟨n, hpc, -, rfl⟩ | ⟨msg, rest, hpc, -, rfl⟩ | ⟨-, -, rfl⟩
    · rw [hstop] at hup
      cases hup
    · exact ⟨hstop, [], by simp, by simp [TransmitState.inFlight]⟩
    · exact ⟨hstop, [], by simp, by simp [TransmitState.inFlight, hpc]⟩
    · exact ⟨hstop, [msg], rfl, by simp [TransmitState.inFlight, hpc]⟩
    · exact ⟨hstop, [], by simp, by simp [TransmitState.inFlight]⟩
  | shutdown =>
    rcases TransmitState.shutdownStep_cases h with ⟨-, rfl⟩ | ⟨-, rfl⟩ | ⟨-, rfl⟩
    · exact ⟨rfl, [], by simp, by simp [TransmitState.inFlight]⟩
    · exact ⟨hstop, [], by simp, by simp [TransmitState.inFlight]⟩
    · exact ⟨hstop, [], by simp, by simp [TransmitState.inFlight]⟩

theorem TransmitAction.accepted_step {s t : TransmitState} {a : TransmitAction}
    (h : a.step s = some t) : ∃ later, t.accepted = s.accepted ++ later := by
  cases a with
  | pushMessage f =>
    obtain rfl : s.pushMessage f = t := Option.some.inj h
    rcases s.pushMessage_cases f with heq | ⟨m, heq⟩
    · exact ⟨[], by simp [heq]⟩
    · exact ⟨[m], by rw [heq]⟩
  | transmitThread =>
    rcases TransmitState.transmitThread_cases h with ⟨-, -, rfl⟩ | ⟨-, -, rfl⟩ |
      ⟨n, -, -, rfl⟩ | ⟨msg, rest, -, -, rfl⟩ | ⟨-, -, rfl⟩ <;>
      exact ⟨[], by simp⟩
  | shutdown =>
    rcases TransmitState.shutdownStep_cases h with ⟨-, rfl⟩ | ⟨-, rfl⟩ | ⟨-, rfl⟩ <;>
      exact ⟨[], by simp⟩

/-- **The last message**: whatever happens after the store of `Shutdown`, one message more is
sent at most, and only by a thread that had already passed its test. All others stay in the
queue, in order. -/
theorem sent_after_stop {s t : TransmitState} (h : transmitSystem.Reachable s)
    (hstop : s.stopTransmit = true) {as : List TransmitAction}
    (hrun : follow TransmitAction.step as s = some t) :
    ∃ last later, t.sent = s.sent ++ last ∧ last.length ≤ s.inFlight ∧
      t.accepted = s.accepted ++ later ∧
      last ++ t.messageQueueTx = s.messageQueueTx ++ later := by
  obtain ⟨ht, -, last, later, hsent, hlen, haccepted⟩ := follow_invariant
    (I := fun u => transmitSystem.Reachable u ∧ u.stopTransmit = true ∧ ∃ last later,
      u.sent = s.sent ++ last ∧ last.length + u.inFlight ≤ s.inFlight ∧
        u.accepted = s.accepted ++ later)
    (by
      rintro a u v ⟨hu, hstopu, last, later, hsent, hlen, haccepted⟩ hv
      obtain ⟨hstopv, last', hsent', hlen'⟩ := TransmitAction.stopped_step hstopu hv
      obtain ⟨later', haccepted'⟩ := TransmitAction.accepted_step hv
      -- what two steps send and accept comes one after the other
      refine ⟨hu.step ⟨a, hv⟩, hstopv, last ++ last', later ++ later', ?_, ?_, ?_⟩
      · rw [hsent', hsent, List.append_assoc]
      · rw [List.length_append]
        omega
      · rw [haccepted', haccepted, List.append_assoc])
    hrun ⟨h, hstop, [], [], by simp, by simp, by simp⟩
  refine ⟨last, later, hsent, by omega, haccepted, ?_⟩
  -- both states have sent and queued what they accepted
  have hs := (transmitSystem_inv h).fifo
  have ht := (transmitSystem_inv ht).fifo
  rw [hsent, haccepted, ← hs, List.append_assoc, List.append_assoc] at ht
  exact List.append_cancel_left ht

/-- The thread waits for a message when `Shutdown` stores the flag: of the two that follow it
sends one. -/
theorem sent_after_stop_waiting : ∃ (as : List TransmitAction) (s t : TransmitState),
    transmitSystem.Reachable s ∧ s.stopTransmit = true ∧ s.sent = [] ∧
    follow TransmitAction.step as s = some t ∧ t.accepted.length = 2 ∧ t.sent.length = 1 ∧
    t.sent.length ≤ s.inFlight := by
  let s : TransmitState := { TransmitState.initial with
    thread := .acquire, stopTransmit := true, shutdown := .stopReceive }
  have hacquire : transmitSystem.Reachable { TransmitState.initial with thread := .acquire } :=
    .step (.start rfl) ⟨.transmitThread, rfl⟩
  have hstop : transmitSystem.Reachable s := hacquire.step ⟨.shutdown, rfl⟩
  let as : List TransmitAction := [.pushMessage ⟨spdOn, spdOnLen⟩, .pushMessage ⟨spdOn, spdOnLen⟩,
    .transmitThread, .transmitThread]
  obtain ⟨t, ht, haccepted, hone⟩ : ∃ t, follow TransmitAction.step as s = some t ∧
      t.accepted.length = 2 ∧ t.sent.length = 1 := ⟨_, rfl, rfl, rfl⟩
  obtain ⟨last, later, hsent, hlen, -⟩ := sent_after_stop hstop rfl ht
  refine ⟨as, s, t, hstop, rfl, rfl, ht, haccepted, hone, ?_⟩
  rw [hsent]
  exact hlen

end SkalarkiFcu
