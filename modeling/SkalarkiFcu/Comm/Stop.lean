import SkalarkiFcu.Library.Fairness
import SkalarkiFcu.Comm.Shutdown

/-!
# The call of Shutdown comes to its end

In a fair execution, the `Shutdown` that `XPluginStop` calls returns: it stores its flags, both
threads see them and end, and both joins return. Fairness asks that `Shutdown` and the transmit
thread go on when they can, so that every `send` returns, and that `recv` returns once the socket
has been shut down. The connection has been made: after a failed `Init`, and in the destructor,
there is nothing to join, which is a matter of `Comm.Lifecycle`.

## Architecture

- **Steps after the call**: `SystemAction.stopped_step`
- **A call**: `stopAtStartRun`
- **The flags**: `eventually_stopping`
- **The joins**: `shutdown_eventually_returns`
-/

namespace SkalarkiFcu

open LittleEndian TransitionSystem

/-! ## Steps after the call -/

/-- No callback comes back, and only `Shutdown` itself goes on in its code. -/
theorem SystemAction.stopped_step {hash : Bytes → UInt64} {s t : SystemState} {a : SystemAction}
    (h : a.step hash s = some t) (hs : s.main ≠ .running) :
    t.main ≠ .running ∧ (a = .shutdown ∨ t.transmit.shutdown = s.transmit.shutdown) := by
  cases a with
  | send f =>
    obtain rfl : { s with receive := s.receive.send f } = t := Option.some.inj h
    exact ⟨hs, .inr rfl⟩
  | recv n =>
    obtain ⟨r, -, rfl⟩ := Option.map_eq_some_iff.mp h
    exact ⟨hs, .inr rfl⟩
  | recvFails =>
    obtain ⟨r, -, rfl⟩ := Option.map_eq_some_iff.mp h
    exact ⟨hs, .inr rfl⟩
  | receiveThread =>
    obtain ⟨r, -, rfl⟩ := Option.map_eq_some_iff.mp h
    exact ⟨hs, .inr rfl⟩
  | transmitThread =>
    obtain ⟨u, hu, rfl⟩ := Option.map_eq_some_iff.mp h
    refine ⟨hs, .inr ?_⟩
    rcases TransmitState.transmitThread_cases hu with ⟨-, -, rfl⟩ | ⟨-, -, rfl⟩ |
      ⟨n, -, -, rfl⟩ | ⟨msg, rest, -, -, rfl⟩ | ⟨-, -, rfl⟩ <;> rfl
  -- callbacks and `XPluginStop` run only while the main thread is there
  | callback env => exact absurd (SystemState.callback_cases h).1 hs
  | stop => exact absurd (SystemState.stop_cases h).1 hs
  | shutdown =>
    refine ⟨?_, .inl rfl⟩
    rcases SystemState.shutdown_cases h with ⟨u, -, -, rfl⟩ | ⟨-, -, -, rfl⟩ | ⟨-, rfl⟩ |
      ⟨-, -, rfl⟩
    · exact hs
    all_goals simp

/-- Nothing follows the return. -/
theorem SystemAction.returned_step {hash : Bytes → UInt64} {s t : SystemState} {a : SystemAction}
    (h : a.step hash s = some t) (hs : s.main = .returned) : t.main = .returned := by
  cases a with
  | shutdown =>
    rcases SystemState.shutdown_cases h with ⟨u, hmain, -⟩ | ⟨hmain, -⟩ | ⟨hmain, -⟩ | ⟨hmain, -⟩
    all_goals
      rw [hs] at hmain
      cases hmain
  | callback env =>
    have hmain := (SystemState.callback_cases h).1
    rw [hs] at hmain
    cases hmain
  | stop =>
    have hmain := (SystemState.stop_cases h).1
    rw [hs] at hmain
    cases hmain
  | send f =>
    obtain rfl : { s with receive := s.receive.send f } = t := Option.some.inj h
    exact hs
  | _ =>
    -- the threads leave the main thread alone
    obtain ⟨r, -, rfl⟩ := Option.map_eq_some_iff.mp h
    exact hs

/-- A step by none of the three parties leaves open whom the return waits for. -/
theorem SystemAction.waitsFor_of_work_eq_zero {hash : Bytes → UInt64} {s t : SystemState}
    {a : SystemAction} (h : a.step hash s = some t) (hs : s.Stopping) (ha : a.work = 0) :
    t.waitsFor = s.waitsFor ∧ ∀ p : Party, ¬ p.Acts a := by
  cases a with
  | send f =>
    obtain rfl : { s with receive := s.receive.send f } = t := Option.some.inj h
    exact ⟨rfl, fun p hp => by cases p <;> exact hp⟩
  | callback env => exact absurd (SystemState.callback_cases h).1 hs.main
  | stop => exact absurd (SystemState.stop_cases h).1 hs.main
  | _ => cases ha

/-! ## A call -/

/-- `XPluginStop` is called after the start, and then `Shutdown` and the threads take turns; no
byte arrives, so that `recv` fails. -/
def stopAtStart (n : ℕ) (s : SystemState) : SystemAction :=
  if n < 11 then .callback .zero
  else if n = 11 then .stop
  else match n % 3, s.receive.thread with
    | 0, _ => .shutdown
    | 1, _ => .transmitThread
    | _, .recv => .recvFails
    | _, _ => .receiveThread

def stopAtStartRun (hash : Bytes → UInt64) : Execution (SystemAction.step hash) :=
  .ofScheduler (SystemAction.step hash) stopAtStart .initial

theorem stopAtStart_fair_shutdown (hash : Bytes → UInt64) :
    (stopAtStartRun hash).Fair (· = .shutdown) := by
  refine Execution.fair_ofScheduler fun n => ⟨3 * n + 12, by omega, fun t => ?_⟩
  have hpick : stopAtStart (3 * n + 12) t = .shutdown := by
    have hmod : (3 * n + 12) % 3 = 0 := by omega
    simp [stopAtStart, hmod]
  rw [hpick]
  refine ⟨rfl, ?_⟩
  rintro hnone a rfl
  exact hnone

theorem stopAtStart_fair_transmitThread (hash : Bytes → UInt64) :
    (stopAtStartRun hash).Fair (· = .transmitThread) := by
  refine Execution.fair_ofScheduler fun n => ⟨3 * n + 13, by omega, fun t => ?_⟩
  have hpick : stopAtStart (3 * n + 13) t = .transmitThread := by
    have hmod : (3 * n + 13) % 3 = 1 := by omega
    simp [stopAtStart, hmod]
  rw [hpick]
  refine ⟨rfl, ?_⟩
  rintro hnone a rfl
  exact hnone

theorem stopAtStart_fair_receiveThread (hash : Bytes → UInt64) :
    (stopAtStartRun hash).Fair Party.receiveThread.Acts := by
  refine Execution.fair_ofScheduler fun n => ⟨3 * n + 14, by omega, fun t => ?_⟩
  have hmod : (3 * n + 14) % 3 = 2 := by omega
  cases hpc : t.receive.thread with
  | recv =>
    have hpick : stopAtStart (3 * n + 14) t = .recvFails := by
      simp [stopAtStart, hmod, hpc]
    rw [hpick]
    exact ⟨trivial, fun hnone => by simp [SystemAction.step, ReceiveState.recvFails, hpc] at hnone⟩
  | _ =>
    have hpick : stopAtStart (3 * n + 14) t = .receiveThread := by
      simp [stopAtStart, hmod, hpc]
    rw [hpick]
    refine ⟨trivial, ?_⟩
    -- outside `recv`, the thread has no other step
    rintro hnone a ha
    cases a with
    | recv k => simp [SystemAction.step, ReceiveState.recv, hpc]
    | recvFails => simp [SystemAction.step, ReceiveState.recvFails, hpc]
    | receiveThread => exact hnone
    | _ => exact absurd ha id

/-! ## The flags -/

/-- Before the release, both flags have been stored. -/
theorem TransmitState.stopReceive_of_stepsToJoin {u : TransmitState}
    (h : transmitSystem.Reachable u) : u.shutdown.stepsToJoin ≤ 1 → u.stopReceive = true := by
  apply h.invariant
  · rintro s rfl hle
    exact absurd hle (by decide)
  · rintro s t hs ⟨a, ha⟩
    cases a with
    | pushMessage f =>
      obtain rfl : s.pushMessage f = t := Option.some.inj ha
      rcases s.pushMessage_cases f with heq | ⟨m, heq⟩ <;> rwa [heq]
    | transmitThread =>
      rcases transmitThread_cases ha with ⟨-, -, rfl⟩ | ⟨-, -, rfl⟩ |
        ⟨n, -, -, rfl⟩ | ⟨msg, rest, -, -, rfl⟩ | ⟨-, -, rfl⟩ <;> exact hs
    | shutdown =>
      rcases shutdownStep_cases ha with ⟨-, rfl⟩ | ⟨-, rfl⟩ | ⟨hpc, rfl⟩
      · exact fun hle => absurd hle (Nat.not_succ_le_self 1)
      · -- the second store
        exact fun _ => rfl
      · exact fun _ => hs (by rw [hpc]; decide)

section Execution

variable {hash : Bytes → UInt64} {E : Execution (SystemAction.step hash)}
  (hE : E.state 0 = .initial)

include hE

theorem execution_inv (n : ℕ) : (E.state n).Inv hash :=
  pluginSystem_inv (E.reachable (S := pluginSystem hash) (fun a _ _ ha => ⟨a, ha⟩) hE n)

/-- Until then, `Shutdown` can store the next flag. -/
theorem shutdownStep_of_stepsToJoin {n : ℕ} (hn : (E.state n).main ≠ .running)
    (hjoin : 1 < (E.state n).transmit.shutdown.stepsToJoin) :
    (E.state n).main = .shutdown ∧
      ∃ u, (E.state n).transmit.shutdownStep = some u ∧
        u.shutdown.stepsToJoin < (E.state n).transmit.shutdown.stepsToJoin := by
  have hmain : (E.state n).main = .shutdown := by
    -- a join that has returned has come after both stores
    have hjoined : (E.state n).main.joined ≠ true := by
      intro hjoined
      rw [((execution_inv hE n).joined hjoined).1] at hjoin
      exact absurd hjoin (by decide)
    cases hpc : (E.state n).main with
    | running => exact absurd hpc hn
    | shutdown => rfl
    | _ => simp [hpc, MainPc.joined] at hjoined
  refine ⟨hmain, ?_⟩
  cases hpc : (E.state n).transmit.shutdown with
  | stopTransmit =>
    exact ⟨_, by rw [TransmitState.shutdownStep, hpc], by simp [ShutdownPc.stepsToJoin]⟩
  | stopReceive =>
    exact ⟨_, by rw [TransmitState.shutdownStep, hpc], by simp [ShutdownPc.stepsToJoin]⟩
  | _ =>
    rw [hpc] at hjoin
    exact absurd hjoin (by decide)

/-- `Shutdown` stores both flags. -/
theorem eventually_stopping (hshutdown : E.Fair (· = .shutdown)) {n : ℕ}
    (hn : (E.state n).main ≠ .running) : ∃ m, n ≤ m ∧ (E.state m).Stopping := by
  -- `Shutdown` stores them by itself, and waits for nobody on the way
  have hstores : ∃ m, n ≤ m ∧
      ((E.state m).main ≠ .running ∧ (E.state m).transmit.shutdown.stepsToJoin ≤ 1) := by
    refine hshutdown.eventually (fun s => s.main ≠ .running)
      (fun s => s.main ≠ .running ∧ s.transmit.shutdown.stepsToJoin ≤ 1)
      (fun s => s.transmit.shutdown.stepsToJoin) ?_ ?_ hn
    · intro k _ hP hgoal
      obtain ⟨hmain, u, hu, -⟩ := shutdownStep_of_stepsToJoin hE hP
        (not_le.mp fun hle => hgoal ⟨hP, hle⟩)
      refine ⟨.shutdown, rfl, ?_⟩
      simp [SystemAction.step, SystemState.shutdown, hmain, hu]
    · intro k a _ _ hstep hP hgoal
      obtain ⟨hmain, u, hu, hlt⟩ := shutdownStep_of_stepsToJoin hE hP
        (not_le.mp fun hle => hgoal ⟨hP, hle⟩)
      obtain ⟨hmain', hkeeps⟩ := a.stopped_step hstep hP
      by_cases ha : a = .shutdown
      · have hnext : (E.state (k + 1)).transmit = u := by
          simp only [ha, SystemAction.step, SystemState.shutdown, hmain, hu,
            Option.some.injEq] at hstep
          rw [← hstep]
        rw [hnext]
        exact .inr ⟨hmain', hlt.le, fun _ => hlt⟩
      · have hsame := hkeeps.resolve_left ha
        exact .inr ⟨hmain', by rw [hsame], fun hshutdown => absurd hshutdown ha⟩
  obtain ⟨m, hm, hmain, hjoin⟩ := hstores
  have hinv := execution_inv hE m
  refine ⟨m, hm, hmain, ?_, ?_⟩
  · refine (transmitSystem_inv hinv.transmit).stopped fun hpc => ?_
    rw [hpc] at hjoin
    exact absurd hjoin (by decide)
  · rw [hinv.stopReceive]
    exact TransmitState.stopReceive_of_stepsToJoin hinv.transmit hjoin

/-- **Shutdown returns**: in an execution that is fair to `Shutdown` and to the transmit thread,
which includes that each `send` returns, and fair to the receive thread once the socket has been
shut down, the `Shutdown` that `XPluginStop` calls comes to its end. -/
theorem shutdown_eventually_returns (hshutdown : E.Fair (· = .shutdown))
    (htransmit : E.Fair (· = .transmitThread))
    (hreceive : E.FairWhile Party.receiveThread.Acts fun s => s.main = .join) {n : ℕ}
    (hn : (E.state n).main ≠ .running) :
    ∃ m, n ≤ m ∧ ∀ k, m ≤ k → (E.state k).main = .returned := by
  obtain ⟨l, hl, hstopping⟩ := eventually_stopping hE hshutdown hn
  have hfair : ∀ p : Party, E.FairWhile p.Acts fun s => s.waitsFor = p := by
    intro p
    cases p with
    | shutdown =>
      rw [acts_shutdown]
      exact hshutdown.fairWhile _
    | transmitThread =>
      rw [acts_transmitThread]
      exact htransmit.fairWhile _
    | receiveThread =>
      -- the return waits for this thread only after the socket has been shut down
      exact hreceive.mono fun s => SystemState.main_of_waitsFor_receiveThread
  obtain ⟨m, hm, hreturned⟩ : ∃ m, l ≤ m ∧ (E.state m).main = .returned := by
    refine Execution.eventually_of_helpful Party.Acts SystemState.waitsFor hfair
      SystemState.Stopping (fun s => s.main = .returned) SystemState.stopRank ?_ ?_ hstopping
    · intro k _ hP hgoal
      obtain ⟨a, hacts, henabled, -⟩ := (execution_inv hE k).ready hP hgoal
      exact ⟨a, hacts, Option.isSome_iff_ne_none.mp henabled⟩
    · intro k a _ _ hstep hP _
      obtain ⟨hP', hpays⟩ := hP.pays (execution_inv hE k) hstep
      refine .inr ⟨hP', ?_⟩
      by_cases ha : a.work = 0
      · obtain ⟨hsame, hother⟩ := a.waitsFor_of_work_eq_zero hstep hP ha
        exact .inr ⟨by omega, hsame, hother _⟩
      · exact .inl (by omega)
  -- and nothing follows the return
  refine ⟨m, hl.trans hm, fun k hk => ?_⟩
  induction k, hk using Nat.le_induction with
  | base => exact hreturned
  | succ k _ ih =>
    rcases E.next_cases k with ⟨-, heq⟩ | ⟨a, -, hstep⟩
    · rwa [heq]
    · exact a.returned_step hstep ih

end Execution

theorem shutdown_eventually_returns_atStart : ∃ m,
    ((stopAtStartRun fun _ => 0).state 12).main = .shutdown ∧
    ((stopAtStartRun fun _ => 0).state m).main = .returned := by
  have hcalled : ((stopAtStartRun fun _ => 0).state 12).main = .shutdown := rfl
  obtain ⟨m, -, hreturned⟩ := shutdown_eventually_returns (E := stopAtStartRun fun _ => 0) rfl
    (stopAtStart_fair_shutdown _) (stopAtStart_fair_transmitThread _)
    ((stopAtStart_fair_receiveThread _).fairWhile _) (n := 12) (by simp [hcalled])
  exact ⟨m, hcalled, hreturned m le_rfl⟩

end SkalarkiFcu
