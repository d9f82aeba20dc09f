import SkalarkiFcu.Comm.Lifecycle
import SkalarkiFcu.Comm.Transmit
import SkalarkiFcu.Lamps
import SkalarkiFcu.Stream

/-!
# The bound of the transmit semaphore

`_semaphoreTx` is a `std::counting_semaphore<1000>`: a `release` requires that the counter is
below 1000. `PushMessage` releases it for every message that it queues, whatever the counter is.
Only the transmit thread brings the counter down, and after a failed `Init` there is no such
thread, while the flight loop goes on pushing.

A run pushes the same frames whatever the threads do, so that what is left to the scheduler is
where the steps of the transmit thread fall between the pushes.

## Architecture

- **Runs**: `CommRun`, `Turn.step`, and `CommRun.after` for a schedule
- **Counter**: `CommRun.semaphoreTx_mainStep`, and `CommRun.Inv` which ties it to the queue
- **Bound**: `CommRun.semaphoreBounded_iff_hasRoom` for one schedule,
  `CommRun.semaphoreBounded_iff_releasesLeft` for all of them
- **Plugin**: `accepted_pushes_session`, and `semaphoreBounded_iff`
-/

namespace SkalarkiFcu

open LittleEndian Reactive History

/-! ## Runs with a scheduler -/

/-- The maximum of `_semaphoreTx`. -/
def semaphoreTxMax : ℕ := 1000

/-- Whose turn it is. -/
inductive Turn where
  /-- The thread of the simulator, which runs the entry points of the plugin. -/
  | main
  | transmitThread
  deriving DecidableEq, Repr

/-- The connection, with what the simulator still does with it. -/
structure CommRun where
  /-- The frames that are still to be pushed, in order. -/
  pending : List Frame
  /-- `_transmitThread.joinable()` -/
  joinable : Bool
  comm : TransmitState

namespace CommRun

/-- After `SkalarkiComm::Init`, whether it has been successful or not. -/
def start (sys : SystemResults) (fs : List Frame) : CommRun where
  pending := fs
  joinable := (SkalarkiComm.afterInit sys).joinable .transmit
  comm := .initial

/-- The next step of the simulator: a push, and after the last one, if the plugin is stopped, a
step of `Shutdown`. -/
def mainStep (stops : Bool) (r : CommRun) : CommRun :=
  match r.pending with
  | f :: fs => { r with pending := fs, comm := r.comm.pushMessage f }
  | [] =>
    if stops = false then r
    else match r.comm.shutdownStep with
      | some comm => { r with comm := comm }
      | none =>
        -- the `join` waits for the end of the thread, and throws if there is no thread
        if r.joinable = true ∧ r.comm.thread = .exited then
          -- `Shutdown` has left the socket as it was, so the destructor calls it again
          { r with joinable := false, comm := { r.comm with shutdown := .stopTransmit } }
        else r

end CommRun

def Turn.step (stops : Bool) : Turn → CommRun → CommRun
  | .main, r => r.mainStep stops
  | .transmitThread, r =>
    -- a turn is lost without a thread, at its end, and while `acquire` blocks
    if r.joinable = true then { r with comm := r.comm.transmitThread.getD r.comm } else r

namespace CommRun

/-- The state after a schedule. -/
def after (stops : Bool) (r : CommRun) (schedule : List Turn) : CommRun :=
  schedule.foldl (fun r t => t.step stops r) r

/-- The counter never exceeds its maximum. -/
def SemaphoreBounded (stops : Bool) (r : CommRun) (schedule : List Turn) : Prop :=
  ∀ pre, pre <+: schedule → (r.after stops pre).comm.semaphoreTx ≤ semaphoreTxMax

/-- The next step of the simulator releases the semaphore. -/
def Releases (stops : Bool) (r : CommRun) : Prop :=
  r.pending ≠ [] ∨ stops = true ∧ r.comm.shutdown = .release

/-- The messages that wait, together with the token of `Shutdown`. -/
def waiting (r : CommRun) : ℕ := r.comm.messageQueueTx.length + r.comm.token.toNat

/-- At a release, there is room: fewer messages wait than the semaphore can count, one more if
the thread has acquired and not yet taken its message. -/
def HasRoom (stops : Bool) (r : CommRun) (pre : List Turn) (t : Turn) : Prop :=
  t = .main → (r.after stops pre).Releases stops →
    (r.after stops pre).waiting < semaphoreTxMax + (r.after stops pre).comm.held

/-- The releases that are still to come, if the transmit thread comes to its end. -/
def releasesLeft (stops : Bool) (r : CommRun) : ℕ :=
  r.pending.length +
    if stops = true then (if r.comm.shutdown = .join then 0 else 1) + r.joinable.toNat else 0

variable {stops : Bool}

@[simp] theorem after_nil (r : CommRun) : r.after stops [] = r := rfl

@[simp] theorem after_cons (r : CommRun) (t : Turn) (schedule : List Turn) :
    r.after stops (t :: schedule) = (t.step stops r).after stops schedule := rfl

theorem after_append (r : CommRun) (schedule schedule' : List Turn) :
    r.after stops (schedule ++ schedule') = (r.after stops schedule).after stops schedule' :=
  List.foldl_append

theorem after_concat (r : CommRun) (schedule : List Turn) (t : Turn) :
    r.after stops (schedule ++ [t]) = t.step stops (r.after stops schedule) :=
  after_append r schedule [t]

end CommRun

/-! ## What a step can do -/

theorem TransmitState.pushMessage_of_accepted {f : Frame} (h : f.Accepted) (s : TransmitState) :
    s.pushMessage f = { s with
      messageQueueTx := s.messageQueueTx ++ [queued f h.1]
      semaphoreTx := s.semaphoreTx + 1
      accepted := s.accepted ++ [queued f h.1] } := by
  rw [TransmitState.pushMessage, dif_neg h.1.not_gt, if_neg h.2]

namespace CommRun

variable {stops : Bool} {r : CommRun}

theorem mainStep_cons {f : Frame} {fs : List Frame} (h : r.pending = f :: fs) :
    r.mainStep stops = { r with pending := fs, comm := r.comm.pushMessage f } := by
  rw [mainStep, h]

theorem mainStep_cases (stops : Bool) (r : CommRun) :
    (∃ f fs, r.pending = f :: fs ∧
      r.mainStep stops = { r with pending := fs, comm := r.comm.pushMessage f }) ∨
    (∃ comm, r.pending = [] ∧ stops = true ∧ r.comm.shutdownStep = some comm ∧
      r.mainStep stops = { r with comm := comm }) ∨
    (r.pending = [] ∧ r.comm.shutdown = .join ∧ r.joinable = true ∧
      r.mainStep stops =
        { r with joinable := false, comm := { r.comm with shutdown := .stopTransmit } }) ∨
    (¬ r.Releases stops ∧ r.mainStep stops = r) := by
  cases hpending : r.pending with
  | cons f fs => exact .inl ⟨f, fs, rfl, mainStep_cons hpending⟩
  | nil =>
    cases stops with
    | false =>
      refine .inr (.inr (.inr ⟨?_, ?_⟩))
      · simp [Releases, hpending]
      · simp [mainStep, hpending]
    | true =>
      cases hstep : r.comm.shutdownStep with
      | some comm =>
        refine .inr (.inl ⟨comm, rfl, rfl, rfl, ?_⟩)
        simp [mainStep, hpending, hstep]
      | none =>
        -- only at the `join` there is no step
        have hjoin : r.comm.shutdown = .join := by
          cases hpc : r.comm.shutdown <;> simp [TransmitState.shutdownStep, hpc] at hstep ⊢
        by_cases hend : r.joinable = true ∧ r.comm.thread = .exited
        · refine .inr (.inr (.inl ⟨rfl, hjoin, hend.1, ?_⟩))
          simp [mainStep, hpending, hstep, hend]
        · refine .inr (.inr (.inr ⟨?_, ?_⟩))
          · simp [Releases, hpending, hjoin]
          · simp [mainStep, hpending, hstep, hend]

/-- **A step of the simulator** adds one to the counter exactly if it is a release. -/
theorem semaphoreTx_mainStep (stops : Bool) (haccepted : ∀ f ∈ r.pending, f.Accepted) :
    (r.Releases stops →
      (r.mainStep stops).comm.semaphoreTx = r.comm.semaphoreTx + 1) ∧
    (¬ r.Releases stops → (r.mainStep stops).comm.semaphoreTx = r.comm.semaphoreTx) := by
  rcases mainStep_cases stops r with ⟨f, fs, hpending, heq⟩ | ⟨comm, hpending, hstops, hstep, heq⟩ |
    ⟨hpending, hjoin, -, heq⟩ | ⟨hrel, heq⟩
  · -- a push of an accepted frame is a release
    have hf : f.Accepted := haccepted f (by simp [hpending])
    have hrel : r.Releases stops := .inl (by simp [hpending])
    rw [heq, TransmitState.pushMessage_of_accepted hf]
    exact ⟨fun _ => rfl, fun h => absurd hrel h⟩
  · rw [heq]
    -- of the steps of `Shutdown`, only the last before the join is one
    rcases TransmitState.shutdownStep_cases hstep with ⟨hpc, rfl⟩ | ⟨hpc, rfl⟩ | ⟨hpc, rfl⟩ <;>
      simp [Releases, hpending, hstops, hpc]
  · rw [heq]
    simp [Releases, hpending, hjoin]
  · rw [heq]
    exact ⟨fun h => absurd h hrel, fun _ => rfl⟩

/-- The transmit thread does not raise the counter. -/
theorem semaphoreTx_transmitThread (stops : Bool) (r : CommRun) :
    (Turn.transmitThread.step stops r).comm.semaphoreTx ≤ r.comm.semaphoreTx := by
  simp only [Turn.step]
  split
  · cases hstep : r.comm.transmitThread with
    | none => exact Nat.le_refl _
    | some comm =>
      rcases TransmitState.transmitThread_cases hstep with ⟨-, -, rfl⟩ | ⟨-, -, rfl⟩ |
        ⟨n, -, hsem, rfl⟩ | ⟨msg, rest, -, -, rfl⟩ | ⟨-, -, rfl⟩
      · exact Nat.le_refl _
      · exact Nat.le_refl _
      · -- `acquire` takes one
        exact hsem ▸ Nat.le_succ n
      · exact Nat.le_refl _
      · exact Nat.le_refl _
  · exact Nat.le_refl _

/-! ## The counter and the queue -/

/-- All that is left is a `join` that throws. -/
def Ended (r : CommRun) : Prop := r.pending = [] ∧ r.joinable = false ∧ r.comm.shutdown = .join

/-- The invariant of a run. -/
structure Inv (r : CommRun) : Prop where
  accepted : ∀ f ∈ r.pending, f.Accepted
  /-- As long as the thread is there, the run is one of the transmission. -/
  transmission : r.joinable = true → transmitSystem.Reachable r.comm
  /-- Up to the last release, the counter and what the thread holds make up what waits. -/
  counted : r.Ended ∨ r.comm.semaphoreTx + r.comm.held = r.waiting

theorem inv_start (sys : SystemResults) {fs : List Frame} (h : ∀ f ∈ fs, f.Accepted) :
    (start sys fs).Inv := ⟨h, fun _ => .start rfl, .inr rfl⟩

theorem not_ended_of_releases (h : r.Releases stops) : ¬ r.Ended := by
  rintro ⟨hpending, -, hjoin⟩
  simp [Releases, hpending, hjoin] at h

/-- The states of the transmission are counted. -/
theorem Inv.of_reachable (haccepted : ∀ f ∈ r.pending, f.Accepted)
    (h : transmitSystem.Reachable r.comm) : r.Inv :=
  ⟨haccepted, fun _ => h, .inr (transmitSystem_inv h).counted⟩

theorem Inv.mainStep (h : r.Inv) : (r.mainStep stops).Inv := by
  rcases mainStep_cases stops r with ⟨f, fs, hpending, heq⟩ | ⟨comm, hpending, -, hstep, heq⟩ |
    ⟨hpending, -, hjoinable, heq⟩ | ⟨-, heq⟩
  · rw [heq]
    have haccepted := h.accepted
    rw [hpending, List.forall_mem_cons] at haccepted
    refine ⟨haccepted.2, fun hj => (h.transmission hj).step ⟨.pushMessage f, rfl⟩, .inr ?_⟩
    -- the message is counted by the semaphore and by the queue
    have hcounted := h.counted.resolve_left (by simp [Ended, hpending])
    rw [TransmitState.pushMessage_of_accepted haccepted.1]
    simp only [waiting, TransmitState.held, List.length_append, List.length_singleton] at hcounted ⊢
    omega
  · rw [heq]
    cases hj : r.joinable with
    | true => exact .of_reachable h.accepted ((h.transmission hj).step ⟨.shutdown, hstep⟩)
    | false =>
      refine ⟨h.accepted, by simp, ?_⟩
      -- without a thread, the release is the last one
      rcases TransmitState.shutdownStep_cases hstep with ⟨hpc, rfl⟩ | ⟨hpc, rfl⟩ | ⟨hpc, rfl⟩
      · exact .inr (h.counted.resolve_left (by simp [Ended, hpc]))
      · exact .inr (h.counted.resolve_left (by simp [Ended, hpc]))
      · exact .inl ⟨hpending, rfl, rfl⟩
  · rw [heq]
    exact ⟨h.accepted, by simp, .inr (transmitSystem_inv (h.transmission hjoinable)).counted⟩
  · rw [heq]
    exact h

theorem Inv.step (h : r.Inv) (t : Turn) : (t.step stops r).Inv := by
  cases t with
  | main => exact h.mainStep
  | transmitThread =>
    simp only [Turn.step]
    split
    case isTrue hj =>
      cases hstep : r.comm.transmitThread with
      | none => exact h
      | some comm =>
        exact .of_reachable h.accepted ((h.transmission hj).step ⟨.transmitThread, hstep⟩)
    case isFalse => exact h

theorem Inv.after (h : r.Inv) (stops : Bool) (schedule : List Turn) :
    (r.after stops schedule).Inv := by
  induction schedule generalizing r with
  | nil => exact h
  | cons t schedule ih => exact ih (h.step t)

/-! ## One schedule -/

theorem semaphoreBounded_iff_along (h : r.comm.semaphoreTx ≤ semaphoreTxMax)
    (schedule : List Turn) : r.SemaphoreBounded stops schedule ↔
      Along (fun pre t => (r.after stops (pre ++ [t])).comm.semaphoreTx ≤ semaphoreTxMax)
        schedule := by
  constructor
  · intro hbounded pre t hpre
    exact hbounded (pre ++ [t]) hpre
  · intro halong pre hpre
    rcases List.eq_nil_or_concat' pre with rfl | ⟨pre, t, rfl⟩
    · exact h
    · exact halong pre t hpre

/-- **One schedule**: the counter stays in its bound exactly if there is room at every release. -/
theorem semaphoreBounded_iff_hasRoom (hinv : r.Inv) (h : r.comm.semaphoreTx ≤ semaphoreTxMax)
    (schedule : List Turn) :
    r.SemaphoreBounded stops schedule ↔ Along (r.HasRoom stops) schedule := by
  rw [semaphoreBounded_iff_along h]
  refine along_iff (I := fun pre => (r.after stops pre).comm.semaphoreTx ≤ semaphoreTxMax) h ?_
    fun _ _ _ _ hbounded => hbounded
  intro pre t _ hbounded
  have hinv := hinv.after stops pre
  rw [after_concat]
  cases t with
  | main =>
    obtain ⟨hup, hsame⟩ := semaphoreTx_mainStep stops hinv.accepted
    by_cases hrel : (r.after stops pre).Releases stops
    · -- up to the last release, the counter and what the thread holds make up what waits
      have hcounted := hinv.counted.resolve_left (not_ended_of_releases hrel)
      have hup : (Turn.main.step stops (r.after stops pre)).comm.semaphoreTx =
          (r.after stops pre).comm.semaphoreTx + 1 := hup hrel
      simp only [HasRoom, hrel, hup, true_implies]
      omega
    · have hsame : (Turn.main.step stops (r.after stops pre)).comm.semaphoreTx =
          (r.after stops pre).comm.semaphoreTx := hsame hrel
      simp [HasRoom, hrel, hsame, hbounded]
  | transmitThread =>
    -- the thread needs no room
    refine iff_of_true ((semaphoreTx_transmitThread stops _).trans hbounded) ?_
    intro hmain
    cases hmain

/-! ## All schedules -/

/-- What a step of the simulator adds to the counter, it takes from the releases that are left. -/
theorem semaphoreTx_add_releasesLeft_mainStep (haccepted : ∀ f ∈ r.pending, f.Accepted) :
    (r.mainStep stops).comm.semaphoreTx + (r.mainStep stops).releasesLeft stops =
      r.comm.semaphoreTx + r.releasesLeft stops := by
  rcases mainStep_cases stops r with ⟨f, fs, hpending, heq⟩ | ⟨comm, hpending, hstops, hstep, heq⟩ |
    ⟨hpending, hjoin, hjoinable, heq⟩ | ⟨-, heq⟩
  · have hf : f.Accepted := haccepted f (by simp [hpending])
    rw [heq, TransmitState.pushMessage_of_accepted hf]
    simp only [releasesLeft, hpending, List.length_cons]
    omega
  · rw [heq]
    rcases TransmitState.shutdownStep_cases hstep with ⟨hpc, rfl⟩ | ⟨hpc, rfl⟩ | ⟨hpc, rfl⟩
    · simp [releasesLeft, hstops, hpc]
    · simp [releasesLeft, hstops, hpc]
    · simp only [releasesLeft, hstops, hpc, reduceCtorEq, if_true, if_false]
      omega
  -- the release of the second `Shutdown` is the one that `joinable` stood for
  · rw [heq]
    simp [releasesLeft, hjoin, hjoinable]
  · rw [heq]

theorem releasesLeft_transmitThread (stops : Bool) (r : CommRun) :
    (Turn.transmitThread.step stops r).releasesLeft stops = r.releasesLeft stops := by
  simp only [Turn.step]
  split
  · cases hstep : r.comm.transmitThread with
    | none => rfl
    | some comm =>
      rcases TransmitState.transmitThread_cases hstep with ⟨-, -, rfl⟩ | ⟨-, -, rfl⟩ |
        ⟨n, -, -, rfl⟩ | ⟨msg, rest, -, -, rfl⟩ | ⟨-, -, rfl⟩ <;> rfl
  · rfl

/-- The counter and the releases that are left never add up to more than at the start. -/
theorem semaphoreTx_add_releasesLeft_step (hinv : r.Inv) (t : Turn) :
    (t.step stops r).comm.semaphoreTx + (t.step stops r).releasesLeft stops ≤
      r.comm.semaphoreTx + r.releasesLeft stops := by
  cases t with
  | main => exact (semaphoreTx_add_releasesLeft_mainStep hinv.accepted).le
  | transmitThread =>
    rw [releasesLeft_transmitThread]
    exact Nat.add_le_add_right (semaphoreTx_transmitThread stops r) _

theorem semaphoreTx_add_releasesLeft_after (hinv : r.Inv) (stops : Bool) (schedule : List Turn) :
    (r.after stops schedule).comm.semaphoreTx + (r.after stops schedule).releasesLeft stops ≤
      r.comm.semaphoreTx + r.releasesLeft stops := by
  induction schedule generalizing r with
  | nil => exact Nat.le_refl _
  | cons t schedule ih => exact (ih (hinv.step t)).trans (semaphoreTx_add_releasesLeft_step hinv t)

/-- The simulator pushes while the transmit thread gets no turn. -/
theorem after_replicate_main (stops : Bool) {fs : List Frame} (h : ∀ f ∈ fs, f.Accepted)
    (gs : List Frame) (joinable : Bool) (s : TransmitState) : ∃ queue accepted,
      after stops ⟨fs ++ gs, joinable, s⟩ (List.replicate fs.length .main) =
        ⟨gs, joinable, { s with
          messageQueueTx := queue
          semaphoreTx := s.semaphoreTx + fs.length
          accepted := accepted }⟩ := by
  induction fs generalizing s with
  | nil => exact ⟨_, _, rfl⟩
  | cons f fs ih =>
    rw [List.forall_mem_cons] at h
    obtain ⟨queue, accepted, hrun⟩ := ih h.2 (s.pushMessage f)
    refine ⟨queue, accepted, ?_⟩
    rw [List.length_cons, List.replicate_succ, after_cons]
    refine hrun.trans ?_
    -- each push adds one to the counter, and nobody takes it away
    rw [TransmitState.pushMessage_of_accepted h.1]
    simp [Nat.add_assoc, Nat.add_comm 1]

/-- The turns of a stop in which the transmit thread ends without having acquired. -/
def shutdownTurns (stops joinable : Bool) : List Turn :=
  if stops = false then []
  else [.main, .main, .main] ++
    if joinable = false then [] else [.transmitThread, .main, .main, .main, .main]

/-- If the transmit thread gets no turn before the stop, nothing is taken from the counter. -/
theorem semaphoreTx_worst (sys : SystemResults) {fs : List Frame} (h : ∀ f ∈ fs, f.Accepted) :
    ((start sys fs).after stops (List.replicate fs.length .main ++
        shutdownTurns stops (start sys fs).joinable)).comm.semaphoreTx =
      (start sys fs).releasesLeft stops := by
  obtain ⟨queue, accepted, hrun⟩ := after_replicate_main stops h []
    (start sys fs).joinable .initial
  rw [List.append_nil] at hrun
  have hstart : start sys fs = ⟨fs, (start sys fs).joinable, .initial⟩ := rfl
  rw [after_append, hstart, hrun]
  cases stops with
  | false => simp [shutdownTurns, releasesLeft, TransmitState.initial]
  | true =>
    cases (start sys fs).joinable with
    | false =>
      -- without threads, `Shutdown` releases once and its join throws
      simp [shutdownTurns, releasesLeft, TransmitState.initial, Turn.step, CommRun.mainStep,
        TransmitState.shutdownStep]
    | true =>
      -- with threads, the destructor releases a second time
      simp [shutdownTurns, releasesLeft, TransmitState.initial, Turn.step, CommRun.mainStep,
        TransmitState.shutdownStep, TransmitState.transmitThread]

/-- **All schedules**: the counter stays in its bound under every schedule exactly if there are
no more releases than it can count. -/
theorem semaphoreBounded_iff_releasesLeft (sys : SystemResults) {fs : List Frame}
    (h : ∀ f ∈ fs, f.Accepted) :
    (∀ schedule, (start sys fs).SemaphoreBounded stops schedule) ↔
      (start sys fs).releasesLeft stops ≤ semaphoreTxMax := by
  constructor
  · intro hbounded
    -- the worst schedule reaches the number of releases
    rw [← semaphoreTx_worst sys h]
    exact hbounded _ _ List.prefix_rfl
  · intro hleft schedule pre _
    -- and no schedule gets above it
    have hsum := semaphoreTx_add_releasesLeft_after (inv_start sys h) stops pre
    have hzero : (start sys fs).comm.semaphoreTx = 0 := rfl
    omega

end CommRun

/-! ## Runs of the plugin -/

/-- A frame that the length check would refuse. -/
def Effect.refused? : Effect → Option Frame
  | .push f => if f.Accepted then none else some f
  | _ => none

theorem accepted_pushes_update (env : Datarefs) (s : Globals) :
    ∀ f ∈ pushes (update env s).2, f.Accepted := by
  have hrefused : (update env s).2.filterMap Effect.refused? = [] :=
    observed_update_eq_nil (fun _ h => if_pos h) (fun _ => rfl) (fun _ _ => rfl) env s
  intro f hf
  obtain ⟨e, he, hframe⟩ := List.mem_filterMap.mp hf
  cases e with
  | push g =>
    obtain rfl : g = f := Option.some.inj hframe
    have hnone : Effect.refused? (.push g) = none := List.filterMap_eq_nil_iff.mp hrefused _ he
    -- a refused frame would be one of the effects that the filter shows
    by_contra hnot
    rw [Effect.refused?, if_neg hnot] at hnone
    cases hnone
  | _ => cases hframe

theorem accepted_pushes_started (env₀ : Datarefs) :
    ∀ f ∈ pushes (started env₀).2, f.Accepted := by
  have hlights : ∀ f ∈ backlights, f.Accepted := by decide
  have hopen : ∀ f ∈ openings, f.Accepted := by simp [openings]
  intro f hf
  rw [pushes_started, List.mem_append, List.mem_append, List.mem_singleton] at hf
  rcases hf with (hf | hf) | rfl
  · exact hlights f hf
  · exact hopen f hf
  · split <;> simp

/-- **Every frame of a run** passes the length check. -/
theorem accepted_pushes_session (hash : Bytes → UInt64) (env₀ : Datarefs) (events : List Event) :
    ∀ f ∈ pushes (session hash env₀ events).2, f.Accepted :=
  forall_pushes_session (accepted_pushes_started env₀) accepted_pushes_update hash events

/-- The start of a run of the plugin. -/
def CommRun.life (sys : SystemResults) (hash : Bytes → UInt64) (env₀ : Datarefs)
    (events : List Event) : CommRun := .start sys (pushes (session hash env₀ events).2)

/-- How often `Shutdown` releases: in `XPluginStop`, and again in the destructor if the first
call has come back from its `join`. -/
def shutdownReleases (stops : Bool) (sys : SystemResults) : ℕ :=
  if stops = true then 1 + ((SkalarkiComm.afterInit sys).joinable .transmit).toNat else 0

/-- **The bound of the semaphore**: under one schedule the counter stays in it exactly if at
every release fewer messages wait than the semaphore can count. It stays in it under every
schedule exactly if the run pushes no more messages than that, the releases of `Shutdown`
included. -/
theorem semaphoreBounded_iff (sys : SystemResults) (stops : Bool) (hash : Bytes → UInt64)
    (env₀ : Datarefs) (events : List Event) :
    let life := CommRun.life sys hash env₀ events
    (∀ schedule, life.SemaphoreBounded stops schedule ↔ Along (life.HasRoom stops) schedule) ∧
      ((∀ schedule, life.SemaphoreBounded stops schedule) ↔
        (pushes (session hash env₀ events).2).length + shutdownReleases stops sys ≤
          semaphoreTxMax) := by
  intro life
  have haccepted := accepted_pushes_session hash env₀ events
  refine ⟨fun schedule => ?_, CommRun.semaphoreBounded_iff_releasesLeft sys haccepted⟩
  exact CommRun.semaphoreBounded_iff_hasRoom (CommRun.inv_start sys haccepted) (Nat.zero_le _)
    schedule

/-! ## A run without a connection -/

/-- The readings with the A/THR light at 0 or 1. -/
def Datarefs.athr (x : ℚ) : Datarefs :=
  { Datarefs.zero with annunciator := Function.update (fun _ => 0) .athr x }

@[simp] theorem Datarefs.athr_annunciator (x : ℚ) : (Datarefs.athr x).annunciator .athr = x := by
  simp [Datarefs.athr]

/-- Updates that see the A/THR light go on and off. -/
def blinking : ℕ → List Event
  | 0 => []
  | n + 1 => blinking n ++ [.update (.athr ((n + 1) % 2 : ℕ))]

theorem threshold_mod_two (n : ℕ) : Update.threshold ((n % 2 : ℕ) : ℚ) = (n % 2 : ℕ) := by
  rcases Nat.mod_two_eq_zero_or_one n with h | h <;> rw [h] <;> norm_num [Update.threshold]

theorem lastReading_blinking (n : ℕ) : lastReading .athr (blinking n) = (n % 2 : ℕ) := by
  cases n with
  | zero => rfl
  | succ n => simp [lastReading, blinking, Event.reading, threshold_mod_two]

/-- Every update of a blinking light pushes a frame. -/
theorem le_length_pushes_blinking (n : ℕ) :
    n ≤ (pushes (session fnv1a .zero (blinking n)).2).length := by
  induction n with
  | zero => exact Nat.zero_le _
  | succ n ih =>
    -- the parity changes with every update
    have hchange : Update.threshold ((Datarefs.athr ((n + 1) % 2 : ℕ)).annunciator .athr) ≠
        lastReading .athr (blinking n) := by
      rw [lastReading_blinking, Datarefs.athr_annunciator, threshold_mod_two]
      omega
    have hframe := (framesFor_update_ne_nil_iff fnv1a .zero .athr (blinking n) _).mpr hchange
    have hpush : pushes (update (Datarefs.athr ((n + 1) % 2 : ℕ))
        (session fnv1a .zero (blinking n)).1).2 ≠ [] :=
      fun hnil => hframe (framesFor_of_pushes_eq_nil _ hnil)
    have hpos := List.length_pos_iff.mpr hpush
    rw [blinking, session_update, exec_snd, pushes_append, List.length_append]
    omega

/-- The connection is refused, and a light changes 1001 times. -/
theorem semaphoreBounded_unconnected :
    ¬ ∀ (sys : SystemResults) (stops : Bool) (hash : Bytes → UInt64) (env₀ : Datarefs)
      (events : List Event) (schedule : List Turn),
      (CommRun.life sys hash env₀ events).SemaphoreBounded stops schedule := by
  intro h
  obtain ⟨events, hlength⟩ : ∃ events,
      1001 ≤ (pushes (session fnv1a .zero events).2).length :=
    ⟨blinking 1001, le_length_pushes_blinking 1001⟩
  have hleft := (CommRun.semaphoreBounded_iff_releasesLeft ⟨0, 0, some 3, socketError, 0, 0, 0⟩
    (accepted_pushes_session fnv1a .zero events)).mp (h _ false fnv1a .zero events)
  simp only [CommRun.releasesLeft, CommRun.start, semaphoreTxMax] at hleft
  omega

end SkalarkiFcu
